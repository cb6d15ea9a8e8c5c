import FixtureProbe.Probe.Defaults

/-!
# The current ids after any number of refinements

Discoveries and matches refine the current ids, in any number and in any order. Each of the three ids
remembers the last thing that had something to say about it: an empty discovery says nothing, and
neither does a match about a league or a home team of id zero. So discoveries and matches do not get in
each other's way, and nothing else that a match holds counts, its away team least of all.
-/

namespace FixtureProbe

/-- Something that refines the current ids. -/
inductive Refinement where
  | discovery (ids : List UInt64)
  | fixture (m : Match)

namespace Refinement

/-- The discovered ids, if it is a discovery. -/
def discovery? : Refinement -> Option (List UInt64)
  | .discovery ids => some ids
  | .fixture _ => none

/-- The match, if it is one. -/
def fixture? : Refinement -> Option Match
  | .discovery _ => none
  | .fixture m => some m

/-- The same refinement with another away team for every match. -/
def replaceAway (away : Match -> UInt64) : Refinement -> Refinement
  | .discovery ids => .discovery ids
  | .fixture m => .fixture { m with awayId := away m }

/-- The discoveries of a sequence, in order. -/
def discoveries (steps : List Refinement) : List (List UInt64) :=
  steps.filterMap discovery?

/-- The matches of a sequence, in order. -/
def fixtures (steps : List Refinement) : List Match :=
  steps.filterMap fixture?

theorem discoveries_replaceAway (away : Match -> UInt64) (steps : List Refinement) :
    discoveries (steps.map (replaceAway away)) = discoveries steps := by
  rw [discoveries, List.filterMap_map]
  apply congrArg (List.filterMap · steps)
  funext step
  cases step <;> rfl

theorem fixtures_replaceAway (away : Match -> UInt64) (steps : List Refinement) :
    fixtures (steps.map (replaceAway away)) =
      (fixtures steps).map fun m => { m with awayId := away m } := by
  rw [fixtures, fixtures, List.filterMap_map, List.map_filterMap]
  apply congrArg (List.filterMap · steps)
  funext step
  cases step <;> rfl

end Refinement

namespace Defaults

open Refinement

/-- The current ids after one refinement. -/
def refine (defaults : Defaults) : Refinement -> Defaults
  | .discovery ids => defaults.withDiscovery ids
  | .fixture m => defaults.withMatch m

/-- The current ids after a sequence of refinements. -/
def refineAll (start : Defaults) (steps : List Refinement) : Defaults :=
  steps.foldl refine start

/-!
# The last of some ids
-/

/-- The last id of a list, or another one if the list is empty. -/
def latest (ids : List UInt64) (start : UInt64) : UInt64 :=
  ids.getLast?.getD start

theorem latest_cons (id : UInt64) (ids : List UInt64) (start : UInt64) :
    latest (id :: ids) start = latest ids id := by
  rw [latest, List.getLast?_cons, Option.getD_some, latest]

theorem latest_heads (found : List UInt64) (later : List (List UInt64)) (start : UInt64) :
    latest ((found :: later).filterMap List.head?) start =
      latest (later.filterMap List.head?) (found.head?.getD start) := by
  cases found with
  | nil => rfl
  | cons id found =>
      rw [List.filterMap_cons_some (List.head?_cons), latest_cons]
      rfl

theorem latest_nonZero (id : UInt64) (later : List UInt64) (start : UInt64) :
    latest ((id :: later).filter (· ≠ 0)) start =
      latest (later.filter (· ≠ 0)) ((nonZero id).getD start) := by
  by_cases hzero : id = 0
  · rw [List.filter_cons_of_neg (by simpa using hzero), nonZero, if_pos hzero, Option.getD_none]
  · rw [List.filter_cons_of_pos (by simpa using hzero), nonZero, if_neg hzero, Option.getD_some,
      latest_cons]

/-- Among ids that are not zero the last one is not zero either. -/
theorem latest_ne_zero (ids : List UInt64) {start : UInt64} (h : start ≠ 0) :
    latest (ids.filter (· ≠ 0)) start ≠ 0 := by
  cases hlast : (ids.filter (· ≠ 0)).getLast? with
  | none => rwa [latest, hlast, Option.getD_none]
  | some id =>
      rw [latest, hlast, Option.getD_some]
      have hmem := List.mem_of_getLast? hlast
      simpa using (List.mem_filter.mp hmem).2

/-!
# One field after a sequence

A field is the last of the ids that a sequence has for it, if every step adds to these ids in front what
it makes of the field.
-/

theorem field_refineAll (field : Defaults -> UInt64) {news : List Refinement -> List UInt64}
    (hnil : news [] = [])
    (hcons : forall defaults step steps,
      latest (news (step :: steps)) (field defaults) = latest (news steps) (field (defaults.refine step)))
    (start : Defaults) (steps : List Refinement) :
    field (start.refineAll steps) = latest (news steps) (field start) := by
  induction steps generalizing start with
  | nil =>
      rw [hnil]
      rfl
  | cons step steps ih =>
      rw [hcons, ← ih]
      rfl

theorem matchId_refineAll (start : Defaults) (steps : List Refinement) :
    (start.refineAll steps).matchId =
      latest ((discoveries steps).filterMap List.head?) start.matchId := by
  apply field_refineAll matchId
  · rfl
  · intro defaults step steps
    cases step with
    | discovery ids => exact latest_heads ids (discoveries steps) defaults.matchId
    | fixture m => rfl

theorem leagueId_refineAll (start : Defaults) (steps : List Refinement) :
    (start.refineAll steps).leagueId =
      latest (((fixtures steps).map Match.leagueId).filter (· ≠ 0)) start.leagueId := by
  apply field_refineAll leagueId
  · rfl
  · intro defaults step steps
    cases step with
    | discovery ids => rfl
    | fixture m => exact latest_nonZero m.leagueId _ defaults.leagueId

theorem teamId_refineAll (start : Defaults) (steps : List Refinement) :
    (start.refineAll steps).teamId =
      latest (((fixtures steps).map Match.homeId).filter (· ≠ 0)) start.teamId := by
  apply field_refineAll teamId
  · rfl
  · intro defaults step steps
    cases step with
    | discovery ids => rfl
    | fixture m => exact latest_nonZero m.homeId _ defaults.teamId

/-!
# All three ids
-/

/-- What the current ids are after a sequence of refinements. -/
structure RefinedTo (start : Defaults) (steps : List Refinement) (result : Defaults) : Prop where
  /-- The first id of the last discovery that is not empty. -/
  matchId : result.matchId = latest ((discoveries steps).filterMap List.head?) start.matchId
  leagueId : result.leagueId =
    latest (((fixtures steps).map Match.leagueId).filter (· ≠ 0)) start.leagueId
  teamId : result.teamId =
    latest (((fixtures steps).map Match.homeId).filter (· ≠ 0)) start.teamId
  /-- How discoveries and matches follow each other does not count. -/
  interleaved : forall others, discoveries others = discoveries steps ->
    fixtures others = fixtures steps -> start.refineAll others = result
  away : forall away, start.refineAll (steps.map (replaceAway away)) = result
  leagueId_ne_zero : start.leagueId ≠ 0 -> result.leagueId ≠ 0
  teamId_ne_zero : start.teamId ≠ 0 -> result.teamId ≠ 0

theorem refineAll_eq_of_interleaved (start : Defaults) {steps others : List Refinement}
    (hdiscoveries : discoveries others = discoveries steps)
    (hleagues : (fixtures others).map Match.leagueId = (fixtures steps).map Match.leagueId)
    (hteams : (fixtures others).map Match.homeId = (fixtures steps).map Match.homeId) :
    start.refineAll others = start.refineAll steps := by
  have hmatchId := matchId_refineAll start others
  have hleagueId := leagueId_refineAll start others
  have hteamId := teamId_refineAll start others
  rw [hdiscoveries, ← matchId_refineAll] at hmatchId
  rw [hleagues, ← leagueId_refineAll] at hleagueId
  rw [hteams, ← teamId_refineAll] at hteamId
  cases hothers : start.refineAll others with
  | mk matchId leagueId teamId =>
      rw [hothers] at hmatchId hleagueId hteamId
      dsimp only at hmatchId hleagueId hteamId
      rw [hmatchId, hleagueId, hteamId]

/-- Every sequence of refinements leaves the last ids that it has, and a discovery and a match may
change places. -/
theorem refineAll_refinedTo (start : Defaults) (steps : List Refinement) :
    RefinedTo start steps (start.refineAll steps) ∧
    forall ids m, (start.withDiscovery ids).withMatch m = (start.withMatch m).withDiscovery ids := by
  constructor
  · constructor
    · exact matchId_refineAll start steps
    · exact leagueId_refineAll start steps
    · exact teamId_refineAll start steps
    · intro others hdiscoveries hfixtures
      apply refineAll_eq_of_interleaved start hdiscoveries
      · rw [hfixtures]
      · rw [hfixtures]
    · intro away
      apply refineAll_eq_of_interleaved start (discoveries_replaceAway away steps)
      · rw [fixtures_replaceAway, List.map_map]
        rfl
      · rw [fixtures_replaceAway, List.map_map]
        rfl
    · intro hleague
      rw [leagueId_refineAll]
      exact latest_ne_zero _ hleague
    · intro hteam
      rw [teamId_refineAll]
      exact latest_ne_zero _ hteam
  · intro ids m
    rfl

/-- A match of which only the ids of the league and of the teams matter. -/
def fixtureBetween (leagueId homeId awayId : UInt64) : Match :=
  ⟨1, leagueId, "", "", homeId, "", 0, awayId, "", 0, false, false, false⟩

/-- A league without a home team, then a home team without a league, and an empty discovery at the end. -/
theorem refineAll_refinedTo_sample :
    let steps := [.fixture (fixtureBetween 5 0 9), .discovery [42, 7],
      .fixture (fixtureBetween 0 3 4), .discovery []]
    initial.refineAll steps = ⟨42, 5, 3⟩ ∧ initial.leagueId ≠ 0 ∧
      (initial.refineAll steps).leagueId ≠ 0 ∧ (initial.refineAll steps).teamId ≠ 0 := by
  intro steps
  have h := (refineAll_refinedTo initial steps).1
  exact ⟨by decide, by decide, h.leagueId_ne_zero (by decide), h.teamId_ne_zero (by decide)⟩

end Defaults

end FixtureProbe
