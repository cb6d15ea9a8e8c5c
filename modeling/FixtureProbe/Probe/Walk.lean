import FixtureProbe.Probe.Reader

/-!
# Following matches to their league and teams

A walk reads each match of a list and looks up its league, its home team and its away team. An id of
zero is never looked up, and a team that plays itself is looked up once. A step that fails is
recorded, and the walk goes on.
-/

namespace FixtureProbe

inductive SkipReason where
  | matchUnavailable
  | zeroId
  /-- The away team is the home team, which was looked up already. -/
  | sameAsHome
  deriving DecidableEq

inductive Step (α : Type) where
  | fetched (value : α)
  | failed (error : ProbeError)
  | skipped (reason : SkipReason)
  deriving DecidableEq

namespace Step

def ofOutcome : Outcome α -> Step α
  | .ok value => .fetched value
  | .error e => .failed e

def fetched? : Step α -> Option α
  | .fetched value => some value
  | _ => none

def isFailed : Step α -> Bool
  | .failed _ => true
  | _ => false

def attempted : Step α -> Bool
  | .skipped _ => false
  | _ => true

end Step

structure MatchTrace where
  matchId : UInt64
  fixture : Step Match
  league : Step League
  homeTeam : Step Team
  awayTeam : Step Team
  deriving DecidableEq

namespace MatchTrace

def failures (trace : MatchTrace) : Nat :=
  ([trace.fixture.isFailed, trace.league.isFailed, trace.homeTeam.isFailed,
    trace.awayTeam.isFailed].filter id).length

/-- Which steps made a call: the match, the league, the home team and the away team. -/
def attempted (trace : MatchTrace) : List Bool :=
  [trace.fixture.attempted, trace.league.attempted, trace.homeTeam.attempted,
    trace.awayTeam.attempted]

def unavailable (matchId : UInt64) (e : ProbeError) : MatchTrace where
  matchId
  fixture := .failed e
  league := .skipped .matchUnavailable
  homeTeam := .skipped .matchUnavailable
  awayTeam := .skipped .matchUnavailable

end MatchTrace

structure CrossReference where
  matchIds : List UInt64
  traces : List MatchTrace
  deriving DecidableEq

def CrossReference.failures (report : CrossReference) : Nat :=
  report.traces.foldr (fun trace n => trace.failures + n) 0

namespace Walk

/-!
# Which matches are walked
-/

def fallbackIds : List UInt64 := [1, 2, 3]

def defaultSize : Nat := 5

/-- The first `size` ids of a list, or the fallback ids for an empty list. -/
def workingSet (ids : List UInt64) (size : Nat) : List UInt64 :=
  if ids.isEmpty then fallbackIds else ids.take size

/-!
# Log records
-/

def logTarget : String := "futchain_harness::driver"

def skipName : SkipReason -> String
  | .matchUnavailable => "MatchUnavailable"
  | .zeroId => "ZeroId"
  | .sameAsHome => "SameAsHome"

def skipRecord (matchId : UInt64) (what : String) (reason : SkipReason) : Log.Record :=
  ⟨.debug, logTarget, "skipping lookup", [("match_id", .number matchId.toNat),
    ("what", .text what), ("reason", .shown (skipName reason))]⟩

def startRecord (ids : List UInt64) : Log.Record :=
  ⟨.info, logTarget, "cross-referencing matches",
    [("ids", .shown ("[" ++ String.intercalate ", " (ids.map (toString ·.toNat)) ++ "]"))]⟩

/-!
# The walk
-/

def skip (matchId : UInt64) (what : String) (reason : SkipReason) :
    Dialogue Log.Record (Step α) := do
  Dialogue.note (skipRecord matchId what reason)
  return .skipped reason

def follow (matchId : UInt64) (what : String) (id : Option UInt64)
    (lookup : UInt64 -> Dialogue Log.Record (Outcome α)) : Dialogue Log.Record (Step α) :=
  match id with
  | some id => Step.ofOutcome <$> lookup id
  | none => skip matchId what .zeroId

/-- Looks up the away team, unless it is the home team. -/
def followAway (reader : Reader) (matchId : UInt64) (m : Match) :
    Dialogue Log.Record (Step Team) :=
  if m.awayTeam.isSome && m.awayId = m.homeId then skip matchId "away team" .sameAsHome
  else follow matchId "away team" m.awayTeam reader.readTeam

def trace (reader : Reader) (matchId : UInt64) : Dialogue Log.Record MatchTrace := do
  match ← reader.readMatch matchId with
  | .error e => return .unavailable matchId e
  | .ok m =>
      let league ← follow matchId "league" m.league reader.readLeague
      let homeTeam ← follow matchId "home team" m.homeTeam reader.readTeam
      let awayTeam ← followAway reader matchId m
      return { matchId, fixture := .fetched m, league, homeTeam, awayTeam }

def traces (reader : Reader) : List UInt64 -> Dialogue Log.Record (List MatchTrace)
  | [] => return []
  | id :: ids => do
      let first ← trace reader id
      let others ← traces reader ids
      return first :: others

def run (reader : Reader) (ids : List UInt64) : Dialogue Log.Record CrossReference := do
  Dialogue.note (startRecord ids)
  return ⟨ids, ← traces reader ids⟩

end Walk

end FixtureProbe
