import FixtureProbe.Proofs.Probe.Settled
import FixtureProbe.Proofs.Probe.Tables
import Mathlib.Data.Set.Defs

/-!
# Failures stay where they arise

Take two nodes without a memory that may reply differently to the calls of some set, and to no other
calls. Walks with the two nodes then differ at most where those calls are made: the trace of a match
whose own call lies outside of the set is the same in both, except for the steps that look up an
entity with a call of the set, and even these steps are attempted in both. So what is wrong with one
league or team never spreads to another lookup, and what is wrong with one match never spreads to
another match.
-/

namespace FixtureProbe

open Dialogue

variable {α σ τ : Type}

/-- Replies that are the same for all calls outside of a set. -/
def Reader.AgreeOutside (reader : Reader) (S : Set Operation)
    (reply reply' : (r : Request) -> r.Reply) : Prop :=
  forall op, op ∉ S -> forall calldata, reader.interface.encode op = .ok calldata ->
    reply (.call reader.address calldata) = reply' (.call reader.address calldata)

/-- Traces of one match that attempt the same steps and may differ only in the outcomes of those
that look up a league or a team with a call of a set. -/
structure MatchTrace.DiffersWithin (S : Set Operation) (trace trace' : MatchTrace) : Prop where
  matchId : trace.matchId = trace'.matchId
  fixture : trace.fixture = trace'.fixture
  league :
    (forall id, trace.target (fun m => Walk.target m.leagueId) = .ok id -> .getLeague id ∉ S) ->
      trace.league = trace'.league
  homeTeam :
    (forall id, trace.target (fun m => Walk.target m.homeId) = .ok id -> .getTeam id ∉ S) ->
      trace.homeTeam = trace'.homeTeam
  awayTeam :
    (forall id, trace.target Match.awayTarget = .ok id -> .getTeam id ∉ S) ->
      trace.awayTeam = trace'.awayTeam
  attempted : trace.attempted = trace'.attempted

theorem MatchTrace.DiffersWithin.calls_eq {S : Set Operation} {trace trace' : MatchTrace}
    (h : trace.DiffersWithin S trace') : trace.calls = trace'.calls := by
  unfold MatchTrace.calls
  rw [h.matchId, h.fixture]

/-!
# Single lookups
-/

section Lookups

variable {reader : Reader} {S : Set Operation} {reply reply' : (r : Request) -> r.Reply}

theorem Reader.AgreeOutside.valueWith_read (h : reader.AgreeOutside S reply reply')
    {op : Operation} (hop : op ∉ S) (decode : Bytes -> Except ProbeError α) :
    (reader.read op decode).valueWith reply = (reader.read op decode).valueWith reply' := by
  rw [reader.valueWith_read, reader.valueWith_read]
  unfold answerWith
  cases hencode : reader.interface.encode op with
  | error e => rfl
  | ok calldata =>
      dsimp only
      rw [h op hop calldata hencode]

namespace Walk

theorem stepWith_congr {target : Except SkipReason UInt64} {lookup lookup' : UInt64 -> Outcome α}
    (h : forall id, target = .ok id -> lookup id = lookup' id) :
    stepWith target lookup = stepWith target lookup' := by
  cases target with
  | ok id => exact congrArg Step.ofOutcome (h id rfl)
  | error reason => rfl

theorem attempted_ofOutcome (outcome : Outcome α) : (Step.ofOutcome outcome).attempted = true := by
  cases outcome with
  | ok value => rfl
  | error e => rfl

/-- Whether a step is attempted is a matter of its target. -/
theorem attempted_stepWith (target : Except SkipReason UInt64) (lookup : UInt64 -> Outcome α) :
    (stepWith target lookup).attempted = target.toBool := by
  cases target with
  | ok id => exact attempted_ofOutcome (lookup id)
  | error reason => rfl

/-- The step: the match is read the same, so the targets of the other three steps are the same. -/
theorem Settled.differsWithin (hagree : reader.AgreeOutside S reply reply') {id : UInt64}
    (hid : .getMatch id ∉ S) {trace trace' : MatchTrace} (h : Settled reply reader id trace)
    (h' : Settled reply' reader id trace') : trace.DiffersWithin S trace' := by
  have hfixture : trace.fixture = trace'.fixture := by
    rw [h.fixture, h'.fixture, Reader.readMatch, hagree.valueWith_read hid]
  have htarget : trace.target = trace'.target := by
    unfold MatchTrace.target
    rw [hfixture]
  have hleague := h'.league
  have hhome := h'.homeTeam
  have haway := h'.awayTeam
  rw [← htarget] at hleague hhome haway
  refine ⟨h.matchId.trans h'.matchId.symm, hfixture, ?_, ?_, ?_, ?_⟩
  · intro hout
    rw [h.league, hleague]
    exact stepWith_congr fun leagueId hleagueId => hagree.valueWith_read (hout leagueId hleagueId) _
  · intro hout
    rw [h.homeTeam, hhome]
    exact stepWith_congr fun teamId hteamId => hagree.valueWith_read (hout teamId hteamId) _
  · intro hout
    rw [h.awayTeam, haway]
    exact stepWith_congr fun teamId hteamId => hagree.valueWith_read (hout teamId hteamId) _
  · unfold MatchTrace.attempted
    rw [hfixture, h.league, h.homeTeam, h.awayTeam, hleague, hhome, haway]
    simp only [attempted_stepWith]

end Walk

end Lookups

/-!
# Walks of several matches
-/

namespace Walk

theorem traces_append (reader : Reader) (ids ids' : List UInt64) :
    traces reader (ids ++ ids') = do
      let first ← traces reader ids
      let second ← traces reader ids'
      return first ++ second := by
  induction ids with
  | nil => simp [traces]
  | cons id ids ih => simp [traces, ih]

section Runs

variable {reader : Reader} {node : Node σ} {s s₁ s₂ : σ} {ids ids' : List UInt64}
  {log log' : List Exchange}

theorem run_of_traces {traces : List MatchTrace}
    (hrun : Runs node s (Walk.traces reader ids) traces log s₁) :
    Runs node s (run reader ids) ⟨ids, traces⟩ log s₁ := by
  apply (Runs.note _).silent_bind
  rw [← List.append_nil log]
  exact hrun.bind (Runs.pure _)

/-- A walk over two lists is the walk over the first and then, with the node as that leaves it, the
walk over the second. -/
theorem run_append {first second : CrossReference}
    (hfirst : Runs node s (run reader ids) first log s₁)
    (hsecond : Runs node s₁ (run reader ids') second log' s₂) :
    Runs node s (run reader (ids ++ ids')) ⟨ids ++ ids', first.traces ++ second.traces⟩
      (log ++ log') s₂ := by
  apply run_of_traces
  rw [traces_append]
  apply (traces_of_run hfirst).2.bind
  rw [← List.append_nil log']
  exact (traces_of_run hsecond).2.bind (Runs.pure _)

end Runs

theorem requests_trace (reader : Reader) (node : Node σ) (s : σ) (id : UInt64) :
    ((trace reader id).run node s).requests =
      ((trace reader id).run node s).value.calls.flatMap reader.callRequests := by
  have hrun := Runs.self node s (trace reader id)
  rw [hrun.requests]
  exact (requests_of_trace hrun).2

section Stateless

variable {reader : Reader} {node : Node σ} {reply : (r : Request) -> r.Reply}
  (hnode : node.Stateless reply)

include hnode

theorem value_run (ids : List UInt64) (s : σ) :
    ((run reader ids).run node s).value =
      ⟨ids, ids.map fun id => ((trace reader id).run node s).value⟩ := by
  rw [(run_clockless reader ids).yields hnode s, valueWith_run]
  simp only [(trace_clockless reader _).yields hnode s]

theorem requests_run (ids : List UInt64) (s : σ) :
    ((run reader ids).run node s).requests =
      ids.flatMap fun id => ((trace reader id).run node s).requests := by
  -- What is asked can be read off the traces, for the whole walk and for each match alike.
  have hrun := Runs.self node s (run reader ids)
  rw [hrun.requests, requests_of_run hrun, value_run hnode]
  simp only [requests_trace, List.flatMap_map]

theorem traces_run_append (ids ids' : List UInt64) (s s₁ s₂ : σ) :
    ((run reader (ids ++ ids')).run node s).value.traces =
      ((run reader ids).run node s₁).value.traces ++
        ((run reader ids').run node s₂).value.traces := by
  have hvalue (ids : List UInt64) (t : σ) := (run_clockless reader ids).yields hnode t
  have happend := run_append (Runs.self node s (run reader ids)) (Runs.self node _ (run reader ids'))
  rw [happend.value]
  simp only [hvalue]

end Stateless

/-- Take two nodes without a memory that reply the same to all calls outside of a set. With each of
them a walk is made of the walks of its single matches. The trace of a match whose own call lies
outside of the set comes with the same requests from both nodes, attempts the same steps, and differs
at most in the steps whose own calls lie in the set. And a walk over two lists has the traces of the
walks over either. -/
theorem run_isolated (reader : Reader) {S : Set Operation} {node : Node σ} {other : Node τ}
    {reply reply' : (r : Request) -> r.Reply} (hnode : node.Stateless reply)
    (hother : other.Stateless reply') (hagree : reader.AgreeOutside S reply reply') (s : σ) (t : τ) :
    let walk := fun ids => (run reader ids).run node s
    let walk' := fun ids => (run reader ids).run other t
    let single := fun id => (trace reader id).run node s
    let single' := fun id => (trace reader id).run other t
    (forall ids,
      (walk ids).value = ⟨ids, ids.map fun id => (single id).value⟩ ∧
      (walk ids).requests = ids.flatMap (fun id => (single id).requests) ∧
      (walk' ids).value = ⟨ids, ids.map fun id => (single' id).value⟩ ∧
      (walk' ids).requests = ids.flatMap fun id => (single' id).requests) ∧
    (forall id, .getMatch id ∉ S ->
      (single id).value.DiffersWithin S (single' id).value ∧
      (single id).requests = (single' id).requests) ∧
    (forall ids ids' s₁ s₂,
      (walk (ids ++ ids')).value.traces =
        ((run reader ids).run node s₁).value.traces ++
          ((run reader ids').run node s₂).value.traces) := by
  intro walk walk' single single'
  refine ⟨?_, ?_, ?_⟩
  · intro ids
    exact ⟨value_run hnode ids s, requests_run hnode ids s, value_run hother ids t,
      requests_run hother ids t⟩
  · intro id hid
    have hsettled : Settled reply reader id (single id).value := by
      rw [(trace_clockless reader id).yields hnode s]
      exact settled_trace reply reader id
    have hsettled' : Settled reply' reader id (single' id).value := by
      rw [(trace_clockless reader id).yields hother t]
      exact settled_trace reply' reader id
    have hdiffers := hsettled.differsWithin hagree hid hsettled'
    refine ⟨hdiffers, ?_⟩
    rw [requests_trace, requests_trace, hdiffers.calls_eq]
  · intro ids ids' s₁ s₂
    exact traces_run_append hnode ids ids' s s₁ s₂

end Walk

/-!
# A league that goes missing
-/

namespace Tables

theorem agreeOutside {tables tables' : Tables} {S : Set Operation}
    (h : forall op, op ∉ S -> tables.answer op = tables'.answer op) (address : Address) :
    Reader.AgreeOutside ⟨Interface.embedded, address⟩ S tables.reply tables'.reply := by
  intro op hop calldata hencode
  cases Interface.eq_calldata_of_encode hencode
  rw [reply, reply, Interface.callable_embedded.decodeCall_calldata]
  exact h op hop

/-- The sample tables without their league. -/
def sampleWithoutLeague : Tables :=
  { sampleTables with
    league := fun _ => none
    league_size := fun _ _ h => nomatch h }

theorem answer_sampleWithoutLeague {op : Operation} (hop : op ∉ ({.getLeague 39} : Set Operation)) :
    sampleTables.answer op = sampleWithoutLeague.answer op := by
  cases op with
  | getMatch id => rfl
  | getTeam id => rfl
  | getUnfinishedMatches => rfl
  | getLeague id =>
      have hid : id ≠ 39 := fun heq => hop (congrArg Operation.getLeague heq)
      unfold answer sampleTables
      dsimp only
      rw [only, if_neg hid]
      rfl

end Tables

theorem Walk.run_isolated_sample :
    let reader : Reader := ⟨Interface.embedded, ⟨0x0fff⟩⟩
    let single := (trace reader 7).run Tables.sampleTables.node 0
    let single' := (trace reader 7).run Tables.sampleWithoutLeague.node 5
    single.value.DiffersWithin {.getLeague 39} single'.value ∧
    single.value.league = .fetched ⟨39, "Süper Lig", ""⟩ ∧
    single'.value.league = .failed (.lookup "getLeague" (some 39) "no entry for getLeague(39)") ∧
    single.requests = single'.requests ∧
    ((run reader ([7, 8] ++ [7])).run Tables.sampleTables.node 0).value.traces =
      ((run reader [7, 8]).run Tables.sampleTables.node 0).value.traces ++
        ((run reader [7]).run Tables.sampleTables.node 0).value.traces := by
  intro reader single single'
  have hagree := Tables.agreeOutside (fun _ => Tables.answer_sampleWithoutLeague) ⟨0x0fff⟩
  have h := run_isolated reader Tables.sampleTables.stateless_node
    Tables.sampleWithoutLeague.stateless_node hagree 0 5
  have hmatch : Operation.getMatch 7 ∉ ({.getLeague 39} : Set Operation) := fun heq => nomatch heq
  have htrace : single.value = Tables.sampleTables.trace 7 :=
    (Tables.servedBy_node Tables.sampleTables ⟨0x0fff⟩).yields_trace 7 0
  have htrace' : single'.value = Tables.sampleWithoutLeague.trace 7 :=
    (Tables.servedBy_node Tables.sampleWithoutLeague ⟨0x0fff⟩).yields_trace 7 5
  refine ⟨(h.2.1 7 hmatch).1, ?_, ?_, (h.2.1 7 hmatch).2, h.2.2 [7, 8] [7] 0 0⟩
  · rw [htrace]
    rfl
  · rw [htrace']
    rfl

end FixtureProbe
