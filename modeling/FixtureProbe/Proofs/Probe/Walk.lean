import FixtureProbe.Probe.Walk
import FixtureProbe.Proofs.Precompile.Records
import FixtureProbe.Proofs.Probe.Calls
import Mathlib.Data.List.Forall2

/-!
# What a walk asks and records

The trace of a match tells which calls were made for it: the match itself, and whatever ids the match
that came back holds. This module reads the calls off a trace and shows that a walk makes exactly
these calls, each of them once and in the order of the traces, and that every step records the reply
to its own call, or the reason why there was none.
-/

namespace FixtureProbe

open Dialogue

variable {α σ : Type}

/-!
# A busy node
-/

/-- What a node replies that is too busy for every third request. -/
def Node.flakyReply (count : Nat) (r : Request) : r.Reply :=
  if count % 3 = 2 then .error "busy"
  else
    match r with
    | .chainId => .ok 31337
    | .blockNumber => .ok 1
    | .code _ => .ok []
    | .balance _ => .ok 0
    | .call .. => .ok (recordAnswer Match.sample.fields)
    | .estimateGas .. => .ok 21000

/-- A node that is too busy for every third request. -/
def Node.flaky : Node Nat where
  answer count r := (flakyReply count r, count + 1)
  time count := (count, count)

/-!
# Calls of a trace
-/

/-- The calls that a match asks for: no id of zero, and no team twice. -/
def Match.calls (m : Match) : List Operation :=
  (if m.leagueId = 0 then [] else [.getLeague m.leagueId]) ++
  (if m.homeId = 0 then [] else [.getTeam m.homeId]) ++
  (if m.awayId = 0 ∨ m.awayId = m.homeId then [] else [.getTeam m.awayId])

/-- The calls that are made for a trace: the match, and what it asks for if it was read. -/
def MatchTrace.calls (trace : MatchTrace) : List Operation :=
  match trace.fixture with
  | .fetched m => .getMatch trace.matchId :: m.calls
  | _ => [.getMatch trace.matchId]

/-!
# Targets of the steps

The target of a step is the id that it looks up, or the reason why it looks up nothing.
-/

/-- An id as a target: zero is none. -/
def Walk.target (id : UInt64) : Except SkipReason UInt64 :=
  if id = 0 then .error .zeroId else .ok id

/-- The away team as a target: the home team has been looked up already. -/
def Match.awayTarget (m : Match) : Except SkipReason UInt64 :=
  if m.awayId = 0 then .error .zeroId
  else if m.awayId = m.homeId then .error .sameAsHome
  else .ok m.awayId

/-- The target of a step that depends on the match. -/
def MatchTrace.target (trace : MatchTrace) (f : Match -> Except SkipReason UInt64) :
    Except SkipReason UInt64 :=
  match trace.fixture with
  | .fetched m => f m
  | _ => .error .matchUnavailable

namespace Walk

/-- A step with a given target. -/
def attempt (matchId : UInt64) (what : String) (target : Except SkipReason UInt64)
    (lookup : UInt64 -> Dialogue Log.Record (Outcome α)) : Dialogue Log.Record (Step α) :=
  match target with
  | .ok id => Step.ofOutcome <$> lookup id
  | .error reason => skip matchId what reason

theorem follow_eq (matchId : UInt64) (what : String) (id : UInt64)
    (lookup : UInt64 -> Dialogue Log.Record (Outcome α)) :
    follow matchId what (nonZero id) lookup = attempt matchId what (target id) lookup := by
  unfold nonZero target
  split
  · rfl
  · rfl

theorem followAway_eq (reader : Reader) (matchId : UInt64) (m : Match) :
    followAway reader matchId m = attempt matchId "away team" m.awayTarget reader.readTeam := by
  unfold followAway Match.awayTarget Match.awayTeam nonZero
  by_cases hzero : m.awayId = 0
  · rw [if_pos hzero, if_pos hzero]
    rfl
  · rw [if_neg hzero, if_neg hzero]
    by_cases hhome : m.awayId = m.homeId
    · rw [if_pos hhome, if_pos (by simp [hhome])]
      rfl
    · rw [if_neg hhome, if_neg (by simp [hhome])]
      rfl

theorem calls_target (call : UInt64 -> Operation) (id : UInt64) :
    (target id).toOption.toList.map call = if id = 0 then [] else [call id] := by
  unfold target
  split
  · rfl
  · rfl

theorem calls_awayTarget (call : UInt64 -> Operation) (m : Match) :
    m.awayTarget.toOption.toList.map call =
      if m.awayId = 0 ∨ m.awayId = m.homeId then [] else [call m.awayId] := by
  unfold Match.awayTarget
  by_cases hzero : m.awayId = 0
  · rw [if_pos hzero, if_pos (Or.inl hzero)]
    rfl
  · by_cases hhome : m.awayId = m.homeId
    · rw [if_neg hzero, if_pos hhome, if_pos (Or.inr hhome)]
      rfl
    · rw [if_neg hzero, if_neg hhome, if_neg (not_or.mpr ⟨hzero, hhome⟩)]
      rfl

/-- The calls of a trace are those of its targets, in the order of the steps. -/
theorem calls_eq (trace : MatchTrace) :
    trace.calls =
      [.getMatch trace.matchId] ++
      (trace.target fun m => target m.leagueId).toOption.toList.map .getLeague ++
      (trace.target fun m => target m.homeId).toOption.toList.map .getTeam ++
      (trace.target Match.awayTarget).toOption.toList.map .getTeam := by
  unfold MatchTrace.calls MatchTrace.target
  cases trace.fixture with
  | failed e => rfl
  | skipped reason => rfl
  | fetched m =>
      dsimp only
      rw [calls_target, calls_target, calls_awayTarget]
      simp [Match.calls]

/-!
# One step
-/

/-- How a step was done: without a call for the reason given, or with one call, whose reply is the
outcome. -/
inductive Done (reader : Reader) (call : UInt64 -> Operation)
    (decode : UInt64 -> Bytes -> Except ProbeError α) :
    Except SkipReason UInt64 -> Step α -> List Exchange -> Prop where
  | skipped (reason : SkipReason) : Done reader call decode (.error reason) (.skipped reason) []
  | called (id : UInt64) (reply : Except String Bytes) :
      Done reader call decode (.ok id)
        (.ofOutcome (Reader.verdict (call id) (decode id) reply))
        [reader.called (call id) reply]

section Steps

variable {reader : Reader} {call : UInt64 -> Operation}
  {decode : UInt64 -> Bytes -> Except ProbeError α} {target : Except SkipReason UInt64}
  {step : Step α} {log : List Exchange}

/-- The requests of a step are those of its target. -/
theorem Done.requests (h : Done reader call decode target step log) :
    log.map Exchange.request = (target.toOption.toList.map call).map reader.callRequest := by
  cases h with
  | skipped reason => rfl
  | called id reply => rfl

theorem done_of_attempt (h : reader.interface.Encodes) {node : Node σ} {s s' : σ}
    {matchId : UInt64} {what : String}
    (hrun : Runs node s
      (attempt matchId what target fun id => reader.read (call id) (decode id)) step log s') :
    Done reader call decode target step log := by
  cases target with
  | error reason =>
      have hskip : Runs node s (skip matchId what reason : Dialogue Log.Record (Step α))
          (.skipped reason) [] s := (Runs.note _).bind (Runs.pure _)
      rcases hskip.unique hrun with ⟨rfl, rfl, -⟩
      exact .skipped reason
  | ok id =>
      have hread := Reader.read_runs h node s (call id) (decode id)
      rcases hread.map.unique hrun with ⟨rfl, rfl, -⟩
      exact .called id _

end Steps

/-!
# The requests of a trace

Which requests are made for a trace can be read off the trace, whatever the interface is.
-/

theorem attempt_makes {matchId : UInt64} {what : String} (target : Except SkipReason UInt64)
    {lookup : UInt64 -> Dialogue Log.Record (Outcome α)} {requests : UInt64 -> List Request}
    (hlookup : forall id, (lookup id).Makes (requests id)) :
    (attempt matchId what target lookup).Makes (target.toOption.toList.flatMap requests) := by
  cases target with
  | error reason => exact (Makes.note _).silent_bind fun _ => Makes.pure _
  | ok id =>
      change Makes _ ([id].flatMap requests)
      rw [List.flatMap_singleton]
      exact (hlookup id).map

theorem requests_of_trace {reader : Reader} {node : Node σ} {s s' : σ} {matchId : UInt64}
    {trace : MatchTrace} {log : List Exchange}
    (hrun : Runs node s (Walk.trace reader matchId) trace log s') :
    trace.matchId = matchId ∧
      log.map Exchange.request = trace.calls.flatMap reader.callRequests := by
  rcases hrun.of_bind with ⟨outcome, fixture, rest, s₁, hread, hsteps, rfl⟩
  have hfixture := reader.read_makes_callRequests _ _ hread
  cases outcome with
  | error e =>
      rcases hsteps.of_pure with ⟨rfl, rfl, -⟩
      refine ⟨rfl, ?_⟩
      rw [List.append_nil, hfixture]
      exact (List.flatMap_singleton _ _).symm
  | ok m =>
      rcases hsteps.of_bind with ⟨league, leagueLog, log₁, s₂, hleague, hteams, rfl⟩
      rcases hteams.of_bind with ⟨homeTeam, homeLog, log₂, s₃, hhome, hlast, rfl⟩
      rcases hlast.of_bind with ⟨awayTeam, awayLog, log₃, s₄, haway, hpure, rfl⟩
      rcases hpure.of_pure with ⟨rfl, rfl, -⟩
      rw [Match.league, follow_eq] at hleague
      rw [Match.homeTeam, follow_eq] at hhome
      rw [followAway_eq] at haway
      refine ⟨rfl, ?_⟩
      have hleague := attempt_makes _ (fun _ => reader.read_makes_callRequests _ _) hleague
      have hhome := attempt_makes _ (fun _ => reader.read_makes_callRequests _ _) hhome
      have haway := attempt_makes _ (fun _ => reader.read_makes_callRequests _ _) haway
      rw [calls_eq]
      simp only [List.map_append, List.flatMap_append, List.flatMap_map, List.flatMap_singleton,
        List.append_nil, List.append_assoc]
      rw [hfixture, hleague, hhome, haway]
      rfl

theorem requests_of_traces {reader : Reader} {node : Node σ} {s s' : σ} {ids : List UInt64}
    {traces : List MatchTrace} {log : List Exchange}
    (hrun : Runs node s (Walk.traces reader ids) traces log s') :
    log.map Exchange.request =
      traces.flatMap fun trace => trace.calls.flatMap reader.callRequests := by
  induction ids generalizing s s' traces log with
  | nil =>
      rcases hrun.of_pure with ⟨rfl, rfl, -⟩
      rfl
  | cons id ids ih =>
      rcases hrun.of_bind with ⟨first, firstLog, log₁, s₁, hfirst, hrest, rfl⟩
      rcases hrest.of_bind with ⟨others, othersLog, log₂, s₂, hothers, hpure, rfl⟩
      rcases hpure.of_pure with ⟨rfl, rfl, -⟩
      rw [List.append_nil, List.map_append, List.flatMap_cons, (requests_of_trace hfirst).2,
        ih hothers]

/-- A walk is its traces; the record of its beginning exchanges nothing. -/
theorem traces_of_run {reader : Reader} {node : Node σ} {s s' : σ} {ids : List UInt64}
    {report : CrossReference} {log : List Exchange}
    (hrun : Runs node s (Walk.run reader ids) report log s') :
    report.matchIds = ids ∧ Runs node s (Walk.traces reader ids) report.traces log s' := by
  rcases ((Runs.note _).of_silent_bind hrun).of_bind with
    ⟨traces, tracesLog, rest, s₁, htraces, hpure, rfl⟩
  rcases hpure.of_pure with ⟨rfl, rfl, rfl⟩
  rw [List.append_nil]
  exact ⟨rfl, htraces⟩

theorem requests_of_run {reader : Reader} {node : Node σ} {s s' : σ} {ids : List UInt64}
    {report : CrossReference} {log : List Exchange}
    (hrun : Runs node s (Walk.run reader ids) report log s') :
    log.map Exchange.request =
      report.traces.flatMap fun trace => trace.calls.flatMap reader.callRequests := by
  exact requests_of_traces (traces_of_run hrun).2

/-!
# One match
-/

/-- How the steps of a trace were done, one after another. -/
structure Accounts (reader : Reader) (trace : MatchTrace)
    (fixture league homeTeam awayTeam : List Exchange) : Prop where
  fixture : Done reader .getMatch reader.interface.decodeMatch (.ok trace.matchId) trace.fixture
    fixture
  league : Done reader .getLeague reader.interface.decodeLeague
    (trace.target fun m => target m.leagueId) trace.league league
  homeTeam : Done reader .getTeam reader.interface.decodeTeam
    (trace.target fun m => target m.homeId) trace.homeTeam homeTeam
  awayTeam : Done reader .getTeam reader.interface.decodeTeam
    (trace.target Match.awayTarget) trace.awayTeam awayTeam

/-- What was exchanged for a trace is what its steps exchanged. -/
def Recorded (reader : Reader) (trace : MatchTrace) (log : List Exchange) : Prop :=
  exists fixture league homeTeam awayTeam,
    Accounts reader trace fixture league homeTeam awayTeam ∧
      log = fixture ++ league ++ homeTeam ++ awayTeam

section Runs

variable {reader : Reader} {node : Node σ} {s s' : σ} {log : List Exchange}

theorem Recorded.requests {trace : MatchTrace} (h : Recorded reader trace log) :
    log.map Exchange.request = trace.calls.map reader.callRequest := by
  rcases h with ⟨fixture, league, homeTeam, awayTeam, haccounts, rfl⟩
  rw [calls_eq]
  simp only [List.map_append]
  rw [haccounts.fixture.requests, haccounts.league.requests, haccounts.homeTeam.requests,
    haccounts.awayTeam.requests]
  rfl

variable (h : reader.interface.Encodes)

include h

/-- The step: following a match records what is exchanged for it. -/
theorem recorded_of_trace {matchId : UInt64} {trace : MatchTrace}
    (hrun : Runs node s (Walk.trace reader matchId) trace log s') :
    trace.matchId = matchId ∧ Recorded reader trace log := by
  rcases hrun.of_bind with ⟨outcome, fixture, rest, s₁, hread, hsteps, rfl⟩
  rcases (Reader.read_runs h node s _ _).unique hread with ⟨houtcome, hlog, -⟩
  have hfixture : Done reader .getMatch reader.interface.decodeMatch (.ok matchId)
      (.ofOutcome outcome) fixture := by
    rw [← houtcome, ← hlog]
    exact .called matchId _
  -- Whether the match was read decides what the other three steps do, and nothing else does.
  cases outcome with
  | error e =>
      rcases hsteps.of_pure with ⟨rfl, rfl, -⟩
      refine ⟨rfl, fixture, [], [], [], ⟨hfixture, ?_, ?_, ?_⟩, by simp⟩
      · exact .skipped .matchUnavailable
      · exact .skipped .matchUnavailable
      · exact .skipped .matchUnavailable
  | ok m =>
      rcases hsteps.of_bind with ⟨league, leagueLog, log₁, s₂, hleague, hteams, rfl⟩
      rcases hteams.of_bind with ⟨homeTeam, homeLog, log₂, s₃, hhome, hlast, rfl⟩
      rcases hlast.of_bind with ⟨awayTeam, awayLog, log₃, s₄, haway, hpure, rfl⟩
      rcases hpure.of_pure with ⟨rfl, rfl, -⟩
      rw [Match.league, follow_eq] at hleague
      rw [Match.homeTeam, follow_eq] at hhome
      rw [followAway_eq] at haway
      refine ⟨rfl, fixture, leagueLog, homeLog, awayLog, ⟨hfixture, ?_, ?_, ?_⟩, by simp⟩
      · exact done_of_attempt h hleague
      · exact done_of_attempt h hhome
      · exact done_of_attempt h haway

/-- The run: by induction on the ids, each trace records its share of what is exchanged. -/
theorem recorded_of_traces {ids : List UInt64} {traces : List MatchTrace}
    (hrun : Runs node s (Walk.traces reader ids) traces log s') :
    traces.map MatchTrace.matchId = ids ∧
      exists logs, log = logs.flatten ∧ List.Forall₂ (Recorded reader) traces logs := by
  induction ids generalizing s s' traces log with
  | nil =>
      rcases hrun.of_pure with ⟨rfl, rfl, -⟩
      exact ⟨rfl, [], rfl, .nil⟩
  | cons id ids ih =>
      rcases hrun.of_bind with ⟨first, firstLog, log₁, s₁, hfirst, hrest, rfl⟩
      rcases hrest.of_bind with ⟨others, othersLog, log₂, s₂, hothers, hpure, rfl⟩
      rcases hpure.of_pure with ⟨rfl, rfl, -⟩
      rcases recorded_of_trace h hfirst with ⟨hid, hrecorded⟩
      rcases ih hothers with ⟨hids, logs, rfl, hlogs⟩
      refine ⟨?_, firstLog :: logs, ?_, .cons hrecorded hlogs⟩
      · rw [List.map_cons, hid, hids]
      · rw [List.append_nil, List.flatten_cons]

theorem recorded_of_run {ids : List UInt64} {report : CrossReference}
    (hrun : Runs node s (Walk.run reader ids) report log s') :
    report.matchIds = ids ∧ report.traces.map MatchTrace.matchId = ids ∧
      exists logs, log = logs.flatten ∧ List.Forall₂ (Recorded reader) report.traces logs := by
  rcases traces_of_run hrun with ⟨hids, htraces⟩
  exact ⟨hids, recorded_of_traces h htraces⟩

end Runs

/-- The traces of a walk account for all its requests. -/
theorem requests_of_recorded {reader : Reader} {traces : List MatchTrace}
    {logs : List (List Exchange)} (h : List.Forall₂ (Recorded reader) traces logs) :
    logs.flatten.map Exchange.request =
      traces.flatMap fun trace => trace.calls.map reader.callRequest := by
  induction h with
  | nil => rfl
  | cons hfirst hothers ih =>
      rw [List.flatten_cons, List.map_append, List.flatMap_cons, hfirst.requests, ih]

/-!
# The walk
-/

/-- A walk gives one trace for each id, in order; its requests are the calls of its traces, and the
outcome of each step is the reply to its own call or the reason why there was none. -/
theorem run_recorded (reader : Reader) (h : reader.interface.Encodes) (node : Node σ) (s : σ)
    (ids : List UInt64) :
    let run := (Walk.run reader ids).run node s
    run.value.matchIds = ids ∧
    run.value.traces.map MatchTrace.matchId = ids ∧
    run.requests =
      run.value.traces.flatMap (fun trace => trace.calls.map reader.callRequest) ∧
    exists logs, run.exchanges = logs.flatten ∧
      List.Forall₂ (Recorded reader) run.value.traces logs := by
  intro run
  have hrun := Runs.self node s (Walk.run reader ids)
  rcases recorded_of_run h hrun with ⟨hids, htraces, logs, hlogs, hrecorded⟩
  refine ⟨hids, htraces, ?_, logs, hlogs, hrecorded⟩
  rw [hrun.requests, hlogs]
  exact requests_of_recorded hrecorded

/-- The first two matches are read, but no record of a match decodes as one of a league or of a team.
The third match falls to a request that the node is too busy for. -/
theorem run_recorded_flaky :
    let reader : Reader := ⟨Interface.embedded, ⟨0x0fff⟩⟩
    let run := (Walk.run reader [7, 0, 7]).run Node.flaky 0
    run.value.traces.map MatchTrace.matchId = [7, 0, 7] ∧
    run.value.traces.map MatchTrace.attempted =
      [[true, true, true, true], [true, true, true, true], [true, false, false, false]] ∧
    run.requests =
      run.value.traces.flatMap (fun trace => trace.calls.map reader.callRequest) ∧
    exists logs, run.exchanges = logs.flatten ∧
      List.Forall₂ (Recorded reader) run.value.traces logs :=
  have h := run_recorded ⟨Interface.embedded, ⟨0x0fff⟩⟩ Interface.callable_embedded.encodes
    .flaky 0 [7, 0, 7]
  ⟨h.2.1, by decide +kernel, h.2.2⟩

end Walk

end FixtureProbe
