import FixtureProbe.Proofs.Probe.Failures
import FixtureProbe.Proofs.Probe.Settled
import FixtureProbe.Proofs.Probe.Tables

/-!
# One report, many readings of the same

A full run makes the same call in several ways: it reads the entity, it takes the answer as it is,
it repeats the reading for its latency, and the walk looks the entity up once more. The ids come from
two places, the current ids and the matches that are walked. With a node without a memory all of
these agree. The walk begins at the current match and finds there what was read before, and whoever
makes a call that fails is told the same failure.
-/

namespace FixtureProbe

open Dialogue

variable {α β σ : Type}

/-!
# Agreement within a report
-/

namespace SuiteReport

/-- The failure to read what a call asks for, if it was not read. -/
def readError? (report : SuiteReport) : Operation -> Option ProbeError
  | .getMatch _ => Outcome.error? report.fixture
  | .getLeague _ => Outcome.error? report.league
  | .getTeam _ => Outcome.error? report.team
  | .getUnfinishedMatches => Outcome.error? report.discovery

/-- A trace that tells of the current match, of its league and of its home team what was read. -/
structure EchoedBy (report : SuiteReport) (trace : MatchTrace) : Prop where
  fetched : forall m, report.fixture = .ok m <-> trace.fixture = .fetched m
  failed : forall e, report.fixture = .error e <-> trace.fixture = .failed e
  league : forall m, report.fixture = .ok m -> m.leagueId ≠ 0 ->
    trace.league = .ofOutcome report.league
  homeTeam : forall m, report.fixture = .ok m -> m.homeId ≠ 0 ->
    trace.homeTeam = .ofOutcome report.team

end SuiteReport

/-- Every one of some iterations fails with the given failure, or none does. -/
def Latency.repeated (count : UInt32) : Option ProbeError -> List FailedIteration
  | none => []
  | some e => (List.range' 1 count.toNat).map fun iteration => ⟨iteration, e.message⟩

/-- A report on the latency of a call that fails in every iteration, or in none. -/
structure LatencyReport.Repeats (count : UInt32) (op : Operation) (error? : Option ProbeError)
    (report : LatencyReport) : Prop where
  label : report.label = op.text
  iterations : report.iterations = count
  failures : report.failures = Latency.repeated count error?

/-- A result that is recorded for a call and fails at most with the given failure. -/
structure OperationResult.FailsAtMost (op : Operation) (error? : Option ProbeError)
    (recorded : OperationResult α) : Prop where
  operation : recorded.operation = op
  failure : forall e, recorded.result = .error e -> error? = some e

/-- A report whose parts agree wherever they are about the same call. -/
structure SuiteReport.Consistent (iterations : UInt32) (report : SuiteReport) : Prop where
  current : report.crossReference.matchIds.head? = some report.defaults.matchId
  walked : exists trace rest, report.crossReference.traces = trace :: rest ∧ report.EchoedBy trace
  latency : List.Forall₂ (fun op sampled => sampled.Repeats iterations op (report.readError? op))
    report.defaults.operations report.latency
  rawCalls : List.Forall₂ (fun op raw => raw.FailsAtMost op (report.readError? op))
    report.defaults.operations report.rawCalls

/-!
# Failures of one call
-/

namespace Outcome

theorem error?_bind {outcome : Outcome α} {e : ProbeError} (h : outcome.error? = some e)
    (f : α -> Outcome β) : error? (outcome >>= f) = some e := by
  cases outcome with
  | ok a => cases h
  | error e' => exact h

end Outcome

theorem Step.ofOutcome_eq_fetched {outcome : Outcome α} {a : α} :
    ofOutcome outcome = .fetched a <-> outcome = .ok a := by
  cases outcome with
  | ok b => simp [ofOutcome]
  | error e => simp [ofOutcome]

theorem Step.ofOutcome_eq_failed {outcome : Outcome α} {e : ProbeError} :
    ofOutcome outcome = .failed e <-> outcome = .error e := by
  cases outcome with
  | ok a => simp [ofOutcome]
  | error e' => simp [ofOutcome]

section Calls

variable (reply : (r : Request) -> r.Reply) (reader : Reader) (op : Operation)

namespace Reader

theorem error?_rawCall :
    Outcome.error? ((reader.rawCall op).valueWith reply) =
      Outcome.error? (reader.answerWith reply op) := by
  unfold rawCall answerWith
  cases reader.interface.encode op with
  | error e => rfl
  | ok calldata =>
      simp only [valueWith_bind, valueWith_settle, valueWith_pure]
      exact Outcome.error?_map _ _

/-- Where there is no answer, there is nothing to decode. -/
theorem error?_read (decode : Bytes -> Except ProbeError α) {e : ProbeError}
    (h : Outcome.error? (reader.answerWith reply op) = some e) :
    Outcome.error? ((reader.read op decode).valueWith reply) = some e := by
  rw [valueWith_read]
  exact Outcome.error?_bind h decode

theorem error?_invoke {e : ProbeError}
    (h : Outcome.error? (reader.answerWith reply op) = some e) :
    Outcome.error? ((reader.invoke op).valueWith reply) = some e := by
  rw [invoke_eq_map_readEntity, readEntity_eq_read, valueWith_map, Outcome.error?_map]
  exact error?_read reply reader _ _ h

end Reader

/-!
# Sampling
-/

namespace Latency

theorem failures_attempts (label : String) (d : Dialogue Log.Record (Except String α))
    (count iteration : Nat) :
    failures ((attempts label d count iteration).valueWith reply) =
      match d.valueWith reply with
      | .ok _ => []
      | .error text => (List.range' iteration count).map (⟨·, text⟩) := by
  induction count generalizing iteration with
  | zero => cases d.valueWith reply <;> rfl
  | succ count ih =>
      have hrest := ih (iteration + 1)
      simp only [attempts, attempt, valueWith_bind, valueWith_pure]
      cases hvalue : d.valueWith reply with
      | ok a =>
          rw [hvalue] at hrest
          exact hrest
      | error text =>
          rw [hvalue] at hrest
          exact congrArg (_ :: ·) hrest

end Latency

theorem Survey.repeats_sample (iterations : UInt32) :
    LatencyReport.Repeats iterations op (Outcome.error? ((reader.invoke op).valueWith reply))
      ((Latency.sample op.text iterations (timed reader op)).valueWith reply) := by
  rw [Latency.sample, valueWith_bind, valueWith_pure]
  refine ⟨rfl, rfl, ?_⟩
  unfold Latency.report
  dsimp only
  rw [Latency.failures_attempts, timed, valueWith_bind, valueWith_pure]
  cases (reader.invoke op).valueWith reply with
  | ok value => rfl
  | error e => rfl

end Calls

/-!
# The parts of a settled report
-/

theorem MatchTrace.target_of_fetched {trace : MatchTrace} {m : Match}
    (hfixture : trace.fixture = .fetched m) (id : Match -> UInt64) (hid : id m ≠ 0) :
    (trace.target fun m => Walk.target (id m)) = .ok (id m) := by
  rw [MatchTrace.target, hfixture]
  exact if_neg hid

section Settled

variable {reply : (r : Request) -> r.Reply} {reader : Reader} {options : SuiteOptions}
  {report : SuiteReport}

theorem Walk.head?_workingSet (discovery : Outcome (List UInt64)) (fixture : Outcome Match)
    {size : Nat} (hsize : 0 < size) :
    (workingSet (discovery.toOption.getD []) size).head? =
      some (Suite.currentIds discovery fixture).matchId := by
  cases discovery with
  | error e => rfl
  | ok ids =>
      cases ids with
      | nil => rfl
      | cons id ids =>
          cases size with
          | zero => cases hsize
          | succ size => rfl

namespace SuiteReport.Settled

variable (h : report.Settled reply reader options)

include h

/-- What is read once is what the same call gives when it is made again. -/
theorem readError?_eq {op : Operation} (hop : op ∈ report.defaults.operations) :
    report.readError? op = Outcome.error? ((reader.invoke op).valueWith reply) := by
  simp only [Defaults.operations, List.mem_cons, List.not_mem_nil, or_false] at hop
  rcases hop with rfl | rfl | rfl | rfl
  · rw [readError?, h.fixture, Reader.invoke, valueWith_map, Outcome.error?_map]
  · rw [readError?, h.league, Reader.invoke, valueWith_map, Outcome.error?_map]
  · rw [readError?, h.team, Reader.invoke, valueWith_map, Outcome.error?_map]
  · rw [readError?, h.discovery, Reader.invoke, valueWith_map, Outcome.error?_map]

theorem repeats_latency :
    List.Forall₂
      (fun op sampled => sampled.Repeats options.iterations op (report.readError? op))
      report.defaults.operations report.latency := by
  have hsampled : List.Forall₂
      (fun op sampled =>
        LatencyReport.Repeats options.iterations op (report.readError? op) sampled)
      report.defaults.operations (report.latency.map LatencyReport.untimed) := by
    rw [h.latency, Survey.latency, Survey.valueWith_each, List.map_map, List.forall₂_map_right_iff,
      List.forall₂_same]
    intro op hop
    rw [h.readError?_eq hop]
    have hrepeats := Survey.repeats_sample reply reader op options.iterations
    exact ⟨hrepeats.label, hrepeats.iterations, hrepeats.failures⟩
  rw [List.forall₂_map_right_iff] at hsampled
  -- Labels, numbers of iterations and failures are no times.
  exact hsampled.imp fun op sampled h => ⟨h.label, h.iterations, h.failures⟩

theorem failsAtMost_rawCalls :
    List.Forall₂ (fun op raw => raw.FailsAtMost op (report.readError? op))
      report.defaults.operations report.rawCalls := by
  rw [h.rawCalls, Survey.rawCalls, Survey.valueWith_each, List.forall₂_map_right_iff,
    List.forall₂_same]
  intro op hop
  rw [Survey.valueWith_record]
  refine ⟨rfl, ?_⟩
  intro e he
  rw [h.readError?_eq hop]
  apply Reader.error?_invoke
  rw [← Reader.error?_rawCall]
  exact congrArg Outcome.error? he

/-- A lookup of the walk that begins with the current match is a reading of the report, as long as the
match names what is looked up. -/
theorem echoedBy {trace : MatchTrace}
    (htrace : Walk.Settled reply reader report.defaults.matchId trace) : report.EchoedBy trace := by
  have hfixture : trace.fixture = .ofOutcome report.fixture := by
    rw [htrace.fixture, ← h.fixture]
  have hfetched (m : Match) : report.fixture = .ok m <-> trace.fixture = .fetched m := by
    rw [hfixture, Step.ofOutcome_eq_fetched]
  refine ⟨hfetched, ?_, ?_, ?_⟩
  · intro e
    rw [hfixture, Step.ofOutcome_eq_failed]
  · intro m hm hleague
    have hcurrent : report.defaults.leagueId = m.leagueId := by
      rw [h.defaults, hm]
      exact if_neg hleague
    have htarget := MatchTrace.target_of_fetched ((hfetched m).mp hm) Match.leagueId hleague
    rw [htrace.league, htarget, h.league, hcurrent]
    rfl
  · intro m hm hhome
    have hcurrent : report.defaults.teamId = m.homeId := by
      rw [h.defaults, hm]
      exact if_neg hhome
    have htarget := MatchTrace.target_of_fetched ((hfetched m).mp hm) Match.homeId hhome
    rw [htrace.homeTeam, htarget, h.team, hcurrent]
    rfl

theorem consistent (hsize : 0 < options.workingSetSize) : report.Consistent options.iterations := by
  have hids := Walk.head?_workingSet report.discovery report.fixture hsize
  rw [← h.defaults] at hids
  have hwalk := h.crossReference
  rw [Walk.valueWith_run] at hwalk
  rcases List.head?_eq_some_iff.mp hids with ⟨rest, hrest⟩
  refine ⟨?_, ?_, h.repeats_latency, h.failsAtMost_rawCalls⟩
  · rw [hwalk]
    exact hids
  · rw [hwalk, hrest]
    exact ⟨_, _, rfl, h.echoedBy (Walk.settled_trace reply reader report.defaults.matchId)⟩

end SuiteReport.Settled

end Settled

/-!
# The run
-/

/-- Once the probe of a node without a memory has succeeded, a run that may walk at least one match
gives a report whose parts agree. -/
theorem Suite.run_consistent (reader : Reader) {node : Node σ} {reply : (r : Request) -> r.Reply}
    (hnode : node.Stateless reply) (s : σ) {chain : ChainStatus}
    (hprobe : (Reader.probe.run node s).value = .ok chain) (options : SuiteOptions)
    (hsize : 0 < options.workingSetSize) :
    exists report, ((Suite.run reader options).run node s).value = .ok report ∧
      report.Consistent options.iterations := by
  rcases exists_settled hnode hprobe reader options with ⟨report, hvalue, hsettled⟩
  exact ⟨report, hvalue, hsettled.consistent hsize⟩

theorem Suite.run_consistent_sample :
    let reader : Reader := ⟨Interface.embedded, ⟨0x0fff⟩⟩
    (Reader.probe.run Tables.sampleTables.node 0).value = .ok ⟨31337, 1⟩ ∧
    exists report,
      ((Suite.run reader ⟨3, 1⟩).run Tables.sampleTables.node 0).value = .ok report ∧
        report.Consistent 3 :=
  ⟨rfl, run_consistent ⟨Interface.embedded, ⟨0x0fff⟩⟩ Tables.sampleTables.stateless_node 0 rfl
    ⟨3, 1⟩ (by decide)⟩

end FixtureProbe
