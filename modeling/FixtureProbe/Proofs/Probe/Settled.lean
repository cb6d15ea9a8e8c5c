import FixtureProbe.Proofs.Node.Stateless
import FixtureProbe.Proofs.Probe.Suite
import FixtureProbe.Proofs.Probe.Untimed

/-!
# What replies settle

With a node that replies to a request the same whenever it is asked, the replies settle what every
operation ends with, whoever makes it and however often. This module reads off what the replies make
of a call, of the trace of a match and of a walk, and shows that every part of the report on a full
run is settled in this way, but for the times in it.
-/

namespace FixtureProbe

open Dialogue

variable {α σ : Type}

section Replies

variable (reply : (r : Request) -> r.Reply)

/-!
# Calls
-/

namespace Reader

/-- What the replies make of a call. -/
def answerWith (reader : Reader) (op : Operation) : Outcome Bytes :=
  match reader.interface.encode op with
  | .error e => .error e
  | .ok calldata => (reply (.call reader.address calldata)).mapError (ProbeError.ofOperation op)

theorem valueWith_settle (op : Operation) (result : Except String α) :
    (settle op result).valueWith reply = result.mapError (ProbeError.ofOperation op) := by
  cases result with
  | ok value => rfl
  | error reason => rfl

theorem valueWith_call (reader : Reader) (op : Operation) :
    (reader.call op).valueWith reply = reader.answerWith reply op := by
  unfold call answerWith
  cases reader.interface.encode op with
  | error e => rfl
  | ok calldata => exact valueWith_settle reply op _

theorem valueWith_read (reader : Reader) (op : Operation)
    (decode : Bytes -> Except ProbeError α) :
    (reader.read op decode).valueWith reply = reader.answerWith reply op >>= decode := by
  rw [read, valueWith_bind, valueWith_call, valueWith_pure]

end Reader

/-!
# Walks
-/

namespace Walk

/-- What comes of a step with a given target, if lookups have given outcomes. -/
def stepWith (target : Except SkipReason UInt64) (lookup : UInt64 -> Outcome α) : Step α :=
  match target with
  | .ok id => .ofOutcome (lookup id)
  | .error reason => .skipped reason

theorem valueWith_attempt (matchId : UInt64) (what : String) (target : Except SkipReason UInt64)
    (lookup : UInt64 -> Dialogue Log.Record (Outcome α)) :
    (attempt matchId what target lookup).valueWith reply =
      stepWith target fun id => (lookup id).valueWith reply := by
  cases target with
  | ok id => exact valueWith_map reply Step.ofOutcome (lookup id)
  | error reason => rfl

/-- A trace in which every step has its target and the outcome of its own lookup. -/
structure Settled (reader : Reader) (id : UInt64) (trace : MatchTrace) : Prop where
  matchId : trace.matchId = id
  fixture : trace.fixture = .ofOutcome ((reader.readMatch id).valueWith reply)
  league : trace.league = stepWith (trace.target fun m => target m.leagueId) fun leagueId =>
    (reader.readLeague leagueId).valueWith reply
  homeTeam : trace.homeTeam = stepWith (trace.target fun m => target m.homeId) fun teamId =>
    (reader.readTeam teamId).valueWith reply
  awayTeam : trace.awayTeam = stepWith (trace.target Match.awayTarget) fun teamId =>
    (reader.readTeam teamId).valueWith reply

variable (reader : Reader)

theorem settled_trace (matchId : UInt64) :
    Settled reply reader matchId ((trace reader matchId).valueWith reply) := by
  rw [trace, valueWith_bind]
  cases hfixture : (reader.readMatch matchId).valueWith reply with
  | error e => exact ⟨rfl, congrArg Step.ofOutcome hfixture.symm, rfl, rfl, rfl⟩
  | ok m =>
      dsimp only
      rw [Match.league, follow_eq, Match.homeTeam, follow_eq, followAway_eq]
      simp only [valueWith_bind, valueWith_attempt, valueWith_pure]
      exact ⟨rfl, congrArg Step.ofOutcome hfixture.symm, rfl, rfl, rfl⟩

theorem valueWith_traces (ids : List UInt64) :
    (traces reader ids).valueWith reply = ids.map fun id => (trace reader id).valueWith reply := by
  induction ids with
  | nil => rfl
  | cons id ids ih => rw [traces, valueWith_bind, valueWith_bind, ih, valueWith_pure, List.map_cons]

theorem valueWith_run (ids : List UInt64) :
    (run reader ids).valueWith reply =
      ⟨ids, ids.map fun id => (trace reader id).valueWith reply⟩ := by
  rw [run, valueWith_bind, valueWith_bind, valueWith_traces, valueWith_pure]

end Walk

/-!
# Surveys
-/

namespace Survey

theorem valueWith_readCurrentMatch (reader : Reader) (defaults : Defaults) :
    (readCurrentMatch reader defaults).valueWith reply =
      ((reader.readMatch defaults.matchId).valueWith reply,
        refined defaults ((reader.readMatch defaults.matchId).valueWith reply)) := by
  rw [readCurrentMatch, valueWith_bind]
  cases (reader.readMatch defaults.matchId).valueWith reply with
  | ok m => rfl
  | error e => rfl

theorem valueWith_each (act : Operation -> Dialogue Log.Record α) (ops : List Operation) :
    (each act ops).valueWith reply = ops.map fun op => (act op).valueWith reply := by
  induction ops with
  | nil => rfl
  | cons op ops ih => rw [each, valueWith_bind, valueWith_bind, ih, valueWith_pure, List.map_cons]

theorem valueWith_record (act : Operation -> Dialogue Log.Record (Outcome α)) (op : Operation) :
    (record act op).valueWith reply = ⟨op, (act op).valueWith reply⟩ := by
  rw [record, valueWith_bind, valueWith_pure]

end Survey

/-!
# The report
-/

/-- A report in which every part is what the replies decide, but for its times. -/
structure SuiteReport.Settled (reader : Reader) (options : SuiteOptions) (report : SuiteReport) :
    Prop where
  chain : .ok report.chain = Reader.probe.valueWith reply
  debugInfo : report.debugInfo = reader.accountInfo.valueWith reply
  discovery : report.discovery = reader.readUnfinished.valueWith reply
  defaults : report.defaults = Suite.currentIds report.discovery report.fixture
  fixture : report.fixture = (reader.readMatch report.defaults.matchId).valueWith reply
  league : report.league = (reader.readLeague report.defaults.leagueId).valueWith reply
  team : report.team = (reader.readTeam report.defaults.teamId).valueWith reply
  gas : report.gas = (Survey.gas reader report.defaults).valueWith reply
  rawCalls : report.rawCalls = (Survey.rawCalls reader report.defaults).valueWith reply
  latency : report.latency.map LatencyReport.untimed =
    ((Survey.latency reader report.defaults options.iterations).valueWith reply).map
      LatencyReport.untimed
  crossReference : report.crossReference =
    (Walk.run reader
      (Walk.workingSet (report.discovery.toOption.getD []) options.workingSetSize)).valueWith reply

end Replies

namespace Suite

variable {node : Node σ} {reply : (r : Request) -> r.Reply}

/-- Once the probe has succeeded, the replies of a node without a memory settle the report. -/
theorem exists_settled (hnode : node.Stateless reply) {s : σ} {chain : ChainStatus}
    (hprobe : (Reader.probe.run node s).value = .ok chain) (reader : Reader)
    (options : SuiteOptions) :
    exists report, ((Suite.run reader options).run node s).value = .ok report ∧
      report.Settled reply reader options := by
  rw [Reader.probe_clockless.yields hnode s] at hprobe
  rcases run_cases (Runs.self node s (Suite.run reader options)) with
    ⟨probed, probeLog, restLog, s₁, hprobed, -, hrest⟩
  have hconnected := Reader.probe_clockless.eq_valueWith hnode hprobed
  rw [hprobe] at hconnected
  cases hconnected
  rcases hrest with ⟨report, hvalue, hsurvey⟩
  rcases surveys_of_survey hsurvey with ⟨hchain, -, hsurveys⟩
  rcases hsurveys with
    ⟨haccount, hdiscovery, hfixture, hleague, hteam, hgas, hrawCalls, hlatency, hwalk⟩
  -- The match is read with the discovered ids, whose match is still the current one afterwards.
  have hread := (Survey.readCurrentMatch_clockless reader _).eq_valueWith hnode hfixture
  rw [Survey.valueWith_readCurrentMatch] at hread
  rcases Prod.mk.inj hread with ⟨hread, hdefaults⟩
  rw [← hread, refined_withDiscovery] at hdefaults
  have hmatchId : (Defaults.initial.withDiscovery (report.discovery.toOption.getD [])).matchId =
      report.defaults.matchId := by
    rw [hdefaults, matchId_withDiscovery]
  rw [hmatchId] at hread
  refine ⟨report, hvalue, ?_, ?_, ?_, hdefaults, hread, ?_, ?_, ?_, ?_, ?_, ?_⟩
  · rw [hchain, hprobe]
  · exact reader.accountInfo_clockless.eq_valueWith hnode haccount
  · exact (reader.read_clockless _ _).eq_valueWith hnode hdiscovery
  · exact (reader.read_clockless _ _).eq_valueWith hnode hleague
  · exact (reader.read_clockless _ _).eq_valueWith hnode hteam
  · exact (Survey.gas_clockless reader _).eq_valueWith hnode hgas
  · exact (Survey.rawCalls_clockless reader _).eq_valueWith hnode hrawCalls
  · rw [← hlatency.value]
    exact (Survey.latency_alike reader _ _).value_run hnode _
  · exact (Walk.run_clockless reader _).eq_valueWith hnode hwalk

end Suite

end FixtureProbe
