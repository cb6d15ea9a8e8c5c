import FixtureProbe.Proofs.Command.Course
import FixtureProbe.Proofs.Probe.Settled
import FixtureProbe.Proofs.Probe.Tables

/-!
# Single commands and the full run

A command that is given no id finds one out for itself: from the discovered matches, and from the
current match. A full run does the same in phases of its own. With a node without a memory both come
to the same ids, so what a single command reports is what stands in the report on a full run, whatever
discovery and the current match turn out to be.
-/

namespace FixtureProbe

open Dialogue
open Terminal (Line)

variable {α σ : Type}

/-- The ids that the user gives with a command. -/
def Command.givenIds : Command -> List UInt64
  | .fixture id | .league id | .team id => id.toList
  | .cross ids => ids
  | _ => []

/-- What a command without ids reports, where its report is a part of the report on a full run; the
latency of a call is measured anew. -/
inductive SuiteReport.Contains (suite : SuiteReport) : Command -> Report -> Prop where
  | probe : Contains suite .probe (.chain suite.chain)
  | debug : Contains suite .debug (.account suite.chain suite.debugInfo)
  | unfinished : Contains suite .unfinished (.unfinished suite.chain suite.discovery)
  | fixture : Contains suite (.fixture none) (.fixture suite.chain suite.fixture)
  | league : Contains suite (.league none) (.league suite.chain suite.league)
  | team : Contains suite (.team none) (.team suite.chain suite.team)
  | gas : Contains suite .gas (.gas suite.gas)
  | raw : Contains suite .raw (.rawCalls suite.rawCalls)
  | bench {reports : List LatencyReport}
      (h : reports.map LatencyReport.untimed = suite.latency.map LatencyReport.untimed) :
      Contains suite .bench (.latency reports)
  | cross : Contains suite (.cross []) (.crossReference suite.crossReference)

/-!
# Current ids
-/

theorem SuiteReport.Settled.matchId_withDiscovery {reply : (r : Request) -> r.Reply}
    {reader : Reader} {options : SuiteOptions} {suite : SuiteReport}
    (h : suite.Settled reply reader options) :
    (Defaults.initial.withDiscovery (suite.discovery.toOption.getD [])).matchId =
      suite.defaults.matchId := by
  rw [h.defaults, Suite.matchId_withDiscovery]

namespace Command

theorem logged_yields {node : Node σ} {reply : (r : Request) -> r.Reply}
    (hnode : node.Stateless reply) {d : Dialogue Log.Record α} (hd : d.Clockless) {a : α}
    (ha : a = d.valueWith reply) : Yields node (logged d) a := by
  rw [ha]
  exact (hd.yields hnode).mapNotes

theorem tell_yields (node : Node σ) (ls : List Line) : Yields node (tell ls) () :=
  fun _ => (Runs.noteAll _).value

theorem single_yields {node : Node σ} {reply : (r : Request) -> r.Reply}
    (hnode : node.Stateless reply) (ctx : Context) (op : Operation)
    {call : Dialogue Log.Record (Outcome α)} (hcall : call.Clockless) {outcome : Outcome α}
    (houtcome : outcome = call.valueWith reply) : Yields node (single ctx op call) outcome :=
  (tell_yields node _).bind (logged_yields hnode hcall houtcome)

section Settled

variable {reply : (r : Request) -> r.Reply} {reader : Reader} {options : SuiteOptions}
  {suite : SuiteReport} {node : Node σ} (ctx : Context) (hnode : node.Stateless reply)
  (h : suite.Settled reply reader options)

include hnode h

theorem discover_yields :
    Yields node (discover ctx reader)
      (Defaults.initial.withDiscovery (suite.discovery.toOption.getD [])) := by
  apply (logged_yields hnode (reader.read_clockless _ _) h.discovery).bind
  -- A discovery that fails leaves the ids as they are, and so does one that finds nothing.
  cases suite.discovery with
  | error e => exact (tell_yields node _).bind (Yields.pure _)
  | ok ids => exact (tell_yields node _).bind (Yields.pure _)

theorem resolve_yields : Yields node (resolve ctx reader) suite.defaults := by
  apply (discover_yields ctx hnode h).bind
  have hread : (suite.fixture, suite.defaults) =
      (Survey.readCurrentMatch reader
        (Defaults.initial.withDiscovery (suite.discovery.toOption.getD []))).valueWith reply := by
    rw [Survey.valueWith_readCurrentMatch, h.matchId_withDiscovery, ← h.fixture,
      Suite.refined_withDiscovery, ← h.defaults]
  apply (logged_yields hnode (Survey.readCurrentMatch_clockless reader _) hread).bind
  exact (tell_yields node _).bind (Yields.pure _)

/-!
# Reports
-/

theorem fixture_yields (chain : ChainStatus) :
    Yields node (gather ctx reader chain (.fixture none)) (.fixture chain suite.fixture) := by
  have hid : Yields node ((·.matchId) <$> discover ctx reader) suite.defaults.matchId := by
    rw [← h.matchId_withDiscovery]
    exact (discover_yields ctx hnode h).map
  apply hid.bind
  exact (single_yields hnode ctx _ (reader.read_clockless _ _) h.fixture).bind (Yields.pure _)

theorem league_yields (chain : ChainStatus) :
    Yields node (gather ctx reader chain (.league none)) (.league chain suite.league) := by
  have hid : Yields node ((·.leagueId) <$> resolve ctx reader) suite.defaults.leagueId :=
    (resolve_yields ctx hnode h).map
  apply hid.bind
  exact (single_yields hnode ctx _ (reader.read_clockless _ _) h.league).bind (Yields.pure _)

theorem team_yields (chain : ChainStatus) :
    Yields node (gather ctx reader chain (.team none)) (.team chain suite.team) := by
  have hid : Yields node ((·.teamId) <$> resolve ctx reader) suite.defaults.teamId :=
    (resolve_yields ctx hnode h).map
  apply hid.bind
  exact (single_yields hnode ctx _ (reader.read_clockless _ _) h.team).bind (Yields.pure _)

theorem walkedIds_yields :
    Yields node (walkedIds ctx reader [])
      (Walk.workingSet (suite.discovery.toOption.getD []) Walk.defaultSize) := by
  have hdiscovered : Yields node (discovered ctx reader) (suite.discovery.toOption.getD []) := by
    apply (logged_yields hnode (reader.read_clockless _ _) h.discovery).bind
    cases suite.discovery with
    | ok ids => exact Yields.pure _
    | error e => exact (tell_yields node _).bind (Yields.pure _)
  exact hdiscovered.bind (Yields.pure _)

/-- Sampling sees a clock of its own, so only what is no time is the same. -/
theorem contains_bench (hiterations : ctx.settings.iterations = options.iterations) {s s' : σ}
    {report : Report} {log : List Exchange}
    (hrun : Runs node s (gather ctx reader suite.chain .bench) report log s') :
    suite.Contains .bench report := by
  -- The reports are no fixed value, so the run is taken apart down to the sampling.
  rcases hrun.of_bind with ⟨defaults, resolveLog, restLog, s₁, hresolve, hrest, -⟩
  rcases hrest.of_bind_pure with ⟨reports, hlatency, rfl⟩
  have hdefaults : suite.defaults = defaults := by
    rw [← hresolve.value, resolve_yields ctx hnode h s]
  apply SuiteReport.Contains.bench
  rw [h.latency, hdefaults, ← hlatency.of_mapNotes.value, hiterations]
  exact (Survey.latency_alike reader defaults options.iterations).value_run hnode s₁

/-- Every command without ids reports a part of the report on a full run that walks as many matches
as the command does. -/
theorem contains_gather (hiterations : ctx.settings.iterations = options.iterations)
    (hsize : options.workingSetSize = Walk.defaultSize) {command : Command}
    (hids : command.givenIds = []) (hcommand : command ≠ .run) {s s' : σ} {report : Report}
    {log : List Exchange}
    (hrun : Runs node s (gather ctx reader suite.chain command) report log s') :
    suite.Contains command report := by
  have hpart {command : Command} {expected : Report} {s s' : σ} {log : List Exchange}
      (hrun : Runs node s (gather ctx reader suite.chain command) report log s')
      (hyields : Yields node (gather ctx reader suite.chain command) expected)
      (hcontains : suite.Contains command expected) : suite.Contains command report := by
    rw [← hrun.value, hyields s]
    exact hcontains
  cases command with
  | run => exact absurd rfl hcommand
  | probe => exact hpart hrun (Yields.pure _) .probe
  | debug =>
      have hinfo := logged_yields hnode reader.accountInfo_clockless h.debugInfo
      exact hpart hrun ((tell_yields node _).bind (hinfo.bind (Yields.pure _))) .debug
  | unfinished =>
      have hread := single_yields hnode ctx .getUnfinishedMatches (reader.read_clockless _ _)
        h.discovery
      exact hpart hrun (hread.bind (Yields.pure _)) .unfinished
  | fixture id =>
      cases id with
      | some id => cases hids
      | none => exact hpart hrun (fixture_yields ctx hnode h _) .fixture
  | league id =>
      cases id with
      | some id => cases hids
      | none => exact hpart hrun (league_yields ctx hnode h _) .league
  | team id =>
      cases id with
      | some id => cases hids
      | none => exact hpart hrun (team_yields ctx hnode h _) .team
  | gas =>
      have hgas := logged_yields hnode (Survey.gas_clockless reader _) h.gas
      exact hpart hrun ((resolve_yields ctx hnode h).bind (hgas.bind (Yields.pure _))) .gas
  | raw =>
      have hraw := logged_yields hnode (Survey.rawCalls_clockless reader _) h.rawCalls
      exact hpart hrun ((resolve_yields ctx hnode h).bind (hraw.bind (Yields.pure _))) .raw
  | bench => exact contains_bench ctx hnode h hiterations hrun
  | cross ids =>
      cases hids
      have hwalk := h.crossReference
      rw [hsize] at hwalk
      have hwalked := logged_yields hnode (Walk.run_clockless reader _) hwalk
      exact hpart hrun ((walkedIds_yields ctx hnode h).bind (hwalked.bind (Yields.pure _))) .cross

end Settled

theorem contains_execute {reply : (r : Request) -> r.Reply} {reader : Reader}
    {options : SuiteOptions} {suite : SuiteReport} {node : Node σ} (hnode : node.Stateless reply)
    (h : suite.Settled reply reader options) {ctx : Context}
    (hiterations : ctx.settings.iterations = options.iterations)
    (hsize : options.workingSetSize = Walk.defaultSize) {command : Command}
    (hids : command.givenIds = []) (hcommand : command ≠ .run) {s s' : σ} {ending : Ending}
    {log : List Exchange} (hrun : Runs node s (execute ctx (.ok reader) command) ending log s') :
    exists report, ending.outcome = .ok report ∧ suite.Contains command report := by
  rcases execute_cases hrun with ⟨probed, probeLog, restLog, s₁, hprobe, -, hrest⟩
  have hprobed : probed = .ok suite.chain := by
    have hyields := Reader.probe_clockless.yields hnode
    rw [← hprobe.value, hyields s, h.chain]
  rw [hprobed] at hrest
  rcases hrest with ⟨report, rfl, hgather⟩
  exact ⟨report, rfl, contains_gather ctx hnode h hiterations hsize hids hcommand hgather⟩

end Command

/-!
# The whole program
-/

theorem Command.run_of_fullRun {reader : Reader} {ctx : Context} {node : Node σ} {s s' : σ}
    {ending : Ending} {log : List Exchange}
    (hrun : Runs node s (fullRun ctx (.ok reader)) ending log s') :
    exists surveyed s₁,
      Runs node s (Suite.run reader { iterations := ctx.settings.iterations }) surveyed log s₁ ∧
      ending.outcome = surveyed.map .suite := by
  rw [fullRun, observedRun_eq, bind_assoc] at hrun
  rcases ((runs_tell _).of_silent_bind hrun).of_bind with
    ⟨surveyed, suiteLog, endLog, s₁, hsurveyed, hend, rfl⟩
  cases surveyed with
  | error e =>
      rcases ((runs_tell _).of_silent_bind hend).of_pure with ⟨rfl, rfl, -⟩
      rw [List.append_nil]
      exact ⟨_, s₁, hsurveyed.of_expandNotes, rfl⟩
  | ok report =>
      rcases ((runs_tell _).of_silent_bind hend).of_pure with ⟨rfl, rfl, -⟩
      rw [List.append_nil]
      exact ⟨_, s₁, hsurveyed.of_expandNotes, rfl⟩

/-- With a node without a memory whose probe succeeds, every command that is given no id reports what
stands in the report on a full run under the same settings. -/
theorem Program.reports_contained (reader : Reader) {node : Node σ}
    {reply : (r : Request) -> r.Reply} (hnode : node.Stateless reply) (s : σ) {chain : ChainStatus}
    (hprobe : (Reader.probe.run node s).value = .ok chain) (arguments : Arguments)
    (settings : Settings) (endpoint : Endpoint) :
    let outcome := fun (command : Command) (t : σ) =>
      ((Program.dialogue { arguments with command } settings (.ok (endpoint, reader))).run node
        t).value.outcome
    exists suite, outcome .run s = .ok (.suite suite) ∧
      forall command, command.givenIds = [] -> command ≠ .run -> forall t,
        exists report, outcome command t = .ok report ∧ suite.Contains command report := by
  intro outcome
  rcases Suite.exists_settled hnode hprobe reader { iterations := settings.iterations } with
    ⟨suite, hvalue, hsettled⟩
  refine ⟨suite, ?_, ?_⟩
  · have hrun := execute_of_dialogue (Runs.self node s
      (Program.dialogue { arguments with command := .run } settings (.ok (endpoint, reader))))
    rcases Command.run_of_fullRun hrun with ⟨surveyed, s₁, hsurveyed, houtcome⟩
    have hsurvey : surveyed = .ok suite := hsurveyed.value.symm.trans hvalue
    rw [hsurvey] at houtcome
    exact houtcome
  · intro command hids hcommand t
    have hrun := execute_of_dialogue (Runs.self node t
      (Program.dialogue { arguments with command } settings (.ok (endpoint, reader))))
    exact Command.contains_execute hnode hsettled rfl rfl hids hcommand hrun

theorem Program.reports_contained_sample :
    let reader : Reader := ⟨Interface.embedded, ⟨0x0fff⟩⟩
    let endpoint : Endpoint := ⟨"http:/", ⟨"http", none, none, none, "/", none, none⟩⟩
    let arguments : Arguments := ⟨{}, none, false, false, false, .run⟩
    let outcome := fun (command : Command) (t : Nat) =>
      ((Program.dialogue { arguments with command } (.resolve {} {}) (.ok (endpoint, reader))).run
        Tables.sampleTables.node t).value.outcome
    exists suite, outcome .run 0 = .ok (.suite suite) ∧
      (exists report, outcome (.league none) 7 = .ok report ∧
        suite.Contains (.league none) report) ∧
      exists report, outcome .bench 3 = .ok report ∧ suite.Contains .bench report := by
  intro reader endpoint arguments outcome
  have hprobe : (Reader.probe.run Tables.sampleTables.node 0).value = .ok ⟨31337, 1⟩ := rfl
  rcases reports_contained reader Tables.sampleTables.stateless_node 0 hprobe arguments
    (.resolve {} {}) endpoint with ⟨suite, hrun, hcommands⟩
  refine ⟨suite, hrun, ?_, ?_⟩
  · exact hcommands (.league none) rfl (by decide) 7
  · exact hcommands .bench rfl (by decide) 3

end FixtureProbe
