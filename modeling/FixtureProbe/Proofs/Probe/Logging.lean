import FixtureProbe.Log.Filter
import FixtureProbe.Proofs.Node.Remarks
import FixtureProbe.Proofs.Probe.Failures

/-!
# What is logged

The probe logs what it does, never that something is amiss: failures are values, and what they mean
is for whoever receives them to tell. So all its records are less important than warnings, whatever
the node answers, and a filter for warnings and errors admits none of them.
-/

namespace FixtureProbe

open Dialogue

variable {α : Type}

/-!
# Minor records
-/

namespace Log

/-- A record that is neither a warning nor an error. -/
def Record.IsMinor (record : Record) : Prop :=
  Level.warn.rank < record.level.rank

theorem Record.isMinor_of_debug {record : Record} (h : record.level = .debug) :
    record.IsMinor := by
  rw [IsMinor, h]
  decide

theorem Record.isMinor_of_info {record : Record} (h : record.level = .info) :
    record.IsMinor := by
  rw [IsMinor, h]
  decide

theorem Filter.admits_quiet {record : Record} (h : record.IsMinor) :
    Filter.quiet.admits record = false := by
  have hall : quiet.matching record = quiet := by
    apply List.filter_eq_self.mpr
    intro directive hdirective
    rw [List.mem_singleton.mp hdirective]
    rfl
  rw [admits, hall]
  exact decide_eq_false (Nat.not_le_of_lt h)

end Log

open Log.Record (IsMinor isMinor_of_debug isMinor_of_info)

/-!
# Operations of a reader
-/

namespace Reader

theorem probe_minor : probe.Says IsMinor := by
  apply Says.bind (.request _)
  intro blockNumber
  cases blockNumber with
  | error reason => exact .pure _
  | ok blockNumber =>
      apply Says.bind (.request _)
      intro chainId
      cases chainId with
      | error reason => exact .pure _
      | ok chainId => exact Says.bind (.note (isMinor_of_debug rfl)) fun _ => .pure _

variable (reader : Reader)

theorem accountInfo_minor : reader.accountInfo.Says IsMinor := by
  apply Says.bind (.request _)
  intro code
  cases code with
  | error reason => exact .pure _
  | ok code =>
      apply Says.bind (.request _)
      intro balance
      cases balance with
      | error reason => exact .pure _
      | ok balance => exact .pure _

theorem settle_minor (op : Operation) (reply : Except String α) :
    (settle op reply).Says IsMinor := by
  cases reply with
  | ok value => exact .pure _
  | error reason => exact Says.bind (.note (isMinor_of_debug rfl)) fun _ => .pure _

theorem call_minor (op : Operation) : (reader.call op).Says IsMinor := by
  unfold call
  split
  · exact .pure _
  · apply Says.bind (.note (isMinor_of_debug rfl))
    intro _
    exact Says.bind (.request _) fun reply => settle_minor op reply

theorem read_minor (op : Operation) (decode : Bytes -> Except ProbeError α) :
    (reader.read op decode).Says IsMinor :=
  (reader.call_minor op).bind fun _ => .pure _

theorem invoke_minor (op : Operation) : (reader.invoke op).Says IsMinor := by
  cases op with
  | getMatch id => exact (reader.read_minor _ _).map
  | getLeague id => exact (reader.read_minor _ _).map
  | getTeam id => exact (reader.read_minor _ _).map
  | getUnfinishedMatches => exact (reader.read_minor _ _).map

theorem estimateGas_minor (op : Operation) : (reader.estimateGas op).Says IsMinor := by
  unfold estimateGas
  split
  · exact .pure _
  · apply Says.bind (.request _)
    intro reply
    exact (settle_minor op reply).bind fun _ => .pure _

theorem rawCall_minor (op : Operation) : (reader.rawCall op).Says IsMinor := by
  unfold rawCall
  split
  · exact .pure _
  · apply Says.bind (.request _)
    intro reply
    exact (settle_minor op reply).bind fun _ => .pure _

end Reader

/-!
# Surveys and walks
-/

namespace Latency

theorem attempts_minor (label : String) {op : Dialogue Log.Record (Except String α)}
    (hop : op.Says IsMinor) (count iteration : Nat) :
    (attempts label op count iteration).Says IsMinor := by
  have hattempt (iteration : Nat) : (attempt label iteration op).Says IsMinor := by
    apply Says.bind .now
    intro start
    apply hop.bind
    intro outcome
    cases outcome with
    | ok value => exact Says.bind .now fun _ => .pure _
    | error text => exact Says.bind (.note (isMinor_of_debug rfl)) fun _ => .pure _
  induction count generalizing iteration with
  | zero => exact .pure _
  | succ count ih =>
      exact (hattempt iteration).bind fun _ => (ih (iteration + 1)).bind fun _ => .pure _

end Latency

namespace Survey

variable (reader : Reader) (defaults : Defaults)

theorem readCurrentMatch_minor : (readCurrentMatch reader defaults).Says IsMinor := by
  apply (reader.read_minor _ _).bind
  intro fixture
  cases fixture with
  | ok m => exact .pure _
  | error e => exact .pure _

theorem each_minor {act : Operation -> Dialogue Log.Record α}
    (hact : forall op, (act op).Says IsMinor) (ops : List Operation) :
    (each act ops).Says IsMinor := by
  induction ops with
  | nil => exact .pure _
  | cons op ops ih => exact (hact op).bind fun _ => ih.bind fun _ => .pure _

theorem gas_minor : (gas reader defaults).Says IsMinor :=
  each_minor (fun op => (reader.estimateGas_minor op).bind fun _ => .pure _) _

theorem rawCalls_minor : (rawCalls reader defaults).Says IsMinor :=
  each_minor (fun op => (reader.rawCall_minor op).bind fun _ => .pure _) _

theorem latency_minor (iterations : UInt32) :
    (latency reader defaults iterations).Says IsMinor := by
  apply each_minor
  intro op
  have htimed : (timed reader op).Says IsMinor := (reader.invoke_minor op).bind fun _ => .pure _
  exact (Latency.attempts_minor _ htimed _ _).bind fun _ => .pure _

end Survey

namespace Walk

variable (reader : Reader)

theorem skip_minor (matchId : UInt64) (what : String) (reason : SkipReason) :
    (skip matchId what reason : Dialogue Log.Record (Step α)).Says IsMinor :=
  Says.bind (.note (isMinor_of_debug rfl)) fun _ => .pure _

theorem follow_minor (matchId : UInt64) (what : String) (id : Option UInt64)
    {lookup : UInt64 -> Dialogue Log.Record (Outcome α)}
    (hlookup : forall id, (lookup id).Says IsMinor) :
    (follow matchId what id lookup).Says IsMinor := by
  cases id with
  | some id => exact (hlookup id).map
  | none => exact skip_minor matchId what .zeroId

theorem followAway_minor (matchId : UInt64) (m : Match) :
    (followAway reader matchId m).Says IsMinor := by
  unfold followAway
  split
  · exact skip_minor matchId "away team" .sameAsHome
  · exact follow_minor matchId "away team" _ fun _ => reader.read_minor _ _

theorem trace_minor (matchId : UInt64) : (trace reader matchId).Says IsMinor := by
  apply (reader.read_minor _ _).bind
  intro outcome
  cases outcome with
  | error e => exact .pure _
  | ok m =>
      apply (follow_minor matchId "league" _ fun _ => reader.read_minor _ _).bind
      intro league
      apply (follow_minor matchId "home team" _ fun _ => reader.read_minor _ _).bind
      intro homeTeam
      exact (followAway_minor reader matchId m).bind fun _ => .pure _

theorem run_minor (ids : List UInt64) : (run reader ids).Says IsMinor := by
  have htraces : (traces reader ids).Says IsMinor := by
    induction ids with
    | nil => exact .pure _
    | cons id ids ih => exact (trace_minor reader id).bind fun _ => ih.bind fun _ => .pure _
  exact Says.bind (.note (isMinor_of_info rfl)) fun _ => htraces.bind fun _ => .pure _

end Walk

/-!
# The full run
-/

/-- Every report is one on a call, which is what its label tells. -/
def Latency.Labelled (reports : List LatencyReport) : Prop :=
  forall report, report ∈ reports -> exists op : Operation, report.label = op.text

theorem Survey.latency_labelled (reader : Reader) (defaults : Defaults) (iterations : UInt32) :
    (latency reader defaults iterations).Gives Latency.Labelled := by
  constructor
  intro σ node s s' reports log hrun report hreport
  rcases exists_of_mem_results ((latency_gives reader defaults iterations).of_runs hrun) hreport
    with ⟨op, hlabel, -⟩
  exact ⟨op, hlabel⟩

namespace Suite

/-- A record that is minor, or an event that is about calls as far as it is about latencies. -/
def Note.Proper : Note -> Prop
  | .log record => record.IsMinor
  | .phase (.latency reports) => Latency.Labelled reports
  | .phase _ => True

theorem logged_proper {d : Dialogue Log.Record α} (hd : d.Says IsMinor) :
    (logged d).Says Note.Proper :=
  hd.mapNotes fun _ h => h

theorem enter_proper (phase : Phase) : (enter phase).Says Note.Proper := by
  have hstart : (startRecord phase).IsMinor := isMinor_of_info rfl
  exact Says.bind (.note hstart) fun _ => (Says.note trivial).bind fun _ => .pure _

theorem survey_proper (reader : Reader) (options : SuiteOptions) (chain : ChainStatus)
    (phases : List Phase) : (survey reader options chain phases).Says Note.Proper := by
  have hreport (event : PhaseEvent) (h : Note.Proper (.phase event)) :
      (report event).Says Note.Proper := .note h
  apply (enter_proper _).bind
  intro _
  apply (logged_proper reader.accountInfo_minor).bind
  intro debugInfo
  apply (hreport (.debugInfo debugInfo) trivial).bind
  intro _
  apply (enter_proper _).bind
  intro _
  apply (logged_proper (reader.read_minor _ _)).bind
  intro discovery
  apply (hreport (.discovery discovery _) trivial).bind
  intro _
  apply (enter_proper _).bind
  intro _
  apply (logged_proper (Survey.readCurrentMatch_minor reader _)).bind
  rintro ⟨fixture, defaults⟩
  apply (logged_proper (reader.read_minor _ _)).bind
  intro league
  apply (logged_proper (reader.read_minor _ _)).bind
  intro team
  apply (hreport (.entityReads fixture league team) trivial).bind
  intro _
  apply (enter_proper _).bind
  intro _
  apply (logged_proper (Survey.gas_minor reader _)).bind
  intro gas
  apply (hreport (.gasEstimation gas) trivial).bind
  intro _
  apply (enter_proper _).bind
  intro _
  apply (logged_proper (Survey.rawCalls_minor reader _)).bind
  intro rawCalls
  apply (hreport (.rawCalls rawCalls) trivial).bind
  intro _
  apply (enter_proper _).bind
  intro _
  apply (logged_proper (Survey.latency_minor reader _ _)).bind_gives
    (Survey.latency_labelled reader _ _).mapNotes
  intro latency hlatency
  apply (hreport (.latency latency) hlatency).bind
  intro _
  apply (enter_proper _).bind
  intro _
  apply (logged_proper (Walk.run_minor reader _)).bind
  intro crossReference
  exact (hreport (.crossReference crossReference) trivial).bind fun _ => .pure _

end Suite

end FixtureProbe
