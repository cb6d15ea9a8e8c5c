import FixtureProbe.Probe.Suite
import FixtureProbe.Proofs.Node.Clock
import FixtureProbe.Proofs.Probe.Walk

/-!
# Reports without their times

Only the sampling of latency looks at the clock, and what it sees ends in durations and in the
statistics of these. Everything else of a run, from the requests to the failed iterations, is the
same whatever the clock shows and whatever is said on the way.
-/

namespace FixtureProbe

open Dialogue

variable {α β : Type}

/-!
# Times
-/

/-- No time at all. -/
def Duration.zero : Duration :=
  ⟨0, by decide⟩

/-- Statistics with every time in them set to zero. -/
def LatencyStats.untimed (stats : LatencyStats) : LatencyStats :=
  ⟨stats.samples, .zero, .zero, .zero⟩

/-- A report on latency with every time in it set to zero. -/
def LatencyReport.untimed (report : LatencyReport) : LatencyReport :=
  { report with
    durations := report.durations.map fun _ => .zero
    stats := report.stats.map LatencyStats.untimed }

/-- A report with every time in it set to zero. -/
def SuiteReport.untimed (report : SuiteReport) : SuiteReport :=
  { report with latency := report.latency.map LatencyReport.untimed }

/-!
# Dialogues without a clock
-/

namespace Reader

theorem probe_clockless : probe.Clockless := by
  apply Clockless.bind (.request _)
  intro blockNumber
  cases blockNumber with
  | error reason => exact .pure _
  | ok blockNumber =>
      apply Clockless.bind (.request _)
      intro chainId
      cases chainId with
      | error reason => exact .pure _
      | ok chainId => exact Clockless.bind (.note _) fun _ => .pure _

variable (reader : Reader)

theorem accountInfo_clockless : reader.accountInfo.Clockless := by
  apply Clockless.bind (.request _)
  intro code
  cases code with
  | error reason => exact .pure _
  | ok code =>
      apply Clockless.bind (.request _)
      intro balance
      cases balance with
      | error reason => exact .pure _
      | ok balance => exact .pure _

theorem settle_clockless (op : Operation) (reply : Except String α) :
    (settle op reply).Clockless := by
  cases reply with
  | ok value => exact .pure _
  | error reason => exact Clockless.bind (.note _) fun _ => .pure _

theorem call_clockless (op : Operation) : (reader.call op).Clockless := by
  unfold call
  split
  · exact .pure _
  · apply Clockless.bind (.note _)
    intro _
    exact Clockless.bind (.request _) fun reply => settle_clockless op reply

theorem read_clockless (op : Operation) (decode : Bytes -> Except ProbeError α) :
    (reader.read op decode).Clockless :=
  (reader.call_clockless op).bind fun _ => .pure _

theorem invoke_clockless (op : Operation) : (reader.invoke op).Clockless := by
  rw [invoke_eq_map_readEntity, readEntity_eq_read]
  exact (reader.read_clockless _ _).map

theorem estimateGas_clockless (op : Operation) : (reader.estimateGas op).Clockless := by
  unfold estimateGas
  split
  · exact .pure _
  · apply Clockless.bind (.request _)
    intro reply
    exact (settle_clockless op reply).bind fun _ => .pure _

theorem rawCall_clockless (op : Operation) : (reader.rawCall op).Clockless := by
  unfold rawCall
  split
  · exact .pure _
  · apply Clockless.bind (.request _)
    intro reply
    exact (settle_clockless op reply).bind fun _ => .pure _

end Reader

namespace Survey

variable (reader : Reader) (defaults : Defaults)

theorem readCurrentMatch_clockless : (readCurrentMatch reader defaults).Clockless := by
  apply (reader.read_clockless _ _).bind
  intro fixture
  cases fixture with
  | ok m => exact .pure _
  | error e => exact .pure _

theorem each_clockless {act : Operation -> Dialogue Log.Record α}
    (hact : forall op, (act op).Clockless) (ops : List Operation) : (each act ops).Clockless := by
  induction ops with
  | nil => exact .pure _
  | cons op ops ih => exact (hact op).bind fun _ => ih.bind fun _ => .pure _

theorem gas_clockless : (gas reader defaults).Clockless :=
  each_clockless (fun op => (reader.estimateGas_clockless op).bind fun _ => .pure _) _

theorem rawCalls_clockless : (rawCalls reader defaults).Clockless :=
  each_clockless (fun op => (reader.rawCall_clockless op).bind fun _ => .pure _) _

end Survey

namespace Walk

variable (reader : Reader)

theorem skip_clockless (matchId : UInt64) (what : String) (reason : SkipReason) :
    (skip matchId what reason : Dialogue Log.Record (Step α)).Clockless :=
  Clockless.bind (.note _) fun _ => .pure _

theorem follow_clockless (matchId : UInt64) (what : String) (id : Option UInt64)
    {lookup : UInt64 -> Dialogue Log.Record (Outcome α)}
    (hlookup : forall id, (lookup id).Clockless) : (follow matchId what id lookup).Clockless := by
  cases id with
  | some id => exact (hlookup id).map
  | none => exact skip_clockless matchId what .zeroId

theorem followAway_clockless (matchId : UInt64) (m : Match) :
    (followAway reader matchId m).Clockless := by
  unfold followAway
  split
  · exact skip_clockless matchId "away team" .sameAsHome
  · exact follow_clockless matchId "away team" _ fun _ => reader.read_clockless _ _

theorem trace_clockless (matchId : UInt64) : (trace reader matchId).Clockless := by
  apply (reader.read_clockless _ _).bind
  intro outcome
  cases outcome with
  | error e => exact .pure _
  | ok m =>
      apply (follow_clockless matchId "league" _ fun _ => reader.read_clockless _ _).bind
      intro league
      apply (follow_clockless matchId "home team" _ fun _ => reader.read_clockless _ _).bind
      intro homeTeam
      exact (followAway_clockless reader matchId m).bind fun _ => .pure _

theorem traces_clockless (ids : List UInt64) : (traces reader ids).Clockless := by
  induction ids with
  | nil => exact .pure _
  | cons id ids ih => exact (trace_clockless reader id).bind fun _ => ih.bind fun _ => .pure _

theorem run_clockless (ids : List UInt64) : (run reader ids).Clockless := by
  apply Clockless.bind (.note _)
  intro _
  exact (traces_clockless reader ids).bind fun _ => .pure _

end Walk

/-!
# Sampling
-/

namespace Latency

/-- Two attempts succeeded, or failed in the same way. -/
inductive SameFate : Except FailedIteration Duration -> Except FailedIteration Duration ->
    Prop where
  | ok (d d' : Duration) : SameFate (.ok d) (.ok d')
  | error (e : FailedIteration) : SameFate (.error e) (.error e)

theorem attempt_alike (label : String) (iteration : Nat)
    {op : Dialogue Log.Record (Except String α)} (hop : op.Clockless) :
    Alike SameFate (attempt label iteration op) (attempt label iteration op) := by
  apply Alike.now.bind
  intro start start' _
  apply hop.alike.bind
  rintro outcome _ rfl
  cases outcome with
  | ok value => exact Alike.now.bind fun _ _ _ => .pure (.ok _ _)
  | error text => exact (Alike.note _ _).bind fun _ _ _ => .pure (.error _)

theorem attempts_alike (label : String) {op : Dialogue Log.Record (Except String α)}
    (hop : op.Clockless) (count iteration : Nat) :
    Alike (List.Forall₂ SameFate) (attempts label op count iteration)
      (attempts label op count iteration) := by
  induction count generalizing iteration with
  | zero => exact .pure .nil
  | succ count ih =>
      apply (attempt_alike label iteration hop).bind
      intro first first' hfirst
      apply (ih (iteration + 1)).bind
      intro others others' hothers
      exact .pure (.cons hfirst hothers)

theorem failures_eq {outcomes outcomes' : List (Except FailedIteration Duration)}
    (h : List.Forall₂ SameFate outcomes outcomes') : failures outcomes = failures outcomes' := by
  induction h with
  | nil => rfl
  | cons hfirst hothers ih =>
      cases hfirst with
      | ok d d' => exact ih
      | error e => exact congrArg (e :: ·) ih

theorem length_successes_eq {outcomes outcomes' : List (Except FailedIteration Duration)}
    (h : List.Forall₂ SameFate outcomes outcomes') :
    (successes outcomes).length = (successes outcomes').length := by
  induction h with
  | nil => rfl
  | cons hfirst hothers ih =>
      cases hfirst with
      | ok d d' => exact congrArg (· + 1) ih
      | error e => exact ih

theorem untimed_ofSamples {durations durations' : List Duration}
    (h : durations.length = durations'.length) :
    (LatencyStats.ofSamples durations).map LatencyStats.untimed =
      (LatencyStats.ofSamples durations').map LatencyStats.untimed := by
  cases durations with
  | nil =>
      cases durations' with
      | nil => rfl
      | cons d rest => cases h
  | cons d rest =>
      cases durations' with
      | nil => cases h
      | cons d' rest' =>
          exact congrArg (fun n => some (LatencyStats.mk n .zero .zero .zero)) h

theorem untimed_report (label : String) (iterations : UInt32)
    {outcomes outcomes' : List (Except FailedIteration Duration)}
    (h : List.Forall₂ SameFate outcomes outcomes') :
    (report label iterations outcomes).untimed = (report label iterations outcomes').untimed := by
  have hlength := length_successes_eq h
  have hstats := untimed_ofSamples hlength
  unfold LatencyReport.untimed report
  dsimp only
  rw [failures_eq h, hstats, List.map_const', List.map_const', hlength]

theorem sample_alike (label : String) (iterations : UInt32)
    {op : Dialogue Log.Record (Except String α)} (hop : op.Clockless) :
    Alike (fun first second => first.untimed = second.untimed) (sample label iterations op)
      (sample label iterations op) :=
  (attempts_alike label hop iterations.toNat 1).bind fun _ _ h =>
    .pure (untimed_report label iterations h)

end Latency

theorem Survey.latency_alike (reader : Reader) (defaults : Defaults) (iterations : UInt32) :
    Alike (fun first second =>
        first.map LatencyReport.untimed = second.map LatencyReport.untimed)
      (latency reader defaults iterations) (latency reader defaults iterations) := by
  unfold latency
  induction defaults.operations with
  | nil => exact .pure rfl
  | cons op ops ih =>
      have htimed : (timed reader op).Clockless :=
        (reader.invoke_clockless op).bind fun _ => .pure _
      apply (Latency.sample_alike op.text iterations htimed).bind
      intro first first' hfirst
      apply ih.bind
      intro others others' hothers
      apply Alike.pure
      rw [List.map_cons, List.map_cons, hfirst, hothers]

/-!
# The whole run
-/

namespace Suite

section Phases

variable {V : β -> β -> Prop}

theorem alike_enter_bind (phase : Phase) {f g : Phase -> Dialogue Note β}
    (h : Alike V (f phase) (g phase)) : Alike V (enter phase >>= f) (enter phase >>= g) :=
  .sayLeft _ (.sayRight _ (.sayLeft _ (.sayRight _ h)))

theorem alike_report_bind (event event' : PhaseEvent) {f g : Unit -> Dialogue Note β}
    (h : Alike V (f ()) (g ())) : Alike V (report event >>= f) (report event' >>= g) :=
  (Alike.note _ _).bind fun _ _ _ => h

theorem alike_logged_bind {d : Dialogue Log.Record α} (hd : d.Clockless)
    {f g : α -> Dialogue Note β} (h : forall a, Alike V (f a) (g a)) :
    Alike V (logged d >>= f) (logged d >>= g) := by
  apply (hd.alike.mapNotes _ _).bind
  rintro a _ rfl
  exact h a

end Phases

theorem survey_alike (reader : Reader) (options : SuiteOptions) (chain : ChainStatus)
    (phases : List Phase) :
    Alike (fun first second => first.untimed = second.untimed) (survey reader options chain phases)
      (survey reader options chain phases) := by
  apply alike_enter_bind
  apply alike_logged_bind reader.accountInfo_clockless
  intro account
  apply alike_report_bind
  apply alike_enter_bind
  apply alike_logged_bind (reader.read_clockless _ _)
  intro discovery
  apply alike_report_bind
  apply alike_enter_bind
  apply alike_logged_bind (Survey.readCurrentMatch_clockless reader _)
  rintro ⟨fixture, defaults⟩
  apply alike_logged_bind (reader.read_clockless _ _)
  intro league
  apply alike_logged_bind (reader.read_clockless _ _)
  intro team
  apply alike_report_bind
  apply alike_enter_bind
  apply alike_logged_bind (Survey.gas_clockless reader _)
  intro gas
  apply alike_report_bind
  apply alike_enter_bind
  apply alike_logged_bind (Survey.rawCalls_clockless reader _)
  intro rawCalls
  apply alike_report_bind
  apply alike_enter_bind
  -- The reports on latency are the only values that differ, and they differ in their times only.
  apply ((Survey.latency_alike reader defaults options.iterations).mapNotes _ _).bind
  intro latency latency' hlatency
  apply alike_report_bind
  apply alike_enter_bind
  apply alike_logged_bind (Walk.run_clockless reader _)
  intro crossReference
  apply alike_report_bind
  apply Alike.pure
  unfold SuiteReport.untimed
  rw [hlatency]

theorem run_alike (reader : Reader) (options : SuiteOptions) :
    Alike (fun first second =>
        first.map SuiteReport.untimed = second.map SuiteReport.untimed)
      (run reader options) (run reader options) := by
  apply alike_enter_bind
  apply alike_logged_bind Reader.probe_clockless
  intro probed
  cases probed with
  | error e => exact .pure rfl
  | ok chain =>
      apply alike_report_bind
      apply (survey_alike reader options chain _).bind
      intro report report' hreport
      exact .pure (congrArg Except.ok hreport)

end Suite

end FixtureProbe
