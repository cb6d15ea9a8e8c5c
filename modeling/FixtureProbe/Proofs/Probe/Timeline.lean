import FixtureProbe.Proofs.Probe.Failures
import FixtureProbe.Proofs.Probe.Untimed

/-!
# When a run says what

Whoever follows a run is told when a phase begins and what it has found. The requests and these
events, in the order in which they happen, are the timeline of the run. On it the phases stand one
after another: a phase begins, asks what it has to ask, and reports what it has found before the next
one begins. Telling all this to nobody changes neither the requests nor, its times apart, the report.
-/

namespace FixtureProbe

open Dialogue

variable {α β σ ω : Type}

/-- An exchange as something that happened. -/
def Exchange.event (exchange : Exchange) : Event ω :=
  .asked exchange.request exchange.reply

namespace Suite

/-!
# Timelines
-/

/-- What can be seen of an event of a run: its log records cannot. -/
def seen? : Event Note -> Option (Event PhaseEvent)
  | .asked request reply => some (.asked request reply)
  | .said (.phase event) => some (.said event)
  | .said (.log _) => none

/-- The requests of a run and the events of its phases, in order. -/
def timeline (run : Run Note α σ) : List (Event PhaseEvent) :=
  run.events.filterMap seen?

section Timelines

variable {node : Node σ} {s s₁ : σ} {a : α} {log : List Exchange}

theorem timeline_pure (a : α) : timeline ((pure a : Dialogue Note α).run node s) = [] :=
  rfl

theorem timeline_bind (d : Dialogue Note α) (f : α -> Dialogue Note β) :
    timeline ((d >>= f).run node s) =
      timeline (d.run node s) ++
        timeline ((f (d.run node s).value).run node (d.run node s).state) := by
  unfold timeline
  rw [bind_eq, run_bind]
  exact List.filterMap_append

theorem timeline_enter_bind (phase : Phase) (f : Phase -> Dialogue Note β) :
    timeline ((enter phase >>= f).run node s) =
      .said (.started phase) :: timeline ((f phase).run node s) := by
  rw [timeline_bind]
  rfl

theorem timeline_report_bind (event : PhaseEvent) (f : Unit -> Dialogue Note β) :
    timeline ((report event >>= f).run node s) =
      .said event :: timeline ((f ()).run node s) := by
  rw [timeline_bind]
  rfl

theorem timeline_logged (d : Dialogue Log.Record α) :
    timeline ((logged d).run node s) = (d.run node s).exchanges.map Exchange.event := by
  induction d generalizing s with
  | done value => rfl
  | ask request next ih =>
      exact congrArg (_ :: ·) (ih (node.answer s request).1)
  | say n next ih => exact ih
  | clock next ih => exact ih (node.time s).1

theorem timeline_logged_bind {d : Dialogue Log.Record α} (hd : Runs node s d a log s₁)
    (f : α -> Dialogue Note β) :
    timeline ((logged d >>= f).run node s) =
      log.map Exchange.event ++ timeline ((f a).run node s₁) := by
  have hlogged := (Runs.self node s (logged d)).of_mapNotes
  rcases hd.unique hlogged with ⟨hvalue, -, hstate⟩
  rw [timeline_bind, timeline_logged, hd.exchanges, ← hvalue, ← hstate]

/-- A phase of a single dialogue begins, makes its exchanges, and reports on them. -/
theorem timeline_phase {d : Dialogue Log.Record α} (hd : Runs node s d a log s₁) (phase : Phase)
    (event : α -> PhaseEvent) (f : Phase -> α -> Dialogue Note β) :
    timeline ((enter phase >>= fun entered => logged d >>= fun a => report (event a) >>= fun _ =>
        f entered a).run node s) =
      .said (.started phase) ::
        (log.map Exchange.event ++ .said (event a) :: timeline ((f phase a).run node s₁)) := by
  rw [timeline_enter_bind, timeline_logged_bind hd, timeline_report_bind]

end Timelines

/-!
# Phases
-/

/-- What is reported at the end of a phase, as the final report has it. When the ids have just been
discovered, only the match among the current ids follows from them. -/
def result (report : SuiteReport) : Phase -> PhaseEvent
  | .connectivity => .connected report.chain
  | .debugInfo => .debugInfo report.debugInfo
  | .discovery => .discovery report.discovery ⟨report.defaults.matchId, 1, 1⟩
  | .entityReads => .entityReads report.fixture report.league report.team
  | .gasEstimation => .gasEstimation report.gas
  | .rawCalls => .rawCalls report.rawCalls
  | .latency => .latency report.latency
  | .crossReference => .crossReference report.crossReference

/-- What a phase exchanges: that of its dialogues, whose values are in the final report. -/
inductive Performs (reader : Reader) (options : SuiteOptions) (node : Node σ)
    (report : SuiteReport) : Phase -> σ -> List Exchange -> σ -> Prop where
  | connectivity {s s' : σ} {log : List Exchange}
      (h : Runs node s Reader.probe (.ok report.chain) log s') :
      Performs reader options node report .connectivity s log s'
  | debugInfo {s s' : σ} {log : List Exchange}
      (h : Runs node s reader.accountInfo report.debugInfo log s') :
      Performs reader options node report .debugInfo s log s'
  | discovery {s s' : σ} {log : List Exchange}
      (h : Runs node s reader.readUnfinished report.discovery log s') :
      Performs reader options node report .discovery s log s'
  | entityReads {s s₁ s₂ s' : σ} {log₁ log₂ log₃ : List Exchange}
      (fixture : Runs node s (Survey.readCurrentMatch reader ⟨report.defaults.matchId, 1, 1⟩)
        (report.fixture, report.defaults) log₁ s₁)
      (league : Runs node s₁ (reader.readLeague report.defaults.leagueId) report.league log₂ s₂)
      (team : Runs node s₂ (reader.readTeam report.defaults.teamId) report.team log₃ s') :
      Performs reader options node report .entityReads s (log₁ ++ (log₂ ++ log₃)) s'
  | gasEstimation {s s' : σ} {log : List Exchange}
      (h : Runs node s (Survey.gas reader report.defaults) report.gas log s') :
      Performs reader options node report .gasEstimation s log s'
  | rawCalls {s s' : σ} {log : List Exchange}
      (h : Runs node s (Survey.rawCalls reader report.defaults) report.rawCalls log s') :
      Performs reader options node report .rawCalls s log s'
  | latency {s s' : σ} {log : List Exchange}
      (h : Runs node s (Survey.latency reader report.defaults options.iterations) report.latency
        log s') :
      Performs reader options node report .latency s log s'
  | crossReference {s s' : σ} {log : List Exchange}
      (h : Runs node s
        (Walk.run reader
          (Walk.workingSet (report.discovery.toOption.getD []) options.workingSetSize))
        report.crossReference log s') :
      Performs reader options node report .crossReference s log s'

/-- A timeline on which phases stand one after another: each begins, makes its exchanges with the
node that the one before has left, and reports its result, before the next begins. -/
inductive Unfolds (reader : Reader) (options : SuiteOptions) (node : Node σ)
    (report : SuiteReport) : List Phase -> σ -> List (Event PhaseEvent) -> Prop where
  | nil (s : σ) : Unfolds reader options node report [] s []
  | cons {phase : Phase} {phases : List Phase} {s s' : σ} {log : List Exchange}
      {rest : List (Event PhaseEvent)}
      (hphase : Performs reader options node report phase s log s')
      (hrest : Unfolds reader options node report phases s' rest) :
      Unfolds reader options node report (phase :: phases) s
        (.said (.started phase) ::
          (log.map Exchange.event ++ .said (result report phase) :: rest))

/-- The discovered ids set the current match, and nothing else. -/
theorem withDiscovery_eq {reader : Reader} {node : Node σ} {s s' : σ} {ids : List UInt64}
    {fixture : Outcome Match} {defaults : Defaults} {log : List Exchange}
    (hrun : Runs node s (Survey.readCurrentMatch reader (Defaults.initial.withDiscovery ids))
      (fixture, defaults) log s') :
    Defaults.initial.withDiscovery ids = ⟨defaults.matchId, 1, 1⟩ := by
  have hmatchId := ((Survey.readCurrentMatch_gives reader _).of_runs hrun).2
  exact congrArg (Defaults.mk · 1 1) hmatchId.symm

theorem unfolds_of_survey {reader : Reader} {options : SuiteOptions} {chain : ChainStatus}
    {phases : List Phase} {report : SuiteReport} {node : Node σ} {s s' : σ} {log : List Exchange}
    (hrun : Runs node s (survey reader options chain phases) report log s') :
    Unfolds reader options node report Phase.all.tail s
      (timeline ((survey reader options chain phases).run node s)) := by
  rcases surveys_of_survey hrun with ⟨-, -, hsurveys⟩
  rcases hsurveys with
    ⟨haccount, hdiscovery, hfixture, hleague, hteam, hgas, hrawCalls, hlatency, hwalk⟩
  have hdefaults := withDiscovery_eq hfixture
  rw [survey, timeline_phase haccount, timeline_phase hdiscovery, timeline_enter_bind,
    timeline_logged_bind hfixture]
  dsimp only
  rw [timeline_logged_bind hleague, timeline_logged_bind hteam, timeline_report_bind,
    timeline_phase hgas, timeline_phase hrawCalls, timeline_phase hlatency, timeline_phase hwalk,
    hdefaults]
  rw [hdefaults] at hfixture
  have hreads := Unfolds.cons (.entityReads hfixture hleague hteam)
    (.cons (.gasEstimation hgas) (.cons (.rawCalls hrawCalls)
      (.cons (.latency hlatency) (.cons (.crossReference hwalk) (.nil _)))))
  simp only [List.map_append, List.append_assoc] at hreads
  exact .cons (.debugInfo haccount) (.cons (.discovery hdiscovery) hreads)

/-!
# The events of a survey
-/

/-- The event of a phase, if a remark is one. -/
def Note.event? : Note -> Option PhaseEvent
  | .phase event => some event
  | .log _ => none

/-- The events on a timeline are those among the remarks. -/
theorem events_timeline (run : Run Note α σ) :
    (timeline run).filterMap Event.note? = run.notes.filterMap Note.event? := by
  rw [timeline, Run.notes, List.filterMap_filterMap, List.filterMap_filterMap]
  congr 1
  funext event
  cases event with
  | asked request reply => rfl
  | said n =>
      cases n with
      | log record => rfl
      | phase event => rfl

theorem events_of_unfolds {reader : Reader} {options : SuiteOptions} {node : Node σ} {s : σ}
    {report : SuiteReport} {phases : List Phase} {events : List (Event PhaseEvent)}
    (h : Unfolds reader options node report phases s events) :
    events.filterMap Event.note? =
      phases.flatMap fun phase => [.started phase, result report phase] := by
  have hlog (log : List Exchange) :
      (log.map Exchange.event).filterMap (Event.note? : Event PhaseEvent -> _) = [] := by
    rw [List.filterMap_map]
    exact List.filterMap_eq_nil_iff.mpr fun _ _ => rfl
  have hsaid (event : PhaseEvent) (others : List (Event PhaseEvent)) :
      (Event.said event :: others).filterMap Event.note? =
        event :: others.filterMap Event.note? := rfl
  induction h with
  | nil s => rfl
  | cons hphase hrest ih =>
      rw [hsaid, List.filterMap_append, hlog, List.nil_append, hsaid, ih]
      rfl

theorem events_of_survey {reader : Reader} {options : SuiteOptions} {chain : ChainStatus}
    {phases : List Phase} {report : SuiteReport} {node : Node σ} {s s' : σ} {log : List Exchange}
    (hrun : Runs node s (survey reader options chain phases) report log s') :
    ((survey reader options chain phases).run node s).notes.filterMap Note.event? =
      Phase.all.tail.flatMap fun phase => [.started phase, result report phase] := by
  rw [← events_timeline]
  exact events_of_unfolds (unfolds_of_survey hrun)

/-!
# The timeline of a run
-/

theorem quiet_alike (reader : Reader) (options : SuiteOptions) :
    Alike (fun first second =>
        first.map SuiteReport.untimed = second.map SuiteReport.untimed)
      (run reader options) (quiet reader options) :=
  (run_alike reader options).expandNotes _

theorem timeline_of_probe_error {reader : Reader} {options : SuiteOptions} {node : Node σ}
    {s s' : σ} {e : ProbeError} {log : List Exchange}
    (hprobe : Runs node s Reader.probe (.error e) log s') :
    timeline ((run reader options).run node s) =
      .said (.started .connectivity) :: log.map Exchange.event := by
  rw [run, timeline_enter_bind, timeline_logged_bind hprobe]
  dsimp only
  rw [timeline_pure, List.append_nil]

theorem unfolds_of_run {reader : Reader} {options : SuiteOptions} {report : SuiteReport}
    {node : Node σ} {s s' s₁ : σ} {log probeLog : List Exchange}
    (hprobe : Runs node s Reader.probe (.ok report.chain) probeLog s₁)
    (hsurvey : Runs node s₁ (survey reader options report.chain [.connectivity]) report log s') :
    Unfolds reader options node report Phase.all s
      (timeline ((run reader options).run node s)) := by
  have hrest := Unfolds.cons (.connectivity hprobe) (unfolds_of_survey hsurvey)
  rw [run, timeline_enter_bind, timeline_logged_bind hprobe]
  dsimp only
  rw [timeline_report_bind, timeline_bind, timeline_pure, List.append_nil]
  exact hrest

/-- A failed probe is all that happens in its run. Every other run goes through all phases, one after
another, and reports what is in its report. Nothing of this changes when nobody is told, and the
answers alone decide all of it but the times. -/
theorem run_timeline (reader : Reader) (options : SuiteOptions) (node : Node σ) (s : σ) :
    let run := (Suite.run reader options).run node s
    (match (Reader.probe.run node s).value with
    | .error e =>
        run.value = .error e ∧
          timeline run =
            .said (.started .connectivity) ::
              (Reader.probe.run node s).exchanges.map Exchange.event
    | .ok chain =>
        exists report, run.value = .ok report ∧ report.chain = chain ∧
          Unfolds reader options node report Phase.all s (timeline run)) ∧
    forall (τ : Type) (other : Node τ) (R : σ -> τ -> Prop) (t : τ),
      node.AnswersLike other R -> R s t ->
        run.value.map SuiteReport.untimed =
            ((quiet reader options).run other t).value.map SuiteReport.untimed ∧
          run.exchanges = ((quiet reader options).run other t).exchanges := by
  intro run
  constructor
  · have hprobed := Runs.self node s Reader.probe
    have hrun : Runs node s (Suite.run reader options) run.value run.exchanges run.state :=
      Runs.self node s _
    rcases run_cases hrun with ⟨probed, probeLog, restLog, s₁, hprobe, -, hrest⟩
    rcases hprobe.unique hprobed with ⟨hvalue, hlog, -⟩
    rw [← hvalue, ← hlog]
    cases probed with
    | error e => exact ⟨hrest.1, timeline_of_probe_error hprobe⟩
    | ok chain =>
        rcases hrest with ⟨report, hreport, hsurvey⟩
        rcases surveys_of_survey hsurvey with ⟨rfl, -, -⟩
        exact ⟨report, hreport, rfl, unfolds_of_run hprobe hsurvey⟩
  · intro τ other R t hnodes hstates
    rcases (quiet_alike reader options).run hnodes hstates with ⟨hvalue, hexchanges, -⟩
    exact ⟨hvalue, hexchanges⟩

theorem run_timeline_flaky :
    let reader : Reader := ⟨Interface.embedded, ⟨0x0fff⟩⟩
    let slow : Node Nat := { Node.flaky with time := fun count => (2 * count + 5, count) }
    let run := fun s => (Suite.run reader ⟨2, 3⟩).run Node.flaky s
    (exists report, (run 0).value = .ok report ∧ report.chain = ⟨31337, 1⟩ ∧
      Unfolds reader ⟨2, 3⟩ Node.flaky report Phase.all 0 (timeline (run 0))) ∧
    ((run 1).value = .error (.connectivity "busy") ∧
      timeline (run 1) =
        [.said (.started .connectivity), .asked .blockNumber (.ok 1),
          .asked .chainId (.error "busy")]) ∧
    ((run 0).value.map SuiteReport.untimed =
        ((quiet reader ⟨2, 3⟩).run slow 0).value.map SuiteReport.untimed ∧
      (run 0).exchanges = ((quiet reader ⟨2, 3⟩).run slow 0).exchanges) := by
  intro reader slow run
  have hslow : Node.flaky.AnswersLike slow Eq := by
    constructor
    · rintro s _ r rfl
      rfl
    · rintro s _ r rfl
      rfl
    · rintro s _ rfl
      rfl
  have hconnected := run_timeline reader ⟨2, 3⟩ .flaky 0
  have hrefused := run_timeline reader ⟨2, 3⟩ .flaky 1
  exact ⟨hconnected.1, hrefused.1, hconnected.2 Nat slow Eq 0 hslow rfl⟩

end Suite

end FixtureProbe
