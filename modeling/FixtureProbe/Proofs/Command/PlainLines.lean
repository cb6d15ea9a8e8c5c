import FixtureProbe.Proofs.Command.FailureLines
import FixtureProbe.Proofs.Probe.Logging

/-!
# Lines that tell of no failure

The lines that do not tell of a failure are plain: what they show is fixed by the settings and the
reader, or it is an id, a count, a record or an answer. A connected command prints nothing on its way
but minor records and, for a person, lines that tell of failures and plain ones.
-/

namespace FixtureProbe

open Dialogue
open Terminal (Line)
open Log.Record (IsMinor)

variable {α β σ : Type}

/-!
# Plain lines
-/

namespace Terminal.Line

/-- The names of the steps of a trace. -/
def stepNames : List String :=
  ["match", "league", "home team", "away team"]

/-- A line of a command that has a reader, and that is about no failure. -/
inductive Plain (ctx : Context) (reader : Reader) : Line -> Prop where
  | title : Plain ctx reader titleLine
  | connecting : Plain ctx reader ctx.connectingLine
  | connected (chain : ChainStatus) : Plain ctx reader chain.line
  | heading {phase : Phase} {text : String} (h : phase.heading? = some text) :
      Plain ctx reader (.header text)
  | call (op : Operation) : Plain ctx reader (.header op.text)
  | address (address : Address) : Plain ctx reader (addressLine address)
  | url : Plain ctx reader ctx.urlLine
  | names : Plain ctx reader (namesLine reader.interface.functionNames)
  | usingMatch (id : UInt64) : Plain ctx reader (usingMatchLine id)
  | usingEntities (ids : Defaults) : Plain ctx reader (usingEntitiesLine ids)
  | account {info : AccountInfo} {line : Line} (h : line ∈ info.lines) : Plain ctx reader line
  | ids {ids : List UInt64} {line : Line} (h : line ∈ idsLines ids) : Plain ctx reader line
  | fixture {m : Match} {line : Line} (h : line ∈ m.lines) : Plain ctx reader line
  | league {l : League} {line : Line} (h : line ∈ l.lines) : Plain ctx reader line
  | team {t : Team} {line : Line} (h : line ∈ t.lines) : Plain ctx reader line
  | gas (op : Operation) (gas : UInt64) : Plain ctx reader (.pair op.text (idText gas ++ " gas"))
  | rawCall {call : RawCall} {line : Line} (h : line ∈ call.lines) : Plain ctx reader line
  | samples (op : Operation) (iterations : UInt32) :
      Plain ctx reader (.samplesTitle op.text iterations)
  | latency (stats : LatencyStats) : Plain ctx reader (.latency stats)
  | noSamples : Plain ctx reader .noSamples
  | walked (ids : List UInt64) : Plain ctx reader (walkedLine ids)
  | trace (id : UInt64) : Plain ctx reader (.header ("Match " ++ idText id))
  | fetchedMatch (m : Match) :
      Plain ctx reader ((Step.fetched m).line "match" Match.summary)
  | fetchedLeague (l : League) :
      Plain ctx reader ((Step.fetched l).line "league" League.summary)
  | fetchedTeam {what : String} (hwhat : what ∈ stepNames) (t : Team) :
      Plain ctx reader ((Step.fetched t).line what Team.summary)
  | skipped {what : String} (hwhat : what ∈ stepNames) (reason : SkipReason) :
      Plain ctx reader (.skipped what reason)
  | tally (traces failures : Nat) : Plain ctx reader (tallyLine traces failures)
  | blank : Plain ctx reader .blank
  | completed (failures : Nat) : Plain ctx reader (completedLine failures)

/-- Lines that are plain but for those that tell of a failure. -/
def Accounted (ctx : Context) (reader : Reader) (lines : List Line) : Prop :=
  forall line, line ∈ lines -> line.failureText? = none -> line.Plain ctx reader

namespace Accounted

variable {ctx : Context} {reader : Reader} {line : Line} {lines first second : List Line}

protected theorem nil : Accounted ctx reader [] := by
  intro line hline
  cases hline

theorem of_plain (h : forall line, line ∈ lines -> line.Plain ctx reader) :
    Accounted ctx reader lines :=
  fun line hline _ => h line hline

protected theorem singleton (h : line.Plain ctx reader) : Accounted ctx reader [line] := by
  apply of_plain
  intro other hother
  rw [List.mem_singleton.mp hother]
  exact h

protected theorem failure {text : String} (h : line.failureText? = some text) :
    Accounted ctx reader [line] := by
  intro other hother hnone
  rw [List.mem_singleton.mp hother, h] at hnone
  cases hnone

protected theorem append (hfirst : Accounted ctx reader first)
    (hsecond : Accounted ctx reader second) : Accounted ctx reader (first ++ second) := by
  intro line hline
  rcases List.mem_append.mp hline with hline | hline
  · exact hfirst line hline
  · exact hsecond line hline

protected theorem flatMap {lines : α -> List Line} {as : List α}
    (h : forall a, a ∈ as -> Accounted ctx reader (lines a)) :
    Accounted ctx reader (as.flatMap lines) := by
  intro line hline
  rcases List.mem_flatMap.mp hline with ⟨a, ha, hline⟩
  exact h a ha line hline

end Accounted

end Terminal.Line

open Terminal.Line (Plain Accounted stepNames)

/-!
# Lines of reports and events
-/

section Lines

variable (ctx : Context) (reader : Reader)

theorem Outcome.accounted_lines {lines : α -> List Line}
    (hlines : forall a, Accounted ctx reader (lines a)) (outcome : Outcome α) :
    Accounted ctx reader (Outcome.lines lines outcome) := by
  cases outcome with
  | ok a => exact hlines a
  | error e => exact .failure rfl

theorem accounted_accountLines (outcome : Outcome AccountInfo) :
    Accounted ctx reader (accountLines outcome) := by
  cases outcome with
  | ok info => exact .of_plain fun _ => .account
  | error e => exact .failure rfl

theorem accounted_gasLines (results : List (OperationResult UInt64)) :
    Accounted ctx reader (gasLines results) := by
  rw [gasLines, List.map_eq_flatMap]
  apply Accounted.flatMap
  intro r _
  cases r.result with
  | ok gas => exact .singleton (.gas _ gas)
  | error e => exact .failure rfl

theorem accounted_rawCallsLines (results : List (OperationResult RawCall)) :
    Accounted ctx reader (rawCallsLines results) := by
  apply Accounted.flatMap
  intro r _
  cases r.result with
  | ok call => exact .of_plain fun _ => .rawCall
  | error e => exact .failure rfl

theorem accounted_latencyLines {reports : List LatencyReport} (h : Latency.Labelled reports) :
    Accounted ctx reader (latencyLines reports) := by
  apply Accounted.flatMap
  intro report hreport
  rcases h report hreport with ⟨op, hlabel⟩
  have htitle : Accounted ctx reader [.samplesTitle report.label report.iterations] := by
    rw [hlabel]
    exact .singleton (.samples op _)
  have hfailures : Accounted ctx reader (report.failures.map .failedIteration) := by
    rw [List.map_eq_flatMap]
    exact .flatMap fun _ _ => .failure rfl
  unfold LatencyReport.lines
  apply (htitle.append hfailures).append
  cases report.stats with
  | none => exact .singleton .noSamples
  | some stats => exact .singleton (.latency stats)

theorem Step.accounted_line {what : String} (hwhat : what ∈ stepNames) {describe : α -> String}
    (hfetched : forall a, Plain ctx reader ((Step.fetched a).line what describe)) (step : Step α) :
    Accounted ctx reader [step.line what describe] := by
  cases step with
  | fetched a => exact .singleton (hfetched a)
  | failed e => exact .failure rfl
  | skipped reason => exact .singleton (.skipped hwhat reason)

theorem MatchTrace.accounted_lines (trace : MatchTrace) : Accounted ctx reader trace.lines := by
  have hheader : Accounted ctx reader [.header ("Match " ++ idText trace.matchId)] :=
    .singleton (.trace _)
  have hfixture : "match" ∈ stepNames := by decide
  have hleague : "league" ∈ stepNames := by decide
  have hhome : "home team" ∈ stepNames := by decide
  have haway : "away team" ∈ stepNames := by decide
  apply hheader.append
  apply (Step.accounted_line ctx reader hfixture .fetchedMatch trace.fixture).append
  apply (Step.accounted_line ctx reader hleague .fetchedLeague trace.league).append
  apply (Step.accounted_line ctx reader hhome (.fetchedTeam hhome) trace.homeTeam).append
  exact Step.accounted_line ctx reader haway (.fetchedTeam haway) trace.awayTeam

theorem CrossReference.accounted_lines (report : CrossReference) :
    Accounted ctx reader report.lines := by
  apply Accounted.append
  · apply (Accounted.singleton (.walked _)).append
    exact .flatMap fun trace _ => trace.accounted_lines ctx reader
  · exact .singleton (.tally _ _)

theorem accounted_withHeading (phase : Phase) {lines : List Line}
    (h : Accounted ctx reader lines) : Accounted ctx reader (phase.withHeading lines) := by
  unfold Phase.withHeading
  apply Accounted.append _ h
  cases hheading : phase.heading? with
  | none => exact .nil
  | some text => exact .singleton (.heading hheading)

theorem Context.accounted_eventLines {event : PhaseEvent} (h : Suite.Note.Proper (.phase event)) :
    Accounted ctx reader (ctx.eventLines reader.interface.functionNames event) := by
  cases event with
  | started phase => exact accounted_withHeading ctx reader phase .nil
  | connected chain => exact .singleton (.connected chain)
  | debugInfo result =>
      have haddress : Accounted ctx reader (result.toOption.map fun info =>
          addressLine info.address).toList := by
        cases result with
        | ok info => exact .singleton (.address _)
        | error e => exact .nil
      have hfixed : Accounted ctx reader
          [ctx.urlLine, namesLine reader.interface.functionNames] :=
        (Accounted.singleton .url).append (.singleton .names)
      exact (hfixed.append haddress).append (accounted_accountLines ctx reader result)
  | discovery result defaults =>
      cases result with
      | error e => exact .failure rfl
      | ok ids =>
          have hids : Accounted ctx reader (idsLines ids) := .of_plain fun _ => .ids
          apply hids.append
          split
          · exact .nil
          · exact .singleton (.usingMatch _)
  | entityReads fixture league team =>
      apply Accounted.append
      · apply Accounted.append
        · exact Outcome.accounted_lines ctx reader (fun _ => .of_plain fun _ => .fixture) fixture
        · exact Outcome.accounted_lines ctx reader (fun _ => .of_plain fun _ => .league) league
      · exact Outcome.accounted_lines ctx reader (fun _ => .of_plain fun _ => .team) team
  | gasEstimation results => exact accounted_gasLines ctx reader results
  | rawCalls results => exact accounted_rawCallsLines ctx reader results
  | latency reports => exact accounted_latencyLines ctx reader h
  | crossReference report => exact report.accounted_lines ctx reader

/-- A report that is about calls as far as it is about latencies. -/
def Report.Labelled : Report -> Prop
  | .latency reports => Latency.Labelled reports
  | _ => True

theorem Report.accounted_lines {report : Report} (h : report.Labelled) :
    Accounted ctx reader report.lines := by
  cases report with
  | chain served => exact .nil
  | account served result => exact accounted_accountLines ctx reader result
  | unfinished served result =>
      exact Outcome.accounted_lines ctx reader (fun _ => .of_plain fun _ => .ids) result
  | fixture served result =>
      exact Outcome.accounted_lines ctx reader (fun _ => .of_plain fun _ => .fixture) result
  | league served result =>
      exact Outcome.accounted_lines ctx reader (fun _ => .of_plain fun _ => .league) result
  | team served result =>
      exact Outcome.accounted_lines ctx reader (fun _ => .of_plain fun _ => .team) result
  | gas results => exact accounted_withHeading ctx reader _ (accounted_gasLines ctx reader results)
  | rawCalls results =>
      exact accounted_withHeading ctx reader _ (accounted_rawCallsLines ctx reader results)
  | latency reports =>
      exact accounted_withHeading ctx reader _ (accounted_latencyLines ctx reader h)
  | crossReference report =>
      exact accounted_withHeading ctx reader _ (report.accounted_lines ctx reader)
  | suite report =>
      exact (Accounted.singleton .blank).append (.singleton (.completed report.failures))

end Lines

/-!
# What a command prints on its way
-/

/-- What a command may print before its report: minor records and, if it prints for a person, lines
that tell of failures and plain ones. -/
def Printed.Proper (ctx : Context) (reader : Reader) : Printed -> Prop
  | .record r => r.IsMinor
  | .line l => ctx.json = false ∧ Accounted ctx reader [l]

namespace Command

variable (ctx : Context) (reader : Reader)

theorem logged_proper {d : Dialogue Log.Record α} (hd : d.Says IsMinor) :
    (logged d).Says (Printed.Proper ctx reader) :=
  hd.mapNotes fun _ h => h

variable {ctx reader}

/-- Lines that are printed for a person alone. -/
theorem proper_unless_json {lines : List Line} (h : Accounted ctx reader lines)
    (printed : Printed) (hprinted : printed ∈ if ctx.json then [] else lines.map .line) :
    printed.Proper ctx reader := by
  cases hjson : ctx.json with
  | true =>
      rw [hjson] at hprinted
      cases hprinted
  | false =>
      rw [hjson] at hprinted
      rcases List.mem_map.mp hprinted with ⟨line, hline, rfl⟩
      refine ⟨hjson, ?_⟩
      intro other hother
      rw [List.mem_singleton.mp hother]
      exact h line hline

theorem tell_proper {lines : List Line} (h : Accounted ctx reader lines) :
    (tell (if ctx.json then [] else lines)).Says (Printed.Proper ctx reader) := by
  apply Says.noteAll
  rw [apply_ite (List.map Printed.line)]
  exact proper_unless_json h

variable (ctx reader)

theorem discover_proper : (discover ctx reader).Says (Printed.Proper ctx reader) := by
  apply (logged_proper ctx reader (reader.read_minor _ _)).bind
  intro discovery
  cases discovery with
  | error e => exact (tell_proper (.failure rfl)).bind fun _ => .pure _
  | ok ids =>
      -- There is nothing to say of an empty list of matches, for a person either.
      have hline : (if !ctx.json && !ids.isEmpty then
            [usingMatchLine (Defaults.initial.withDiscovery ids).matchId] else []) =
          if ctx.json then [] else if ids.isEmpty then []
            else [usingMatchLine (Defaults.initial.withDiscovery ids).matchId] := by
        cases ctx.json <;> cases ids.isEmpty <;> rfl
      refine Says.bind ?_ fun _ => .pure _
      rw [hline]
      apply tell_proper
      split
      · exact .nil
      · exact .singleton (.usingMatch _)

theorem resolve_proper : (resolve ctx reader).Says (Printed.Proper ctx reader) := by
  apply (discover_proper ctx reader).bind
  intro defaults
  apply (logged_proper ctx reader (Survey.readCurrentMatch_minor reader defaults)).bind
  rintro ⟨current, refined⟩
  refine Says.bind ?_ fun _ => .pure _
  cases current with
  | ok m => exact tell_proper (.singleton (.usingEntities refined))
  | error e => exact tell_proper (.failure rfl)

theorem single_proper (op : Operation) {call : Dialogue Log.Record (Outcome α)}
    (hcall : call.Says IsMinor) : (single ctx op call).Says (Printed.Proper ctx reader) :=
  (tell_proper (.singleton (.call op))).bind fun _ => logged_proper ctx reader hcall

/-- A lookup of an id that is given, or found out first. -/
theorem idOr_proper (id : Option UInt64) {otherwise : Dialogue Printed UInt64}
    {call : UInt64 -> Dialogue Printed α} (h : otherwise.Says (Printed.Proper ctx reader))
    (hcall : forall id, (call id).Says (Printed.Proper ctx reader)) :
    (idOr id otherwise >>= call).Says (Printed.Proper ctx reader) := by
  cases id with
  | some id => exact hcall id
  | none => exact h.bind hcall

theorem walkedIds_proper (ids : List UInt64) :
    (walkedIds ctx reader ids).Says (Printed.Proper ctx reader) := by
  have hdiscovered : (discovered ctx reader).Says (Printed.Proper ctx reader) := by
    apply (logged_proper ctx reader (reader.read_minor _ _)).bind
    intro discovery
    cases discovery with
    | ok ids => exact .pure _
    | error e => exact (tell_proper (.failure rfl)).bind fun _ => .pure _
  unfold walkedIds
  split
  · exact hdiscovered.bind fun _ => .pure _
  · exact .pure _

/-- What a note of a full run has a command print. -/
theorem heard_proper {n : Suite.Note} (hn : n.Proper) (printed : Printed)
    (hprinted : printed ∈ heard ctx reader.interface.functionNames n) :
    printed.Proper ctx reader := by
  cases n with
  | log record =>
      rw [List.mem_singleton.mp hprinted]
      exact hn
  | phase event =>
      exact proper_unless_json (Context.accounted_eventLines ctx reader hn) printed hprinted

theorem gather_proper (chain : ChainStatus) (command : Command) :
    (gather ctx reader chain command).Says (Printed.Proper ctx reader) := by
  have hend {α : Type} {d : Dialogue Printed α} (report : α -> Report)
      (hd : d.Says (Printed.Proper ctx reader)) :
      (do return report (← d)).Says (Printed.Proper ctx reader) :=
    hd.bind fun _ => .pure _
  have hread {α : Type} (op : Operation) (decode : Bytes -> Except ProbeError α) :
      (single ctx op (reader.read op decode)).Says (Printed.Proper ctx reader) :=
    single_proper ctx reader op (reader.read_minor op decode)
  have hsurveyed {α : Type} {survey : Defaults -> Dialogue Log.Record α} (report : α -> Report)
      (hsurvey : forall defaults, (survey defaults).Says IsMinor) :
      (do return report (← logged (survey (← resolve ctx reader)))).Says
        (Printed.Proper ctx reader) :=
    (resolve_proper ctx reader).bind fun defaults =>
      hend report (logged_proper ctx reader (hsurvey defaults))
  cases command with
  | run =>
      have hsurvey := Suite.survey_proper reader { iterations := ctx.settings.iterations } chain
        [.connectivity]
      exact (hsurvey.expandNotes fun _ => heard_proper ctx reader).map
  | probe => exact .pure _
  | debug =>
      have hfixed : Accounted ctx reader [addressLine reader.address, ctx.urlLine,
          namesLine reader.interface.functionNames] :=
        (Accounted.singleton (.address _)).append
          ((Accounted.singleton .url).append (.singleton .names))
      apply (tell_proper (accounted_withHeading ctx reader .debugInfo hfixed)).bind
      intro _
      exact hend _ (logged_proper ctx reader reader.accountInfo_minor)
  | unfinished => exact hend _ (hread _ _)
  | fixture id =>
      exact idOr_proper ctx reader id (discover_proper ctx reader).map fun _ => hend _ (hread _ _)
  | league id =>
      exact idOr_proper ctx reader id (resolve_proper ctx reader).map fun _ => hend _ (hread _ _)
  | team id =>
      exact idOr_proper ctx reader id (resolve_proper ctx reader).map fun _ => hend _ (hread _ _)
  | gas => exact hsurveyed _ (Survey.gas_minor reader)
  | raw => exact hsurveyed _ (Survey.rawCalls_minor reader)
  | bench => exact hsurveyed _ fun defaults => Survey.latency_minor reader defaults _
  | cross ids =>
      apply (walkedIds_proper ctx reader ids).bind
      exact fun ids => hend _ (logged_proper ctx reader (Walk.run_minor reader ids))

theorem gather_labelled (chain : ChainStatus) (command : Command) :
    (gather ctx reader chain command).Gives Report.Labelled := by
  cases command with
  | bench =>
      apply Gives.of_rest
      intro defaults
      apply (Survey.latency_labelled reader defaults _).mapNotes.bind
      exact fun _ h => .pure h
  | run => exact Gives.map (P := fun _ => True) ⟨fun _ => trivial⟩ fun _ _ => trivial
  | probe => exact .pure trivial
  | unfinished => exact .of_rest fun _ => .pure trivial
  | _ => exact .of_rest fun _ => .of_rest fun _ => .pure trivial

section Runs

variable {ctx : Context} {reader : Reader} {command : Command} {chain : ChainStatus}
  {node : Node σ} {s s₁ s' : σ} {report : Report} {probeLog log : List Exchange}

theorem mem_linesOf {d : Dialogue Printed α} {line : Line} (h : line ∈ linesOf node s d) :
    .line line ∈ (d.run node s).notes := by
  rcases List.mem_filterMap.mp h with ⟨printed, hprinted, hline⟩
  cases printed with
  | line l =>
      cases hline
      exact hprinted
  | record r => cases hline

/-- For a program nothing is printed before the report. -/
theorem linesOf_gather_json (hjson : ctx.json = true) :
    linesOf node s (gather ctx reader chain command) = [] := by
  apply List.eq_nil_iff_forall_not_mem.mpr
  intro line hline
  rcases (gather_proper ctx reader chain command).of_run node s _ (mem_linesOf hline) with
    ⟨hperson, -⟩
  rw [hjson] at hperson
  cases hperson

/-- Once connected, a command prints for a program the document for its report alone. -/
theorem linesOf_execute_ok_json (hjson : ctx.json = true)
    (hprobe : Runs node s Reader.probe (.ok chain) probeLog s₁)
    (h : Runs node s₁ (gather ctx reader chain command) report log s') :
    linesOf node s (execute ctx (.ok reader) command) =
      [.document (report.document ctx reader.interface.functionNames)] := by
  have hopening : openingLines ctx command = [] := by
    cases command with
    | _ => exact if_pos hjson
  rw [linesOf_execute_ok hprobe h, hopening, linesOf_gather_json hjson, Report.ending, hjson]
  rfl

/-- For a person every line of a connected command tells of a failure or is plain. -/
theorem accounted_linesOf_execute (hjson : ctx.json = false)
    (hprobe : Runs node s Reader.probe (.ok chain) probeLog s₁)
    (h : Runs node s₁ (gather ctx reader chain command) report log s') :
    Accounted ctx reader (linesOf node s (execute ctx (.ok reader) command)) := by
  have hopening : Accounted ctx reader (openingLines ctx command) := by
    unfold openingLines
    rw [hjson]
    split
    · exact (Accounted.singleton .title).append (.singleton .connecting)
    · exact .singleton .connecting
  have hgather : Accounted ctx reader (linesOf node s₁ (gather ctx reader chain command)) := by
    intro line hline
    rcases (gather_proper ctx reader chain command).of_run node s₁ _ (mem_linesOf hline) with
      ⟨-, haccounted⟩
    exact haccounted line List.mem_cons_self
  rw [linesOf_execute_ok hprobe h, Report.ending, hjson]
  apply (hopening.append (.singleton (.connected chain))).append
  exact hgather.append (report.accounted_lines ctx reader
    ((gather_labelled ctx reader chain command).of_runs h))

end Runs

end Command

end FixtureProbe
