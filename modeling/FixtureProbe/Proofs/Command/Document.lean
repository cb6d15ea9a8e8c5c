import FixtureProbe.Proofs.Command.ExitCode
import FixtureProbe.Proofs.Command.PlainLines
import FixtureProbe.Proofs.Json.Grammar
import FixtureProbe.Proofs.Report.Reading

/-!
# One document

When the output is for a program, a run that has its settings prints one JSON document and nothing
else, wherever it fails. On the way to its report a command prints no line in this mode, and records
are not admitted unless the user asks for them. The document of a fault and of a lookup is an envelope
whose members follow from the exit code; the other reports are printed as they are. What the documents
hold is read from them.
-/

namespace FixtureProbe

open Dialogue
open Terminal (Line)

variable {σ : Type}

/-!
# Documents of reports
-/

namespace Report

/-- The data of a lookup that has succeeded. -/
inductive Found (settings : Settings) (functions : List String) :
    Report -> ChainStatus -> Json -> Prop where
  | account {served : ChainStatus} {info : AccountInfo} {data : Json}
      (hurl : data.at? Json.text? "rpc_url" = some settings.rpcUrl)
      (hfunctions : data.at? (Json.list? Json.text?) "abi_functions" = some functions)
      (hinfo : AccountInfo.ofJson? ["rpc_url", "abi_functions"] data = some info) :
      Found settings functions (.account served (.ok info)) served data
  | unfinished {served : ChainStatus} {ids : List UInt64} {data : Json}
      (h : Json.list? Json.id? data = some ids) :
      Found settings functions (.unfinished served (.ok ids)) served data
  | fixture {served : ChainStatus} {m : Match} {data : Json} (h : Match.ofJson? data = some m) :
      Found settings functions (.fixture served (.ok m)) served data
  | league {served : ChainStatus} {l : League} {data : Json} (h : League.ofJson? data = some l) :
      Found settings functions (.league served (.ok l)) served data
  | team {served : ChainStatus} {t : Team} {data : Json} (h : Team.ofJson? data = some t) :
      Found settings functions (.team served (.ok t)) served data

/-- The failure of a lookup. -/
inductive Missed : Report -> ChainStatus -> ProbeError -> Prop where
  | account {served : ChainStatus} {e : ProbeError} : Missed (.account served (.error e)) served e
  | unfinished {served : ChainStatus} {e : ProbeError} :
      Missed (.unfinished served (.error e)) served e
  | fixture {served : ChainStatus} {e : ProbeError} : Missed (.fixture served (.error e)) served e
  | league {served : ChainStatus} {e : ProbeError} : Missed (.league served (.error e)) served e
  | team {served : ChainStatus} {e : ProbeError} : Missed (.team served (.error e)) served e

/-- A document that is a report which is about no single thing. -/
inductive Bare : Report -> Json -> Prop where
  | chain {served : ChainStatus} {document : Json}
      (h : ChainStatus.ofJson? document = some served) : Bare (.chain served) document
  | gas {results : List (OperationResult UInt64)} {document : Json}
      (h : Json.list? (OperationResult.ofJson? Json.id?) document = some results) :
      Bare (.gas results) document
  | rawCalls {results : List (OperationResult RawCall)} {document : Json}
      (h : Json.list? (OperationResult.ofJson? RawCall.ofJson?) document = some results) :
      Bare (.rawCalls results) document
  | latency {reports : List LatencyReport} {document : Json}
      (h : Latency.ReadFrom reports document) : Bare (.latency reports) document
  | crossReference {report : CrossReference} {document : Json}
      (h : CrossReference.ofJson? document = some report) : Bare (.crossReference report) document
  | suite {report : SuiteReport} {document : Json} (h : report.ReadFrom document) :
      Bare (.suite report) document

end Report

/-- The document for what a command has come to, by the exit code that goes with it. -/
inductive Shows (settings : Settings) (functions : List String) (command : Command) :
    Outcome Report -> UInt8 -> Json -> Prop where
  /-- The command has not begun: a failure without a chain and without data. -/
  | fatal {e : ProbeError} {error : Json} (herror : ProbeError.ofJson? error = some e) :
      Shows settings functions command (.error e) 1
        (.object [("success", .bool false), ("error", error)])
  /-- The lookup has succeeded: the chain and the data, and no failure. -/
  | found {report : Report} {served : ChainStatus} {chain data : Json}
      (hcommand : command.isLookup = true) (hreport : command.Answered report)
      (hchain : ChainStatus.ofJson? chain = some served)
      (hdata : report.Found settings functions served data) :
      Shows settings functions command (.ok report) 0
        (.object [("success", .bool true), ("chain", chain), ("data", data)])
  /-- The lookup has failed: the chain and the failure, and no data. -/
  | missed {report : Report} {served : ChainStatus} {e : ProbeError} {chain error : Json}
      (hcommand : command.isLookup = true) (hreport : command.Answered report)
      (hchain : ChainStatus.ofJson? chain = some served) (hmissed : report.Missed served e)
      (herror : ProbeError.ofJson? error = some e) :
      Shows settings functions command (.ok report) 2
        (.object [("success", .bool false), ("chain", chain), ("error", error)])
  /-- The report alone. -/
  | bare {report : Report} {document : Json} (hcommand : command.isLookup = false)
      (hreport : command.Answered report) (h : report.Bare document) :
      Shows settings functions command (.ok report) 0 document

section Reports

variable (ctx : Context) {functions : List String} {command : Command} {report : Report}

theorem shows_fatal (e : ProbeError) :
    Shows ctx.settings functions command (.error e) (exitCode (.error e)) (fatalDocument e) :=
  .fatal e.ofJson?_json

/-- A lookup is shown by its envelope, if its data can be read. -/
theorem shows_envelope {α : Type} {served : ChainStatus} {data : α -> Json} {result : Outcome α}
    (hcommand : command.isLookup = true) (hreport : command.Answered report)
    (hfailure : report.isFailure = Outcome.isFailure result)
    (hfound : forall a, result = .ok a -> report.Found ctx.settings functions served (data a))
    (hmissed : forall e, result = .error e -> report.Missed served e) :
    Shows ctx.settings functions command (.ok report) (exitCode (.ok report))
      (envelope served data result) := by
  rw [exitCode, hfailure]
  cases result with
  | ok a => exact .found hcommand hreport served.ofJson?_json (hfound a rfl)
  | error e =>
      exact .missed hcommand hreport served.ofJson?_json (hmissed e rfl) e.ofJson?_json

theorem found_account (ctx : Context) (functions : List String) (served : ChainStatus)
    (info : AccountInfo) :
    Report.Found ctx.settings functions (.account served (.ok info)) served
      (ctx.accountData functions info) := by
  have htext (s : String) : Json.text? (.string s) = some s := rfl
  -- What is known without asking stands in front of the members of the account.
  have hinfo : AccountInfo.ofJson? ["rpc_url", "abi_functions"] (ctx.accountData functions info) =
      AccountInfo.ofJson? [] info.json := by
    simp [AccountInfo.ofJson?, AccountInfo.json, AccountInfo.members, Context.accountData]
  exact .account rfl (Json.list?_list htext functions) (hinfo.trans info.ofJson?_json)

theorem shows_document (hreport : command.Answered report) :
    Shows ctx.settings functions command (.ok report) (exitCode (.ok report))
      (report.document ctx functions) := by
  have hids := Json.list?_list Json.id?_uint64
  cases hreport with
  | run report => exact .bare rfl (.run report) (.suite report.readFrom_json)
  | probe served => exact .bare rfl (.probe served) (.chain served.ofJson?_json)
  | gas results =>
      exact .bare rfl (.gas results)
        (.gas (Json.list?_list (OperationResult.ofJson?_json Json.id?_uint64) results))
  | raw results =>
      exact .bare rfl (.raw results)
        (.rawCalls (Json.list?_list (OperationResult.ofJson?_json RawCall.ofJson?_json) results))
  | bench reports => exact .bare rfl (.bench reports) (.latency (Latency.readFrom_list reports))
  | cross ids report =>
      exact .bare rfl (.cross ids report) (.crossReference report.ofJson?_json)
  | debug served result =>
      apply shows_envelope ctx rfl (.debug served result) rfl
      · rintro info rfl
        exact found_account ctx functions served info
      · rintro e rfl
        exact .account
  | unfinished served result =>
      apply shows_envelope ctx rfl (.unfinished served result) rfl
      · rintro ids rfl
        exact .unfinished (hids ids)
      · rintro e rfl
        exact .unfinished
  | fixture id served result =>
      apply shows_envelope ctx rfl (.fixture id served result) rfl
      · rintro m rfl
        exact .fixture m.ofJson?_json
      · rintro e rfl
        exact .fixture
  | league id served result =>
      apply shows_envelope ctx rfl (.league id served result) rfl
      · rintro l rfl
        exact .league l.ofJson?_json
      · rintro e rfl
        exact .league
  | team id served result =>
      apply shows_envelope ctx rfl (.team id served result) rfl
      · rintro t rfl
        exact .team t.ofJson?_json
      · rintro e rfl
        exact .team

end Reports

/-!
# What a command prints for a program
-/

/-- A record that is minor, or a line. -/
def Printed.IsMinor : Printed -> Prop
  | .record r => r.IsMinor
  | .line _ => True

theorem Printed.Proper.isMinor {ctx : Context} {reader : Reader} {printed : Printed}
    (h : printed.Proper ctx reader) : printed.IsMinor := by
  cases printed with
  | line l => trivial
  | record r => exact h

namespace Command

theorem tell_minor (lines : List Line) : (tell lines).Says Printed.IsMinor := by
  apply Says.noteAll
  intro printed hprinted
  rcases List.mem_map.mp hprinted with ⟨line, -, rfl⟩
  trivial

theorem execute_minor (ctx : Context) (reader : Except ProbeError Reader) (command : Command) :
    (execute ctx reader command).Says Printed.IsMinor := by
  have hopening : (noteAll (opening ctx command)).Says Printed.IsMinor := by
    apply Says.noteAll
    intro printed hprinted
    rcases List.mem_append.mp hprinted with hprinted | hprinted
    · rcases List.mem_map.mp hprinted with ⟨line, -, rfl⟩
      trivial
    · split at hprinted
      · rw [List.mem_singleton.mp hprinted]
        exact Log.Record.isMinor_of_info rfl
      · cases hprinted
  cases reader with
  | error e =>
      rw [execute_error]
      exact (tell_minor _).bind fun _ => (tell_minor _).bind fun _ => .pure _
  | ok reader =>
      have hlogged : (logged Reader.probe).Says Printed.IsMinor :=
        Reader.probe_minor.mapNotes fun _ h => h
      rw [execute_ok]
      apply hopening.bind
      intro _
      apply hlogged.bind
      intro probed
      cases probed with
      | error e => exact (tell_minor _).bind fun _ => .pure _
      | ok chain =>
          apply (tell_minor _).bind
          intro _
          apply ((gather_proper ctx reader chain command).imp fun _ h => h.isMinor).bind
          intro report
          exact (tell_minor _).bind fun _ => .pure _

end Command

/-- The names of the functions of a reader, if there is one. -/
def functionNames : Except ProbeError Reader -> List String
  | .ok reader => reader.interface.functionNames
  | .error _ => []

namespace Command

section Runs

variable {ctx : Context} {reader : Except ProbeError Reader} {command : Command} {node : Node σ}
  {s s' : σ} {ending : Ending} {log : List Exchange}

/-- A command prints one document for a program, and it shows how the command ends. -/
theorem linesOf_execute_json (hjson : ctx.json = true)
    (hrun : Runs node s (execute ctx reader command) ending log s') :
    exists document, linesOf node s (execute ctx reader command) = [.document document] ∧
      Shows ctx.settings (functionNames reader) command ending.outcome ending.code document := by
  have hgiveUp {t : σ} (e : ProbeError) :
      linesOf node t (giveUp ctx e) = [.document (fatalDocument e)] := by
    rw [linesOf_giveUp, hjson]
    rfl
  cases reader with
  | error e =>
      have hopening : openingWithoutReader ctx command = [] := by
        cases command with
        | run => rfl
        | _ => exact if_pos hjson
      rcases (runs_execute_of_error ctx e command).unique hrun with ⟨rfl, -, -⟩
      refine ⟨_, ?_, shows_fatal ctx e⟩
      rw [execute_error, linesOf_tell_bind, hopening, hgiveUp]
      rfl
  | ok reader =>
      have hopening : openingLines ctx command = [] := by
        cases command with
        | _ => exact if_pos hjson
      rcases execute_cases hrun with ⟨probed, probeLog, restLog, s₁, hprobe, rfl, hrest⟩
      cases probed with
      | error e =>
          rcases hrest with ⟨rfl, rfl⟩
          refine ⟨_, ?_, shows_fatal ctx e⟩
          rw [linesOf_execute hprobe, hopening, afterProbe, hgiveUp]
          rfl
      | ok chain =>
          rcases hrest with ⟨report, rfl, hgather⟩
          exact ⟨_, linesOf_execute_ok_json hjson hprobe hgather, shows_document ctx
            ((gather_gives_answered ctx reader chain command).of_runs hgather)⟩

end Runs

end Command

/-!
# The whole program
-/

namespace Program

theorem flatMap_admitted_quiet {printed : List Printed}
    (h : forall n, n ∈ printed -> n.IsMinor) :
    printed.flatMap (admitted .quiet) = (lines printed).map .line := by
  induction printed with
  | nil => rfl
  | cons item printed ih =>
      have ih := ih fun n hn => h n (List.mem_cons_of_mem item hn)
      cases item with
      | line l => exact congrArg (Printed.line l :: ·) ih
      | record r =>
          have hminor : r.IsMinor := h (.record r) List.mem_cons_self
          rw [List.flatMap_cons, admitted, Log.Filter.admits_quiet hminor]
          exact ih

theorem dialogue_minor (arguments : Arguments) (settings : Settings)
    (built : Except ProbeError (Endpoint × Reader)) :
    (dialogue arguments settings built).Says Printed.IsMinor := by
  have hsettings : Printed.IsMinor (.record (settingsRecord settings)) :=
    Log.Record.isMinor_of_debug rfl
  apply Says.bind (.note hsettings)
  intro _
  apply (Command.execute_minor _ _ _).announce
  intro request n hn
  rcases List.mem_map.mp hn with ⟨record, hrecord, rfl⟩
  cases request with
  | call target calldata =>
      rw [List.mem_singleton.mp hrecord]
      exact Log.Record.isMinor_of_debug rfl
  | estimateGas target calldata =>
      rw [List.mem_singleton.mp hrecord]
      exact Log.Record.isMinor_of_debug rfl
  | _ => cases hrecord

/-- With logging left at its default, all that is printed is the lines of the command. -/
theorem notes_withSettings_quiet (arguments : Arguments) (settings : Settings)
    (built : Except ProbeError (Endpoint × Reader)) (node : Node σ) (s : σ) :
    ((withSettings .quiet arguments settings built).run node s).notes =
      (Command.linesOf node s (Command.execute (context arguments settings) (built.map (·.2))
        arguments.command)).map .line := by
  rw [notes_withSettings,
    flatMap_admitted_quiet ((dialogue_minor arguments settings built).of_run node s),
    lines_dialogue]

theorem written_document (looks : Looks) (time : String) (value : Json) :
    written looks time .out [.line (.document value)] = value.pretty ++ "\n" ∧
      written looks time .err [.line (.document value)] = "" := by
  have htext : Printed.text looks time (.line (.document value)) = value.pretty ++ "\n" := by
    have hspan : Terminal.Span.render looks.colours (.plain value.pretty) = value.pretty := by
      cases looks.colours with
      | true => rfl
      | false => rfl
    rw [Printed.text, Terminal.Line.text, Terminal.Line.spans, List.map_singleton, hspan,
      String.join_cons, String.join_nil, String.append_empty]
  constructor
  · rw [← htext]
    exact String.empty_append
  · rfl

/-- A run for a program that has its settings and logs nothing beyond what is logged by default
prints one document, which is a JSON text, and a line break, and it prints nothing to the other
stream. -/
theorem execution_document (env : String -> Option String) {files : String -> Except String String}
    {arguments : Arguments} {settings : Settings} (hsettings : Resolves files arguments settings)
    (hjson : arguments.json = true) (hquiet : filter env arguments.verbose = .quiet)
    (node : Node σ) (s : σ) :
    let built := build settings (settings.abiPath.map files)
    let run := (execution env files arguments).run node s
    exists document,
      Shows settings (functionNames (built.map (·.2))) arguments.command
        ((dialogue arguments settings built).run node s).value.outcome run.value document ∧
      document.Spells document.pretty.toList ∧
      forall looks time,
        written looks time .out run.notes = document.pretty ++ "\n" ∧
          written looks time .err run.notes = "" := by
  intro built run
  have hcommand := execute_of_dialogue (Runs.self node s (dialogue arguments settings built))
  have hrun : Runs node s (execution env files arguments) _ _ _ :=
    runs_execution (settings_of_resolves hsettings) hcommand
  rcases Command.linesOf_execute_json hjson hcommand with ⟨document, hlines, hshows⟩
  have hnotes := notes_withSettings_quiet arguments settings built node s
  rw [hlines, ← hquiet, ← execution_of_ok (settings_of_resolves hsettings)] at hnotes
  rw [← hrun.value] at hshows
  refine ⟨document, hshows, Json.spells_pretty _, ?_⟩
  intro looks time
  rw [hnotes]
  exact written_document looks time document

/-- The block number and the chain of the node come through, and the lookup is turned away. -/
theorem execution_document_flaky :
    let missing : String -> Except String String := fun path => .error path
    let arguments : Arguments := .loopback true .debug
    let built := build loopbackSettings (loopbackSettings.abiPath.map missing)
    let run := (execution (fun _ => none) missing arguments).run Node.flaky 0
    (Resolves missing arguments loopbackSettings ∧ arguments.json = true ∧
      filter (fun _ => none) arguments.verbose = .quiet) ∧
    exists document,
      Shows loopbackSettings (functionNames (built.map (·.2))) .debug
        ((dialogue arguments loopbackSettings built).run Node.flaky 0).value.outcome run.value
        document ∧
      document.Spells document.pretty.toList ∧
      forall looks time,
        written looks time .out run.notes = document.pretty ++ "\n" ∧
          written looks time .err run.notes = "" := by
  intro missing arguments
  have hsettings : Resolves missing arguments loopbackSettings := resolves_loopback _ _ _
  exact ⟨⟨hsettings, rfl, rfl⟩,
    execution_document (fun _ => none) hsettings rfl rfl Node.flaky 0⟩

end Program

end FixtureProbe
