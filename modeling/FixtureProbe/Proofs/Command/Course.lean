import FixtureProbe.Command.Program
import FixtureProbe.Proofs.Node.Remarks
import FixtureProbe.Proofs.Probe.Suite

/-!
# The course of a command

Every command that has a reader takes the same course: it opens, probes the node and, once connected,
gathers what it reports on; then it prints its report and ends. The full run begins and goes on in its
own way, and a command prints one thing for a person and another for a program, but the course is the
same. Around the command, the program does nothing but leave out log records.
-/

namespace FixtureProbe

open Dialogue
open Terminal (Line)

variable {α β σ : Type}

/-!
# Ends of commands
-/

/-- Whether the lookup that a report is about has failed. -/
def Report.isFailure : Report -> Bool
  | .account _ result => Outcome.isFailure result
  | .unfinished _ result => Outcome.isFailure result
  | .fixture _ result => Outcome.isFailure result
  | .league _ result => Outcome.isFailure result
  | .team _ result => Outcome.isFailure result
  | _ => false

/-- The exit code that belongs to an outcome: one if the command could not begin, two if its own lookup
has failed. -/
def exitCode : Outcome Report -> UInt8
  | .error _ => 1
  | .ok report => if report.isFailure then 2 else 0

/-- The ending with an outcome and with the exit code that belongs to it. -/
def Ending.of (outcome : Outcome Report) : Ending :=
  ⟨exitCode outcome, outcome⟩

/-- The lines for a report. -/
def Report.lines : Report -> List Line
  | .chain _ => []
  | .account _ result => accountLines result
  | .unfinished _ result => Outcome.lines idsLines result
  | .fixture _ result => Outcome.lines Match.lines result
  | .league _ result => Outcome.lines League.lines result
  | .team _ result => Outcome.lines Team.lines result
  | .gas results => Phase.gasEstimation.withHeading (gasLines results)
  | .rawCalls results => Phase.rawCalls.withHeading (rawCallsLines results)
  | .latency reports => Phase.latency.withHeading (latencyLines reports)
  | .crossReference report => Phase.crossReference.withHeading report.lines
  | .suite report => [.blank, completedLine report.failures]

/-- The document for a report. -/
def Report.document (ctx : Context) (functions : List String) : Report -> Json
  | .chain served => served.json
  | .account served result => envelope served (ctx.accountData functions) result
  | .unfinished served result => envelope served idsJson result
  | .fixture served result => envelope served Match.json result
  | .league served result => envelope served League.json result
  | .team served result => envelope served Team.json result
  | .gas results => Json.list (OperationResult.json .uint64) results
  | .rawCalls results => Json.list (OperationResult.json RawCall.json) results
  | .latency reports => Json.list LatencyReport.json reports
  | .crossReference report => report.json
  | .suite report => report.json

/-- What is printed at the end for a report. -/
def Report.ending (ctx : Context) (functions : List String) (report : Report) : List Line :=
  if ctx.json then [.document (report.document ctx functions)] else report.lines

/-!
# Lines of a run
-/

/-- The line that is printed, if it is one. -/
def Printed.line? : Printed -> Option Line
  | .line l => some l
  | .record _ => none

/-- The lines among the things that are printed. -/
def Program.lines (printed : List Printed) : List Line :=
  printed.filterMap Printed.line?

theorem Program.lines_append (first second : List Printed) :
    lines (first ++ second) = lines first ++ lines second :=
  List.filterMap_append

theorem Program.lines_map_line (ls : List Line) : lines (ls.map .line) = ls := by
  rw [lines, List.filterMap_map]
  exact List.filterMap_some

namespace Command

/-- The lines that a run of a dialogue prints. -/
def linesOf (node : Node σ) (s : σ) (d : Dialogue Printed α) : List Line :=
  Program.lines (d.run node s).notes

section Lines

variable {node : Node σ} {s s₁ : σ} {a : α} {log : List Exchange}

theorem linesOf_bind {d : Dialogue Printed α} (h : Runs node s d a log s₁)
    (f : α -> Dialogue Printed β) :
    linesOf node s (d >>= f) = linesOf node s d ++ linesOf node s₁ (f a) := by
  rw [linesOf, h.notes_bind, Program.lines_append]
  rfl

theorem linesOf_map (g : α -> β) (d : Dialogue Printed α) :
    linesOf node s (g <$> d) = linesOf node s d := by
  rw [linesOf, notes_map]
  rfl

theorem linesOf_noteAll (printed : List Printed) :
    linesOf node s (noteAll printed) = Program.lines printed := by
  rw [linesOf, notes_noteAll]

theorem linesOf_tell (ls : List Line) : linesOf node s (tell ls) = ls := by
  rw [tell, linesOf_noteAll, Program.lines_map_line]

theorem linesOf_logged (d : Dialogue Log.Record α) : linesOf node s (logged d) = [] := by
  rw [linesOf, logged, notes_mapNotes, Program.lines, List.filterMap_map]
  exact List.filterMap_eq_nil_iff.mpr fun _ _ => rfl

theorem linesOf_tell_bind (ls : List Line) (f : Unit -> Dialogue Printed β) :
    linesOf node s (tell ls >>= f) = ls ++ linesOf node s (f ()) := by
  have htell : Runs node s (tell ls) () [] s := Runs.noteAll _
  rw [linesOf_bind htell, linesOf_tell]

end Lines

/-!
# Commands in parts
-/

/-- What a command prints for the notes of a full run. -/
def heard (ctx : Context) (functions : List String) : Suite.Note -> List Printed :=
  Suite.Note.handed .record fun event =>
    if ctx.json then [] else (ctx.eventLines functions event).map .line

/-- The lines of a command before it asks for anything. -/
def openingLines (ctx : Context) : Command -> List Line
  | .run => if ctx.json then [] else [titleLine, ctx.connectingLine]
  | _ => if ctx.json then [] else [ctx.connectingLine]

/-- What a command prints before it asks for anything; the full run begins a phase there. -/
def opening (ctx : Context) (command : Command) : List Printed :=
  (openingLines ctx command).map .line ++
    if command = .run then [.record (Suite.startRecord .connectivity)] else []

/-- What a connected command does up to its report. -/
def gather (ctx : Context) (reader : Reader) (chain : ChainStatus) :
    Command -> Dialogue Printed Report
  | .run =>
      Report.suite <$>
        (Suite.survey reader { iterations := ctx.settings.iterations } chain
          [.connectivity]).expandNotes (heard ctx reader.interface.functionNames)
  | .probe => return .chain chain
  | .debug => do
      tell (if ctx.json then []
        else Phase.debugInfo.withHeading
          [addressLine reader.address, ctx.urlLine, namesLine reader.interface.functionNames])
      return .account chain (← logged reader.accountInfo)
  | .unfinished => do
      return .unfinished chain (← single ctx .getUnfinishedMatches reader.readUnfinished)
  | .fixture id => do
      let id ← idOr id ((·.matchId) <$> discover ctx reader)
      return .fixture chain (← single ctx (.getMatch id) (reader.readMatch id))
  | .league id => do
      let id ← idOr id ((·.leagueId) <$> resolve ctx reader)
      return .league chain (← single ctx (.getLeague id) (reader.readLeague id))
  | .team id => do
      let id ← idOr id ((·.teamId) <$> resolve ctx reader)
      return .team chain (← single ctx (.getTeam id) (reader.readTeam id))
  | .gas => do return .gas (← logged (Survey.gas reader (← resolve ctx reader)))
  | .raw => do return .rawCalls (← logged (Survey.rawCalls reader (← resolve ctx reader)))
  | .bench => do
      return .latency
        (← logged (Survey.latency reader (← resolve ctx reader) ctx.settings.iterations))
  | .cross ids => do
      return .crossReference (← logged (Walk.run reader (← walkedIds ctx reader ids)))

/-- Prints a report and ends. -/
def conclude (ctx : Context) (functions : List String) (report : Report) :
    Dialogue Printed Ending := do
  tell (report.ending ctx functions)
  return .of (.ok report)

/-- Reports a failure for which a command cannot begin, and ends. -/
def giveUp (ctx : Context) (e : ProbeError) : Dialogue Printed Ending := do
  fatal ctx e
  return .of (.error e)

/-- What a command does once the probe has given an outcome. -/
def afterProbe (ctx : Context) (reader : Reader) (command : Command) :
    Outcome ChainStatus -> Dialogue Printed Ending
  | .error e => giveUp ctx e
  | .ok chain => do
      tell (if ctx.json then [] else [chain.line])
      conclude ctx reader.interface.functionNames (← gather ctx reader chain command)

/-- Every command but the full run gathers its report and concludes with it. -/
theorem afterConnect_eq (ctx : Context) (reader : Reader) (chain : ChainStatus) {command : Command}
    (h : command ≠ .run) :
    afterConnect ctx reader chain command =
      gather ctx reader chain command >>= conclude ctx reader.interface.functionNames := by
  cases command with
  | run => exact absurd rfl h
  | probe => rfl
  | debug =>
      -- The two ways of reporting on an account agree with the one here, whoever reads it.
      rw [afterConnect, inspect, gather, bind_assoc]
      congr 1
      funext _
      rw [bind_assoc]
      congr 1
      funext result
      rcases ctx with ⟨settings, json⟩
      cases json with
      | true => rfl
      | false =>
          cases result with
          | ok info => rfl
          | error e => rfl
  | _ =>
      simp only [gather, bind_assoc]
      rfl

/-- Observed or not, a full run is the same dialogue but for what is printed for its notes. -/
theorem observedRun_eq (ctx : Context) (reader : Reader) :
    observedRun ctx reader =
      tell (if ctx.json then [] else [titleLine, ctx.connectingLine]) >>= fun _ =>
        (Suite.run reader { iterations := ctx.settings.iterations }).expandNotes
          (heard ctx reader.interface.functionNames) := by
  rcases ctx with ⟨settings, json⟩
  cases json with
  | true =>
      rw [observedRun, if_pos rfl, logged, mapNotes, Suite.quiet, Suite.observed,
        expandNotes_expandNotes]
      change Dialogue.expandNotes _ _ = Dialogue.expandNotes _ _
      congr 1
      funext n
      cases n with
      | log record => rfl
      | phase event => rfl
  | false => rfl

theorem expandNotes_logged (ctx : Context) (functions : List String)
    (d : Dialogue Log.Record α) :
    (Suite.logged d).expandNotes (heard ctx functions) = logged d :=
  expandNotes_mapNotes _ _ d

/-- The connection of a full run is that of every other command, but for a record in front of it. -/
theorem expandNotes_run (ctx : Context) (reader : Reader) (options : SuiteOptions) :
    (Suite.run reader options).expandNotes (heard ctx reader.interface.functionNames) =
      note (.record (Suite.startRecord .connectivity)) >>= fun _ =>
        logged Reader.probe >>= fun probed =>
          match probed with
          | .error e => pure (.error e)
          | .ok chain =>
              tell (if ctx.json then [] else [chain.line]) >>= fun _ =>
                .ok <$> (Suite.survey reader options chain [.connectivity]).expandNotes
                  (heard ctx reader.interface.functionNames) := by
  have henter : (Suite.enter .connectivity).expandNotes
      (heard ctx reader.interface.functionNames) =
        note (.record (Suite.startRecord .connectivity)) >>= fun _ => pure .connectivity := by
    rcases ctx with ⟨settings, json⟩
    cases json with
    | true => rfl
    | false => rfl
  have hconnected (chain : ChainStatus) :
      (Suite.report (.connected chain)).expandNotes (heard ctx reader.interface.functionNames) =
        tell (if ctx.json then [] else [chain.line]) := by
    rcases ctx with ⟨settings, json⟩
    cases json with
    | true => rfl
    | false => rfl
  rw [Suite.run, expandNotes_bind, henter, bind_assoc]
  congr 1
  funext _
  rw [pure_bind, expandNotes_bind, expandNotes_logged]
  congr 1
  funext probed
  cases probed with
  | error e => rfl
  | ok chain =>
      dsimp only
      rw [expandNotes_bind, hconnected]
      congr 1
      funext _
      rw [expandNotes_bind, ← bind_pure_comp]
      rfl

theorem fullRun_ok (ctx : Context) (reader : Reader) :
    fullRun ctx (.ok reader) =
      noteAll (opening ctx .run) >>= fun _ =>
        logged Reader.probe >>= afterProbe ctx reader .run := by
  have hopening : noteAll (opening ctx .run) =
      tell (openingLines ctx .run) >>= fun _ =>
        note (.record (Suite.startRecord .connectivity)) := by
    rcases ctx with ⟨settings, json⟩
    cases json with
    | true => rfl
    | false => rfl
  rw [fullRun, observedRun_eq, expandNotes_run, hopening]
  simp only [bind_assoc]
  congr 1
  funext _
  congr 1
  funext _
  congr 1
  funext probed
  cases probed with
  | error e => rfl
  | ok chain =>
      simp only [bind_assoc, bind_map_left]
      rw [afterProbe]
      congr 1
      funext _
      rw [gather, bind_map_left]
      rfl

/-- Every command that has a reader opens, probes the node, and goes on from there. -/
theorem execute_ok (ctx : Context) (reader : Reader) (command : Command) :
    execute ctx (.ok reader) command =
      noteAll (opening ctx command) >>= fun _ =>
        logged Reader.probe >>= afterProbe ctx reader command := by
  by_cases hrun : command = .run
  · rw [hrun]
    exact fullRun_ok ctx reader
  · have hopening : noteAll (opening ctx command) =
        tell (if ctx.json then [] else [ctx.connectingLine]) := by
      rw [opening, if_neg hrun, List.append_nil]
      cases command with
      | run => exact absurd rfl hrun
      | _ => rfl
    rw [execute_of_ne_run ctx _ hrun, hopening, connect]
    simp only [bind_assoc]
    congr 1
    funext _
    rw [probed]
    simp only [bind_assoc]
    congr 1
    funext outcome
    cases outcome with
    | error e =>
        simp only [pure_bind, bind_assoc, Except.map]
        rfl
    | ok chain =>
        simp only [pure_bind, bind_assoc, Except.map]
        rw [afterProbe]
        simp only [afterConnect_eq ctx reader chain hrun]

/-- What a command prints when there is no reader, before it gives up. -/
def openingWithoutReader (ctx : Context) : Command -> List Line
  | .run => []
  | _ => if ctx.json then [] else [ctx.connectingLine]

/-- A command without a reader gives up at once. -/
theorem execute_error (ctx : Context) (e : ProbeError) (command : Command) :
    execute ctx (.error e) command =
      tell (openingWithoutReader ctx command) >>= fun _ => giveUp ctx e := by
  by_cases hrun : command = .run
  · rw [hrun]
    rfl
  · have hopening : openingWithoutReader ctx command =
        if ctx.json then [] else [ctx.connectingLine] := by
      cases command with
      | run => exact absurd rfl hrun
      | _ => rfl
    rw [execute_of_ne_run ctx _ hrun, hopening, connect, probed]
    simp only [bind_assoc, pure_bind]
    rfl

section Runs

variable {ctx : Context} {reader : Reader} {command : Command} {node : Node σ} {s s₁ s' : σ}
  {ending : Ending} {probed : Outcome ChainStatus} {log : List Exchange}

theorem runs_tell (ls : List Line) : Runs node s (tell ls) () [] s :=
  Runs.noteAll _

theorem runs_of_single {op : Operation} {call : Dialogue Log.Record (Outcome α)}
    {outcome : Outcome α} (h : Runs node s (single ctx op call) outcome log s') :
    Runs node s call outcome log s' :=
  ((runs_tell _).of_silent_bind h).of_mapNotes

theorem runs_giveUp (ctx : Context) (e : ProbeError) :
    Runs node s (giveUp ctx e) (.of (.error e)) [] s :=
  (runs_tell _).silent_bind (Runs.pure _)

theorem runs_conclude (ctx : Context) (functions : List String) (report : Report) :
    Runs node s (conclude ctx functions report) (.of (.ok report)) [] s :=
  (runs_tell _).silent_bind (Runs.pure _)

theorem linesOf_giveUp (ctx : Context) (e : ProbeError) :
    linesOf node s (giveUp ctx e) =
      if ctx.json then [.document (fatalDocument e)] else fatalLines e := by
  rw [giveUp, fatal, linesOf_tell_bind]
  exact List.append_nil _

theorem linesOf_conclude (ctx : Context) (functions : List String) (report : Report) :
    linesOf node s (conclude ctx functions report) = report.ending ctx functions := by
  rw [conclude, linesOf_tell_bind]
  exact List.append_nil _

/-- A command is its probe and, once connected, what it gathers for its report. -/
theorem execute_cases (hrun : Runs node s (execute ctx (.ok reader) command) ending log s') :
    exists probed probeLog restLog s₁,
      Runs node s Reader.probe probed probeLog s₁ ∧ log = probeLog ++ restLog ∧
        match probed with
        | .error e => ending = .of (.error e) ∧ restLog = []
        | .ok chain =>
            exists report, ending = .of (.ok report) ∧
              Runs node s₁ (gather ctx reader chain command) report restLog s' := by
  rw [execute_ok] at hrun
  rcases ((Runs.noteAll _).of_silent_bind hrun).of_bind with
    ⟨probed, probeLog, restLog, s₁, hprobe, hrest, rfl⟩
  refine ⟨probed, probeLog, restLog, s₁, hprobe.of_mapNotes, rfl, ?_⟩
  cases probed with
  | error e =>
      rcases (runs_giveUp ctx e).unique hrest with ⟨rfl, rfl, -⟩
      exact ⟨rfl, rfl⟩
  | ok chain =>
      rcases ((runs_tell _).of_silent_bind hrest).of_bind with
        ⟨report, reportLog, endLog, s₂, hreport, hend, rfl⟩
      rcases (runs_conclude ctx _ report).unique hend with ⟨rfl, rfl, rfl⟩
      rw [List.append_nil]
      exact ⟨report, rfl, hreport⟩

theorem runs_execute_of_error (ctx : Context) (e : ProbeError) (command : Command) :
    Runs node s (execute ctx (.error e) command) (.of (.error e)) [] s := by
  rw [execute_error]
  exact (runs_tell _).silent_bind (runs_giveUp ctx e)

theorem runs_execute_of_probe_error {e : ProbeError}
    (hprobe : Runs node s Reader.probe (.error e) log s₁) :
    Runs node s (execute ctx (.ok reader) command) (.of (.error e)) log s₁ := by
  have hlogged : Runs node s (logged Reader.probe) (.error e) log s₁ := hprobe.expandNotes
  rw [execute_ok, ← List.append_nil log]
  exact (Runs.noteAll _).silent_bind (hlogged.bind (runs_giveUp ctx e))

/-- The lines of a command: some before the probe, and those that follow from its outcome. -/
theorem linesOf_execute (hprobe : Runs node s Reader.probe probed log s₁) :
    linesOf node s (execute ctx (.ok reader) command) =
      openingLines ctx command ++ linesOf node s₁ (afterProbe ctx reader command probed) := by
  have hlogged : Runs node s (logged Reader.probe) probed log s₁ := hprobe.expandNotes
  have hopening : Program.lines (opening ctx command) = openingLines ctx command := by
    rw [opening, Program.lines_append, Program.lines_map_line]
    split
    · exact List.append_nil _
    · exact List.append_nil _
  rw [execute_ok, linesOf_bind (Runs.noteAll _), linesOf_noteAll, hopening, linesOf_bind hlogged,
    linesOf_logged, List.nil_append]

/-- Once connected, a command prints what it prints on its way, and then its report. -/
theorem linesOf_execute_ok {chain : ChainStatus} {report : Report} {probeLog : List Exchange}
    (hprobe : Runs node s Reader.probe (.ok chain) probeLog s₁)
    (h : Runs node s₁ (gather ctx reader chain command) report log s') :
    linesOf node s (execute ctx (.ok reader) command) =
      openingLines ctx command ++ (if ctx.json then [] else [chain.line]) ++
        (linesOf node s₁ (gather ctx reader chain command) ++
          report.ending ctx reader.interface.functionNames) := by
  rw [linesOf_execute hprobe, afterProbe, linesOf_tell_bind, linesOf_bind h, linesOf_conclude,
    List.append_assoc]

end Runs

end Command

/-!
# The whole program
-/

namespace Program

theorem lines_admitted (filter : Log.Filter) (printed : List Printed) :
    lines (printed.flatMap (admitted filter)) = lines printed := by
  induction printed with
  | nil => rfl
  | cons item printed ih =>
      rw [List.flatMap_cons, lines_append, ih]
      cases item with
      | line l => rfl
      | record r =>
          rw [admitted]
          split
          · rfl
          · rfl

section Settings

variable {env : String -> Option String} {files : String -> Except String String}
  {arguments : Arguments}

theorem execution_of_error {reason : String}
    (h : Program.settings arguments (arguments.config.map files) = .error reason) :
    execution env files arguments = withoutSettings reason := by
  rw [execution, h]

theorem execution_of_ok {settings : Settings}
    (h : Program.settings arguments (arguments.config.map files) = .ok settings) :
    execution env files arguments =
      withSettings (filter env arguments.verbose) arguments settings
        (build settings (settings.abiPath.map files)) := by
  rw [execution, h]

end Settings

theorem runs_withoutSettings (reason : String) (node : Node σ) (s : σ) :
    Runs node s (withoutSettings reason) 1 [] s :=
  (Runs.noteAll _).silent_bind (Runs.pure _)

theorem notes_withoutSettings (reason : String) (node : Node σ) (s : σ) :
    ((withoutSettings reason).run node s).notes = onBadSettings reason := by
  rw [withoutSettings, (Runs.noteAll _).notes_bind, notes_noteAll]
  exact List.append_nil _

section Runs

variable {filter : Log.Filter} {arguments : Arguments} {settings : Settings}
  {built : Except ProbeError (Endpoint × Reader)} {node : Node σ} {s s' : σ}
  {ending : Ending} {log : List Exchange}

theorem execute_of_dialogue
    (hrun : Runs node s (dialogue arguments settings built) ending log s') :
    Runs node s
      (Command.execute (context arguments settings) (built.map (·.2)) arguments.command) ending log
      s' :=
  ((Runs.note _).of_silent_bind hrun).of_announce

section Executed

variable (h : Runs node s
  (Command.execute (context arguments settings) (built.map (·.2)) arguments.command) ending log s')

include h

theorem runs_dialogue : Runs node s (dialogue arguments settings built) ending log s' :=
  (Runs.note _).silent_bind h.announce

/-- The program exchanges what its command exchanges, and ends with its exit code. -/
theorem runs_withSettings :
    Runs node s (withSettings filter arguments settings built) ending.code log s' :=
  (runs_dialogue h).expandNotes.map

end Executed

theorem notes_withSettings :
    ((withSettings filter arguments settings built).run node s).notes =
      ((dialogue arguments settings built).run node s).notes.flatMap (admitted filter) := by
  rw [withSettings, notes_map, notes_expandNotes]

theorem lines_dialogue :
    lines ((dialogue arguments settings built).run node s).notes =
      Command.linesOf node s
        (Command.execute (context arguments settings) (built.map (·.2)) arguments.command) := by
  have hsilent (request : Request) (n : Printed)
      (hn : n ∈ (requestRecords request).map Printed.record) : n.line? = none := by
    rcases List.mem_map.mp hn with ⟨record, -, rfl⟩
    rfl
  exact filterMap_notes_announce hsilent _

/-- The lines that the program prints are those of its command; log records add none. -/
theorem lines_withSettings :
    lines ((withSettings filter arguments settings built).run node s).notes =
      Command.linesOf node s
        (Command.execute (context arguments settings) (built.map (·.2)) arguments.command) := by
  rw [notes_withSettings, lines_admitted, lines_dialogue]

end Runs

/-!
# From the arguments to the exit code
-/

section Execution

variable {env : String -> Option String} {files : String -> Except String String}
  {arguments : Arguments} {node : Node σ} {s s' : σ} {ending : Ending}
  {log : List Exchange}

/-- Without settings nothing is exchanged. -/
theorem runs_execution_of_error {reason : String}
    (h : Program.settings arguments (arguments.config.map files) = .error reason) :
    Runs node s (execution env files arguments) 1 [] s := by
  rw [execution_of_error h]
  exact runs_withoutSettings reason node s

/-- With settings a run exchanges what its command exchanges, and ends with its exit code. -/
theorem runs_execution {settings : Settings}
    (h : Program.settings arguments (arguments.config.map files) = .ok settings)
    (hrun : Runs node s
      (Command.execute (context arguments settings)
        ((build settings (settings.abiPath.map files)).map (·.2)) arguments.command)
      ending log s') :
    Runs node s (execution env files arguments) ending.code log s' := by
  rw [execution_of_ok h]
  exact runs_withSettings hrun

end Execution

end Program

end FixtureProbe
