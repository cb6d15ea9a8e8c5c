import FixtureProbe.Proofs.Command.Startup

/-!
# Exit codes

A program that has accepted its arguments ends with one of three exit codes. The code one means that
it never got as far as its command: its settings, its reader or its connection failed, and that is
the last thing it tells. The code two means that it was connected, that its command looks up a
single thing, and that this lookup failed. In all other cases the code is zero, whatever else failed
on the way.
-/

namespace FixtureProbe

open Dialogue
open Terminal (Line)

variable {α σ : Type}

/-!
# Lookups
-/

theorem Dialogue.Runs.isFailure_iff {ω : Type} {d : Dialogue ω (Outcome α)} {node : Node σ}
    {s s' : σ} {outcome : Outcome α} {log : List Exchange} (h : Runs node s d outcome log s') :
    Outcome.isFailure outcome = true ↔ exists e log t, Runs node s d (.error e) log t := by
  constructor
  · intro hfailure
    cases outcome with
    | ok a => cases hfailure
    | error e => exact ⟨e, log, s', h⟩
  · rintro ⟨e, log', t, herror⟩
    rcases h.unique herror with ⟨rfl, -, -⟩
    rfl

/-- A probe asks for the block number and, if it gets one, for the chain. -/
theorem Reader.requests_of_probe {node : Node σ} {s s' : σ} {outcome : Outcome ChainStatus}
    {log : List Exchange} (hprobe : Runs node s Reader.probe outcome log s') :
    log.map Exchange.request <+: [.blockNumber, .chainId] := by
  have hprobed := Reader.probe_runs hprobe
  split at hprobed
  · exact ⟨[.chainId], congrArg (· ++ [.chainId]) hprobed.2⟩
  · exact ⟨[], (List.append_nil _).trans hprobed.2⟩
  · exact ⟨[], (List.append_nil _).trans hprobed.2.1⟩

/-- Whether a report is about a single thing that was looked up. -/
def Report.isLookup : Report -> Bool
  | .account .. | .unfinished .. | .fixture .. | .league .. | .team .. => true
  | _ => false

theorem Report.isFailure_of_not_isLookup {report : Report} (h : report.isLookup = false) :
    report.isFailure = false := by
  cases report with
  | account => cases h
  | unfinished => cases h
  | fixture => cases h
  | league => cases h
  | team => cases h
  | _ => rfl

namespace Command

/-- Whether a command looks up a single thing. -/
def isLookup : Command -> Bool
  | .debug | .unfinished | .fixture _ | .league _ | .team _ => true
  | _ => false

/-- A report of the kind that a command gives. -/
inductive Answered : Command -> Report -> Prop where
  | run (report : SuiteReport) : Answered .run (.suite report)
  | probe (chain : ChainStatus) : Answered .probe (.chain chain)
  | debug (chain : ChainStatus) (result : Outcome AccountInfo) :
      Answered .debug (.account chain result)
  | unfinished (chain : ChainStatus) (result : Outcome (List UInt64)) :
      Answered .unfinished (.unfinished chain result)
  | fixture (id : Option UInt64) (chain : ChainStatus) (result : Outcome Match) :
      Answered (.fixture id) (.fixture chain result)
  | league (id : Option UInt64) (chain : ChainStatus) (result : Outcome League) :
      Answered (.league id) (.league chain result)
  | team (id : Option UInt64) (chain : ChainStatus) (result : Outcome Team) :
      Answered (.team id) (.team chain result)
  | gas (results : List (OperationResult UInt64)) : Answered .gas (.gas results)
  | raw (results : List (OperationResult RawCall)) : Answered .raw (.rawCalls results)
  | bench (reports : List LatencyReport) : Answered .bench (.latency reports)
  | cross (ids : List UInt64) (report : CrossReference) :
      Answered (.cross ids) (.crossReference report)

/-- The commands that look up a single thing are those that report on one. -/
theorem Answered.isLookup {command : Command} {report : Report} (h : command.Answered report) :
    report.isLookup = command.isLookup := by
  cases h with
  | _ => rfl

/-!
# Ids of lookups
-/

section Ids

variable (reader : Reader) (node : Node σ) (s : σ)

/-- The current ids as discovery leaves them, and the state of the node after it. -/
inductive Discovers : Defaults -> σ -> Prop where
  | intro {discovery : Outcome (List UInt64)} {log : List Exchange} {s' : σ}
      (h : Runs node s reader.readUnfinished discovery log s') :
      Discovers (Defaults.initial.withDiscovery (discovery.toOption.getD [])) s'

/-- The current ids as the current match leaves them, which follows on discovery. -/
inductive Refines : Defaults -> σ -> Prop where
  | intro {found refined : Defaults} {fixture : Outcome Match} {log : List Exchange} {s₁ s' : σ}
      (hfound : Discovers reader node s found s₁)
      (h : Runs node s₁ (Survey.readCurrentMatch reader found) (fixture, refined) log s') :
      Refines refined s'

end Ids

/-- The id of a lookup: the given one, or one of the ids that are found out. -/
inductive Picks (Finds : Defaults -> σ -> Prop) (field : Defaults -> UInt64) (s : σ) :
    Option UInt64 -> UInt64 -> σ -> Prop where
  | given (id : UInt64) : Picks Finds field s (some id) id s
  | found {ids : Defaults} {s' : σ} (h : Finds ids s') : Picks Finds field s none (field ids) s'

section Ids

variable {ctx : Context} {reader : Reader} {node : Node σ} {s s' : σ} {ids : Defaults}

theorem discovers_iff :
    Discovers reader node s ids s' ↔ exists log, Runs node s (discover ctx reader) ids log s' := by
  have hruns {discovery : Outcome (List UInt64)} {log : List Exchange} {s' : σ}
      (h : Runs node s reader.readUnfinished discovery log s') :
      Runs node s (discover ctx reader)
        (Defaults.initial.withDiscovery (discovery.toOption.getD [])) log s' := by
    have hlogged : Runs node s (logged reader.readUnfinished) discovery log s' := h.expandNotes
    rw [← List.append_nil log]
    apply hlogged.bind
    cases discovery with
    | ok ids => exact (runs_tell _).silent_bind (Runs.pure _)
    | error e => exact (runs_tell _).silent_bind (Runs.pure _)
  constructor
  · rintro ⟨h⟩
    exact ⟨_, hruns h⟩
  · rintro ⟨log, h⟩
    rcases h.unique (hruns (Runs.self node s reader.readUnfinished)) with ⟨rfl, -, rfl⟩
    exact ⟨Runs.self node s reader.readUnfinished⟩

theorem refines_iff :
    Refines reader node s ids s' ↔ exists log, Runs node s (resolve ctx reader) ids log s' := by
  constructor
  · rintro ⟨hfound, h⟩
    rcases discovers_iff.mp hfound with ⟨log, hdiscover⟩
    have hlogged := h.expandNotes (g := fun record => [Printed.record record])
    exact ⟨_, hdiscover.bind (hlogged.bind ((runs_tell _).silent_bind (Runs.pure _)))⟩
  · rintro ⟨log, h⟩
    rcases h.of_bind with ⟨found, first, rest, s₁, hdiscover, hrest, -⟩
    rcases hrest.of_bind with ⟨⟨fixture, refined⟩, second, last, s₂, hread, hlast, -⟩
    rcases ((runs_tell _).of_silent_bind hlast).of_pure with ⟨rfl, -, rfl⟩
    exact ⟨discovers_iff.mpr ⟨_, hdiscover⟩, hread.of_mapNotes⟩

theorem picks_iff {find : Dialogue Printed Defaults} {Finds : Defaults -> σ -> Prop}
    (hfind : forall {ids : Defaults} {s' : σ},
      Finds ids s' ↔ exists log, Runs node s find ids log s')
    {field : Defaults -> UInt64} {given : Option UInt64} {id : UInt64} :
    Picks Finds field s given id s' ↔
      exists log, Runs node s (idOr given (field <$> find)) id log s' := by
  constructor
  · intro h
    cases h with
    | given id => exact ⟨_, Runs.pure _⟩
    | found h =>
        rcases hfind.mp h with ⟨log, hruns⟩
        exact ⟨log, hruns.map⟩
  · rintro ⟨log, h⟩
    cases given with
    | some id =>
        rcases h.of_pure with ⟨rfl, -, rfl⟩
        exact .given _
    | none =>
        rcases Runs.of_map (d := find) h with ⟨ids, hruns, rfl⟩
        exact .found (hfind.mpr ⟨log, hruns⟩)

end Ids

/-!
# Lookups that fail
-/

/-- The lookup of a connected command fails. An id that is not given is found out before, and
whether that succeeds makes no difference. -/
inductive LookupFails (reader : Reader) (node : Node σ) (s : σ) : Command -> Prop where
  | debug {e : ProbeError} {log : List Exchange} {s' : σ}
      (h : Runs node s reader.accountInfo (.error e) log s') : LookupFails reader node s .debug
  | unfinished {e : ProbeError} {log : List Exchange} {s' : σ}
      (h : Runs node s reader.readUnfinished (.error e) log s') :
      LookupFails reader node s .unfinished
  | fixture {given : Option UInt64} {id : UInt64} {e : ProbeError} {log : List Exchange} {s₁ s' : σ}
      (hid : Picks (Discovers reader node s) (·.matchId) s given id s₁)
      (h : Runs node s₁ (reader.readMatch id) (.error e) log s') :
      LookupFails reader node s (.fixture given)
  | league {given : Option UInt64} {id : UInt64} {e : ProbeError} {log : List Exchange} {s₁ s' : σ}
      (hid : Picks (Refines reader node s) (·.leagueId) s given id s₁)
      (h : Runs node s₁ (reader.readLeague id) (.error e) log s') :
      LookupFails reader node s (.league given)
  | team {given : Option UInt64} {id : UInt64} {e : ProbeError} {log : List Exchange} {s₁ s' : σ}
      (hid : Picks (Refines reader node s) (·.teamId) s given id s₁)
      (h : Runs node s₁ (reader.readTeam id) (.error e) log s') :
      LookupFails reader node s (.team given)

section Runs

variable {ctx : Context} {reader : Reader} {chain : ChainStatus} {command : Command}
  {node : Node σ} {s s' : σ} {report : Report} {outcome : Outcome α} {log : List Exchange}

theorem LookupFails.isLookup (h : LookupFails reader node s command) :
    command.isLookup = true := by
  cases h with
  | debug => rfl
  | unfinished => rfl
  | fixture => rfl
  | league => rfl
  | team => rfl

/-- A lookup of an id that is given or found out fails exactly if the id is such that it does. -/
theorem isFailure_single_iff {find : Dialogue Printed UInt64} {Finds : UInt64 -> σ -> Prop}
    (hfind : forall {id : UInt64} {s' : σ},
      Finds id s' ↔ exists log, Runs node s find id log s')
    {op : UInt64 -> Operation} {call : UInt64 -> Dialogue Log.Record (Outcome α)} {id : UInt64}
    {idLog callLog : List Exchange} {s₁ : σ} (hid : Runs node s find id idLog s₁)
    (hcall : Runs node s₁ (single ctx (op id) (call id)) outcome callLog s') :
    Outcome.isFailure outcome = true ↔
      exists id s₁ e log t, Finds id s₁ ∧ Runs node s₁ (call id) (.error e) log t := by
  rw [(runs_of_single hcall).isFailure_iff]
  constructor
  · rintro ⟨e, log, t, herror⟩
    exact ⟨id, s₁, e, log, t, hfind.mpr ⟨_, hid⟩, herror⟩
  · rintro ⟨id', s₁', e, log, t, hid', herror⟩
    rcases hfind.mp hid' with ⟨idLog', hid'⟩
    rcases hid.unique hid' with ⟨rfl, -, rfl⟩
    exact ⟨e, log, t, herror⟩

theorem gather_gives_answered (ctx : Context) (reader : Reader) (chain : ChainStatus)
    (command : Command) : (gather ctx reader chain command).Gives command.Answered := by
  cases command with
  | run =>
      change (Report.suite <$> (_ : Dialogue Printed SuiteReport)).Gives _
      rw [← bind_pure_comp]
      exact .of_rest fun report => .pure (.run report)
  | probe => exact .pure (.probe chain)
  | debug => exact .of_rest fun _ => .of_rest fun _ => .pure (.debug _ _)
  | unfinished => exact .of_rest fun _ => .pure (.unfinished _ _)
  | fixture id => exact .of_rest fun _ => .of_rest fun _ => .pure (.fixture _ _ _)
  | league id => exact .of_rest fun _ => .of_rest fun _ => .pure (.league _ _ _)
  | team id => exact .of_rest fun _ => .of_rest fun _ => .pure (.team _ _ _)
  | gas => exact .of_rest fun _ => .of_rest fun _ => .pure (.gas _)
  | raw => exact .of_rest fun _ => .of_rest fun _ => .pure (.raw _)
  | bench => exact .of_rest fun _ => .of_rest fun _ => .pure (.bench _)
  | cross ids => exact .of_rest fun _ => .of_rest fun _ => .pure (.cross _ _)

theorem isFailure_iff_lookupFails
    (h : Runs node s (gather ctx reader chain command) report log s') :
    report.isFailure = true ↔ LookupFails reader node s command := by
  -- The other commands report no failure and have no lookup that could fail.
  have hother (hcommand : command.isLookup = false) :
      report.isFailure = true ↔ LookupFails reader node s command := by
    have hreport := ((gather_gives_answered ctx reader chain command).of_runs h).isLookup
    rw [Report.isFailure_of_not_isLookup (hreport.trans hcommand)]
    constructor
    · intro hfalse
      cases hfalse
    · intro hfails
      rw [hfails.isLookup] at hcommand
      cases hcommand
  cases command with
  | run => exact hother rfl
  | probe => exact hother rfl
  | gas => exact hother rfl
  | raw => exact hother rfl
  | bench => exact hother rfl
  | cross ids => exact hother rfl
  | debug =>
      rcases ((runs_tell _).of_silent_bind h).of_bind_pure with ⟨outcome, hinfo, rfl⟩
      rw [Report.isFailure, hinfo.of_mapNotes.isFailure_iff]
      constructor
      · rintro ⟨e, log, t, herror⟩
        exact .debug herror
      · intro hfails
        cases hfails with
        | debug herror => exact ⟨_, _, _, herror⟩
  | unfinished =>
      rcases h.of_bind_pure with ⟨outcome, hread, rfl⟩
      rw [Report.isFailure, (runs_of_single hread).isFailure_iff]
      constructor
      · rintro ⟨e, log, t, herror⟩
        exact .unfinished herror
      · intro hfails
        cases hfails with
        | unfinished herror => exact ⟨_, _, _, herror⟩
  | fixture id =>
      rcases h.of_bind with ⟨id, idLog, rest, s₁, hid, hrest, -⟩
      rcases hrest.of_bind_pure with ⟨outcome, hread, rfl⟩
      rw [Report.isFailure, isFailure_single_iff (picks_iff discovers_iff) hid hread]
      constructor
      · rintro ⟨id, s₁, e, log, t, hid, herror⟩
        exact .fixture hid herror
      · intro hfails
        cases hfails with
        | fixture hid herror => exact ⟨_, _, _, _, _, hid, herror⟩
  | league id =>
      rcases h.of_bind with ⟨id, idLog, rest, s₁, hid, hrest, -⟩
      rcases hrest.of_bind_pure with ⟨outcome, hread, rfl⟩
      rw [Report.isFailure, isFailure_single_iff (picks_iff refines_iff) hid hread]
      constructor
      · rintro ⟨id, s₁, e, log, t, hid, herror⟩
        exact .league hid herror
      · intro hfails
        cases hfails with
        | league hid herror => exact ⟨_, _, _, _, _, hid, herror⟩
  | team id =>
      rcases h.of_bind with ⟨id, idLog, rest, s₁, hid, hrest, -⟩
      rcases hrest.of_bind_pure with ⟨outcome, hread, rfl⟩
      rw [Report.isFailure, isFailure_single_iff (picks_iff refines_iff) hid hread]
      constructor
      · rintro ⟨id, s₁, e, log, t, hid, herror⟩
        exact .team hid herror
      · intro hfails
        cases hfails with
        | team hid herror => exact ⟨_, _, _, _, _, hid, herror⟩

end Runs

end Command

/-!
# What is printed about a fault
-/

namespace Program

/-- What a program may print before it is connected: log records, its title, and that it connects to
the URL of its settings. -/
inductive Preliminary (files : String -> Except String String) (arguments : Arguments) :
    Printed -> Prop where
  | record (record : Log.Record) : Preliminary files arguments (.record record)
  | title : Preliminary files arguments (.line (.header "Futchain Precompile Test Suite"))
  | connecting {settings : Settings} (h : Resolves files arguments settings) :
      Preliminary files arguments
        (.line (.info ("Connecting to " ++ settings.rpcUrl ++ "...")))

/-- A fault is reported once: only preliminaries come before it, and only a hint comes after it. -/
def ReportsOnce (files : String -> Except String String) (arguments : Arguments) (fault : Fault)
    (printed : List Printed) : Prop :=
  exists before,
    printed = before ++ (fault.line arguments.json :: fault.hints arguments.json).map .line ∧
    forall item, item ∈ before -> Preliminary files arguments item

section Runs

variable {env : String -> Option String} {files : String -> Except String String}
  {filter : Log.Filter} {arguments : Arguments} {settings : Settings}
  {built : Except ProbeError (Endpoint × Reader)} {node : Node σ} {s s' : σ} {fault : Fault}
  {log : List Exchange}

section Preliminaries

variable (hsettings : Resolves files arguments settings)

include hsettings

theorem preliminary_of_mem_openingLines {l : Line}
    (hl : l ∈ Command.openingLines (context arguments settings) arguments.command) :
    Preliminary files arguments (.line l) := by
  cases hcommand : arguments.command with
  | run =>
      rw [hcommand, Command.openingLines] at hl
      split at hl
      · cases hl
      · rcases List.mem_cons.mp hl with rfl | hl
        · exact .title
        · rw [List.mem_singleton.mp hl]
          exact .connecting hsettings
  | _ =>
      rw [hcommand] at hl
      change l ∈ if arguments.json then [] else _ at hl
      split at hl
      · cases hl
      · rw [List.mem_singleton.mp hl]
        exact .connecting hsettings

theorem preliminary_of_mem_openingWithoutReader {l : Line}
    (hl : l ∈ Command.openingWithoutReader (context arguments settings) arguments.command) :
    Preliminary files arguments (.line l) := by
  apply preliminary_of_mem_openingLines hsettings
  cases hcommand : arguments.command with
  | run =>
      rw [hcommand] at hl
      cases hl
  | _ =>
      rw [hcommand] at hl
      exact hl

theorem preliminary_of_mem_opening {item : Printed}
    (hitem : item ∈ Command.opening (context arguments settings) arguments.command) :
    Preliminary files arguments item := by
  rcases List.mem_append.mp hitem with hitem | hitem
  · rcases List.mem_map.mp hitem with ⟨l, hl, rfl⟩
    exact preliminary_of_mem_openingLines hsettings hl
  · split at hitem
    · rw [List.mem_singleton.mp hitem]
      exact .record _
    · cases hitem

end Preliminaries

theorem fatal_eq (ctx : Context) (e : ProbeError) :
    (if ctx.json then [.document (fatalDocument e)] else fatalLines e) =
      (Fault.error e).line ctx.json :: (Fault.error e).hints ctx.json := by
  rcases ctx with ⟨settings, json⟩
  cases json with
  | true =>
      cases e with
      | _ => rfl
  | false =>
      cases e with
      | _ => rfl

theorem notes_announce_giveUp (ctx : Context) (e : ProbeError) (g : Request -> List Printed)
    (node : Node σ) (s : σ) :
    (((Command.giveUp ctx e).announce g).run node s).notes =
      ((Fault.error e).line ctx.json :: (Fault.error e).hints ctx.json).map .line := by
  rw [Command.giveUp, announce_bind, Command.fatal, Command.tell, announce_noteAll,
    (Runs.noteAll _).notes_bind, notes_noteAll, fatal_eq]
  exact List.append_nil _

/-- A command that gives up reports why, behind what it has printed before. -/
theorem reportsOnce_of_giveUp {e : ProbeError} {before : Dialogue Printed α}
    {rest : α -> Dialogue Printed Ending} {a : α} {t : σ}
    (hcommand : Command.execute (context arguments settings) (built.map (·.2)) arguments.command =
      before >>= rest)
    (hbefore : Runs node s before a log t)
    (hrest : rest a = Command.giveUp (context arguments settings) e)
    (hpreliminary : forall item, item ∈ (before.run node s).notes ->
      Preliminary files arguments item) :
    ReportsOnce files arguments (.error e)
      ((withSettings filter arguments settings built).run node s).notes := by
  have hadmitted (ls : List Line) :
      (ls.map Printed.line).flatMap (admitted filter) = ls.map Printed.line := by
    rw [List.flatMap_map, List.map_eq_flatMap]
    rfl
  rw [notes_withSettings, dialogue, hcommand, announce_bind, notes_note_bind,
    hbefore.announce.notes_bind, hrest, notes_announce_giveUp, ← List.cons_append,
    List.flatMap_append, hadmitted]
  refine ⟨_, rfl, ?_⟩
  intro item hitem
  rcases List.mem_flatMap.mp hitem with ⟨n, hn, hitem⟩
  have hsame : item = n := by
    cases n with
    | line l => exact List.mem_singleton.mp hitem
    | record r =>
        rw [admitted] at hitem
        split at hitem
        · exact List.mem_singleton.mp hitem
        · cases hitem
  rw [hsame]
  rcases List.mem_cons.mp hn with rfl | hn
  · exact .record _
  · rcases mem_notes_announce hn with ⟨request, hrecord⟩ | hn
    · rcases List.mem_map.mp hrecord with ⟨record, -, rfl⟩
      exact .record record
    · exact hpreliminary n hn

theorem reportsOnce_of_misconfigured (h : Misconfigured files arguments fault) :
    ReportsOnce files arguments fault ((execution env files arguments).run node s).notes := by
  cases h with
  | settings h =>
      rw [execution_of_error (settings_of_unresolved h), notes_withoutSettings]
      exact ⟨[], rfl, fun item hitem => nomatch hitem⟩
  | reader hsettings h =>
      rw [execution_of_ok (settings_of_resolves hsettings), build_of_unbuilt h]
      apply reportsOnce_of_giveUp (Command.execute_error _ _ _) (Command.runs_tell _) rfl
      intro item hitem
      rw [Command.tell, notes_noteAll] at hitem
      rcases List.mem_map.mp hitem with ⟨l, hl, rfl⟩
      exact preliminary_of_mem_openingWithoutReader hsettings hl

theorem reportsOnce_of_refused (h : Refused files arguments node s fault) :
    ReportsOnce files arguments fault ((execution env files arguments).run node s).notes := by
  cases h with
  | @probe settings endpoint reader e log s' hsettings hbuilds hprobe =>
      have hlogged : Runs node s (Command.logged Reader.probe) (.error e) log s' :=
        hprobe.expandNotes
      have hbefore : Runs node s
          (noteAll (Command.opening (context arguments settings) arguments.command) >>= fun _ =>
            Command.logged Reader.probe) (.error e) log s' :=
        (Runs.noteAll _).silent_bind hlogged
      rw [execution_of_ok (settings_of_resolves hsettings), build_of_builds hbuilds]
      apply reportsOnce_of_giveUp ((Command.execute_ok _ reader _).trans (bind_assoc _ _ _).symm)
        hbefore rfl
      intro item hitem
      rw [(Runs.noteAll _).notes_bind, notes_noteAll, Command.logged, notes_mapNotes] at hitem
      rcases List.mem_append.mp hitem with hitem | hitem
      · exact preliminary_of_mem_opening hsettings hitem
      · rcases List.mem_map.mp hitem with ⟨record, -, rfl⟩
        exact .record record

/-!
# Runs of the program
-/

theorem runs_of_refused (h : Refused files arguments node s fault) :
    exists log s', Runs node s (execution env files arguments) 1 log s' ∧
      log.map Exchange.request <+: [.blockNumber, .chainId] := by
  cases h with
  | probe hsettings hbuilds hprobe =>
      have hrun : Runs node s (execution env files arguments) 1 _ _ :=
        runs_execution_of_builds hsettings hbuilds (Command.runs_execute_of_probe_error hprobe)
      exact ⟨_, _, hrun, Reader.requests_of_probe hprobe⟩

theorem runs_of_connects {reader : Reader} {s₁ : σ}
    (h : Connects files arguments node s reader s₁) :
    exists report log s', Runs node s (execution env files arguments) (exitCode (.ok report)) log s' ∧
      (report.isFailure = true ↔ arguments.command.LookupFails reader node s₁) := by
  cases h with
  | @probe settings endpoint _ chain _ _ hsettings hbuilds hprobe =>
      have hrun := Runs.self node s
        (Command.execute (context arguments settings) (.ok reader) arguments.command)
      rcases Command.execute_cases hrun with ⟨probed, probeLog, restLog, s₂, hprobed, -, hrest⟩
      rcases hprobe.unique hprobed with ⟨rfl, -, rfl⟩
      rcases hrest with ⟨report, hvalue, hgather⟩
      rw [hvalue] at hrun
      exact ⟨report, _, _, runs_execution_of_builds hsettings hbuilds hrun,
        Command.isFailure_iff_lookupFails hgather⟩

end Runs

/-!
# Exit codes
-/

/-- With which exit code a program ends, and why. -/
inductive Ends (files : String -> Except String String) (arguments : Arguments) (node : Node σ)
    (s : σ) : UInt8 -> Prop where
  /-- The settings or the reader are at fault. -/
  | misconfigured {fault : Fault} (h : Misconfigured files arguments fault) :
      Ends files arguments node s 1
  /-- The connection is at fault. -/
  | refused {fault : Fault} (h : Refused files arguments node s fault) :
      Ends files arguments node s 1
  /-- The lookup that the command is about fails. -/
  | missed {reader : Reader} {s₁ : σ} (h : Connects files arguments node s reader s₁)
      (hfails : arguments.command.LookupFails reader node s₁) : Ends files arguments node s 2
  /-- The command is connected, and it is about no lookup that fails. -/
  | done {reader : Reader} {s₁ : σ} (h : Connects files arguments node s reader s₁)
      (hfails : ¬ arguments.command.LookupFails reader node s₁) : Ends files arguments node s 0

section Ends

variable {env : String -> Option String} {files : String -> Except String String}
  {arguments : Arguments} {node : Node σ} {s : σ} {code : UInt8}

theorem value_of_ends (h : Ends files arguments node s code) :
    ((execution env files arguments).run node s).value = code := by
  have hcode (report : Report) :
      exitCode (.ok report) = if report.isFailure = true then 2 else 0 := rfl
  cases h with
  | misconfigured h => exact (runs_execution_of_misconfigured h).value
  | refused h =>
      rcases runs_of_refused h with ⟨log, s', hrun, -⟩
      exact hrun.value
  | missed h hfails =>
      rcases runs_of_connects h with ⟨report, log, s', hrun, hfailure⟩
      rw [hrun.value, hcode, if_pos (hfailure.mpr hfails)]
  | done h hfails =>
      rcases runs_of_connects h with ⟨report, log, s', hrun, hfailure⟩
      rw [hrun.value, hcode, if_neg (fun htrue => hfails (hfailure.mp htrue))]

theorem exists_ends (files : String -> Except String String) (arguments : Arguments)
    (node : Node σ) (s : σ) : exists code, Ends files arguments node s code := by
  rcases start_cases files arguments node s with ⟨fault, h⟩ | ⟨fault, h⟩ | ⟨reader, s₁, h⟩
  · exact ⟨1, .misconfigured h⟩
  · exact ⟨1, .refused h⟩
  · by_cases hfails : arguments.command.LookupFails reader node s₁
    · exact ⟨2, .missed h hfails⟩
    · exact ⟨0, .done h hfails⟩

theorem value_eq_iff_ends :
    ((execution env files arguments).run node s).value = code ↔
      Ends files arguments node s code := by
  constructor
  · rintro rfl
    rcases exists_ends files arguments node s with ⟨code, h⟩
    rw [value_of_ends h]
    exact h
  · exact value_of_ends

end Ends

/-- The exit code is one exactly if the settings, the reader or the connection are at fault; then at
most the probe has asked, and the fault is reported once with nothing but a hint behind it. It is two
exactly if the command looks up a single thing and fails to. In every other case it is zero. -/
theorem execution_exitCode (env : String -> Option String) (files : String -> Except String String)
    (arguments : Arguments) (node : Node σ) (s : σ) :
    let run := (execution env files arguments).run node s
    (forall code, run.value = code ↔ Ends files arguments node s code) ∧
      (run.value = 2 -> arguments.command.isLookup = true) ∧
      forall fault,
        (Misconfigured files arguments fault ->
          run.requests = [] ∧ ReportsOnce files arguments fault run.notes) ∧
        (Refused files arguments node s fault ->
          run.requests <+: [.blockNumber, .chainId] ∧
            ReportsOnce files arguments fault run.notes) := by
  intro run
  refine ⟨fun code => value_eq_iff_ends, ?_, ?_⟩
  · intro htwo
    cases value_eq_iff_ends.mp htwo with
    | missed h hfails => exact hfails.isLookup
  · intro fault
    constructor
    · intro h
      exact ⟨(runs_execution_of_misconfigured h).requests, reportsOnce_of_misconfigured h⟩
    · intro h
      refine ⟨?_, reportsOnce_of_refused h⟩
      rcases runs_of_refused h with ⟨log, s', hrun, hrequests⟩
      rw [hrun.requests]
      exact hrequests

theorem execution_exitCode_flaky :
    let missing : String -> Except String String := fun _ => .error "No such file (os error 2)"
    let arguments := Arguments.loopback false .debug
    let run := fun (arguments : Arguments) (s : Nat) =>
      (execution (fun _ => none) missing arguments).run Node.flaky s
    let unreadable : Fault := .settings "Cannot read config probe.toml: No such file (os error 2)"
    let refused : Fault := .error (.connectivity "busy")
    ((run arguments 0).value = 2 ∧ arguments.command.isLookup = true) ∧
      (Misconfigured missing { arguments with config := some "probe.toml" } unreadable ∧
        (run { arguments with config := some "probe.toml" } 0).requests = [] ∧
        ReportsOnce missing { arguments with config := some "probe.toml" } unreadable
          (run { arguments with config := some "probe.toml" } 0).notes) ∧
      (Refused missing arguments Node.flaky 1 refused ∧
        (run arguments 1).requests <+: [.blockNumber, .chainId] ∧
        ReportsOnce missing arguments refused (run arguments 1).notes) := by
  intro missing arguments run unreadable refused
  let reader : Reader := ⟨.embedded, .precompile⟩
  have hsettings : Resolves missing arguments loopbackSettings := resolves_loopback _ _ _
  have hprobed : Runs Node.flaky 0 Reader.probe (.ok ⟨31337, 1⟩) _ 2 := Runs.self _ _ _
  have hconnects : Connects missing arguments Node.flaky 0 reader 2 :=
    .probe hsettings (builds_loopback _) hprobed
  have hmissed : arguments.command.LookupFails reader Node.flaky 2 :=
    .debug (e := .lookup "eth_getCode" none "busy") (Runs.self _ _ _)
  have hunresolved : Unresolved missing { arguments with config := some "probe.toml" }
      ("Cannot read config " ++ "probe.toml" ++ ": " ++ "No such file (os error 2)") :=
    .unreadable rfl rfl
  have hmisconfigured :
      Misconfigured missing { arguments with config := some "probe.toml" } unreadable :=
    .settings hunresolved
  have hrefused : Refused missing arguments Node.flaky 1 refused :=
    .probe hsettings (builds_loopback _) (Runs.self _ _ _)
  have hvalue : (run arguments 0).value = 2 := value_of_ends (.missed hconnects hmissed)
  have h := execution_exitCode (fun _ => none) missing arguments Node.flaky
  have hunread := execution_exitCode (fun _ => none) missing
    { arguments with config := some "probe.toml" } Node.flaky 0
  exact ⟨⟨hvalue, (h 0).2.1 hvalue⟩,
    ⟨hmisconfigured, (hunread.2.2 unreadable).1 hmisconfigured⟩,
    ⟨hrefused, ((h 1).2.2 refused).2 hrefused⟩⟩

end Program

end FixtureProbe
