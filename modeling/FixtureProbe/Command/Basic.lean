import FixtureProbe.Command.Output

/-!
# Commands

A command asks the node, prints as it goes, and ends with an exit code. Wherever it prints it looks
for whom: a person is told of every step, and a program gets one document at the end.
-/

namespace FixtureProbe

open Terminal (Line)

inductive Command where
  | run
  | probe
  | debug
  | unfinished
  | fixture (id : Option UInt64)
  | league (id : Option UInt64)
  | team (id : Option UInt64)
  | gas
  | raw
  | bench
  | cross (ids : List UInt64)
  deriving DecidableEq

inductive Printed where
  | line (line : Line)
  | record (record : Log.Record)

inductive Report where
  | chain (chain : ChainStatus)
  | account (chain : ChainStatus) (result : Outcome AccountInfo)
  | unfinished (chain : ChainStatus) (result : Outcome (List UInt64))
  | fixture (chain : ChainStatus) (result : Outcome Match)
  | league (chain : ChainStatus) (result : Outcome League)
  | team (chain : ChainStatus) (result : Outcome Team)
  | gas (results : List (OperationResult UInt64))
  | rawCalls (results : List (OperationResult RawCall))
  | latency (reports : List LatencyReport)
  | crossReference (report : CrossReference)
  | suite (report : SuiteReport)

structure Ending where
  code : UInt8
  outcome : Outcome Report

def exitFatal : UInt8 := 1

def exitLookupFailed : UInt8 := 2

namespace Command

/-!
# Preparations
-/

def tell (lines : List Line) : Dialogue Printed Unit :=
  Dialogue.noteAll (lines.map .line)

def logged (dialogue : Dialogue Log.Record α) : Dialogue Printed α :=
  dialogue.mapNotes .record

def fatal (ctx : Context) (e : ProbeError) : Dialogue Printed Unit :=
  tell (if ctx.json then [.document (fatalDocument e)] else fatalLines e)

def probed : (reader : Except ProbeError Reader) ->
    Dialogue Printed (Outcome (Reader × ChainStatus))
  | .ok reader => do return (← logged Reader.probe).map fun chain => (reader, chain)
  | .error e => return .error e

def connect (ctx : Context) (reader : Except ProbeError Reader) :
    Dialogue Printed (Outcome (Reader × ChainStatus)) := do
  tell (if ctx.json then [] else [ctx.connectingLine])
  match ← probed reader with
  | .ok (reader, chain) =>
      tell (if ctx.json then [] else [chain.line])
      return .ok (reader, chain)
  | .error e =>
      fatal ctx e
      return .error e

def discover (ctx : Context) (reader : Reader) : Dialogue Printed Defaults := do
  match ← logged reader.readUnfinished with
  | .ok ids =>
      let defaults := Defaults.initial.withDiscovery ids
      tell (if !ctx.json && !ids.isEmpty then [usingMatchLine defaults.matchId] else [])
      return defaults
  | .error e =>
      tell (if ctx.json then []
        else [.failure .warning "Discovery failed, using default ids: " e.message])
      return .initial

def resolve (ctx : Context) (reader : Reader) : Dialogue Printed Defaults := do
  let (current, defaults) ← logged (Survey.readCurrentMatch reader (← discover ctx reader))
  tell (if ctx.json then [] else match current with
    | .ok _ => [usingEntitiesLine defaults]
    | .error e => [.failure .warning "Current match unavailable: " e.message])
  return defaults

def idOr (id : Option UInt64) (otherwise : Dialogue Printed UInt64) : Dialogue Printed UInt64 :=
  match id with
  | some id => return id
  | none => otherwise

/-!
# Commands for one thing
-/

def report (ctx : Context) (chain : ChainStatus) (data : α -> Json) (human : α -> List Line)
    (found : Outcome α -> Report) (result : Outcome α) : Dialogue Printed Ending := do
  tell (if ctx.json then [.document (envelope chain data result)] else Outcome.lines human result)
  return ⟨if Outcome.isFailure result then exitLookupFailed else 0, .ok (found result)⟩

def single (ctx : Context) (op : Operation) (call : Dialogue Log.Record (Outcome α)) :
    Dialogue Printed (Outcome α) := do
  tell (if ctx.json then [] else [.header op.text])
  logged call

def unfinishedMatches (ctx : Context) (reader : Reader) (chain : ChainStatus) :
    Dialogue Printed Ending := do
  let result ← single ctx .getUnfinishedMatches reader.readUnfinished
  report ctx chain idsJson idsLines (.unfinished chain) result

def readMatch (ctx : Context) (reader : Reader) (chain : ChainStatus) (id : Option UInt64) :
    Dialogue Printed Ending := do
  let id ← idOr id ((·.matchId) <$> discover ctx reader)
  let result ← single ctx (.getMatch id) (reader.readMatch id)
  report ctx chain Match.json Match.lines (.fixture chain) result

def readLeague (ctx : Context) (reader : Reader) (chain : ChainStatus) (id : Option UInt64) :
    Dialogue Printed Ending := do
  let id ← idOr id ((·.leagueId) <$> resolve ctx reader)
  let result ← single ctx (.getLeague id) (reader.readLeague id)
  report ctx chain League.json League.lines (.league chain) result

def readTeam (ctx : Context) (reader : Reader) (chain : ChainStatus) (id : Option UInt64) :
    Dialogue Printed Ending := do
  let id ← idOr id ((·.teamId) <$> resolve ctx reader)
  let result ← single ctx (.getTeam id) (reader.readTeam id)
  report ctx chain Team.json Team.lines (.team chain) result

/-- Looks at the account; a person is told what is known without asking before it is asked for. -/
def inspect (ctx : Context) (reader : Reader) (chain : ChainStatus) : Dialogue Printed Ending := do
  let functions := reader.interface.functionNames
  tell (if ctx.json then []
    else Phase.debugInfo.withHeading [addressLine reader.address, ctx.urlLine, namesLine functions])
  let result ← logged reader.accountInfo
  if ctx.json then
    report ctx chain (ctx.accountData functions) (fun _ => []) (.account chain) result
  else
    match result with
    | .ok info =>
        tell info.lines
        return ⟨0, .ok (.account chain result)⟩
    | .error e =>
        tell [.failure .warning "Address check failed: " e.message]
        return ⟨exitLookupFailed, .ok (.account chain result)⟩

/-!
# Commands for several things
-/

def estimateGas (ctx : Context) (reader : Reader) : Dialogue Printed Ending := do
  let estimates ← logged (Survey.gas reader (← resolve ctx reader))
  tell (if ctx.json then [.document (Json.list (OperationResult.json .uint64) estimates)]
    else Phase.gasEstimation.withHeading (gasLines estimates))
  return ⟨0, .ok (.gas estimates)⟩

def callRaw (ctx : Context) (reader : Reader) : Dialogue Printed Ending := do
  let calls ← logged (Survey.rawCalls reader (← resolve ctx reader))
  tell (if ctx.json then [.document (Json.list (OperationResult.json RawCall.json) calls)]
    else Phase.rawCalls.withHeading (rawCallsLines calls))
  return ⟨0, .ok (.rawCalls calls)⟩

def measure (ctx : Context) (reader : Reader) : Dialogue Printed Ending := do
  let reports ← logged (Survey.latency reader (← resolve ctx reader) ctx.settings.iterations)
  tell (if ctx.json then [.document (Json.list LatencyReport.json reports)]
    else Phase.latency.withHeading (latencyLines reports))
  return ⟨0, .ok (.latency reports)⟩

def discovered (ctx : Context) (reader : Reader) : Dialogue Printed (List UInt64) := do
  match ← logged reader.readUnfinished with
  | .ok ids => return ids
  | .error e =>
      tell (if ctx.json then [] else [.failure .warning "Discovery failed: " e.message])
      return []

/-- The matches that are walked: the given ones, or the first ones discovered. -/
def walkedIds (ctx : Context) (reader : Reader) (ids : List UInt64) :
    Dialogue Printed (List UInt64) := do
  if ids.isEmpty then
    return Walk.workingSet (← discovered ctx reader) Walk.defaultSize
  else return ids

def follow (ctx : Context) (reader : Reader) (ids : List UInt64) : Dialogue Printed Ending := do
  let report ← logged (Walk.run reader (← walkedIds ctx reader ids))
  tell (if ctx.json then [.document report.json]
    else Phase.crossReference.withHeading report.lines)
  return ⟨0, .ok (.crossReference report)⟩

/-!
# The full run
-/

/-- All phases: a program has nobody observe them, and a person is told of each as it goes. -/
def observedRun (ctx : Context) (reader : Reader) : Dialogue Printed (Outcome SuiteReport) :=
  let options : SuiteOptions := { iterations := ctx.settings.iterations }
  if ctx.json then logged (Suite.quiet reader options)
  else do
    tell [titleLine, ctx.connectingLine]
    let functions := reader.interface.functionNames
    Suite.observed .record (fun event => (ctx.eventLines functions event).map .line) reader options

def fullRun (ctx : Context) (reader : Except ProbeError Reader) : Dialogue Printed Ending := do
  match reader with
  | .error e =>
      fatal ctx e
      return ⟨exitFatal, .error e⟩
  | .ok reader =>
      match ← observedRun ctx reader with
      | .error e =>
          fatal ctx e
          return ⟨exitFatal, .error e⟩
      | .ok report =>
          tell (if ctx.json then [.document report.json]
            else [.blank, completedLine report.failures])
          return ⟨0, .ok (.suite report)⟩

/-!
# All commands
-/

/-- What a command does once it is connected; the full run connects on its own. -/
def afterConnect (ctx : Context) (reader : Reader) (chain : ChainStatus) :
    Command -> Dialogue Printed Ending
  | .run | .probe => do
      tell (if ctx.json then [.document chain.json] else [])
      return ⟨0, .ok (.chain chain)⟩
  | .debug => inspect ctx reader chain
  | .unfinished => unfinishedMatches ctx reader chain
  | .fixture id => readMatch ctx reader chain id
  | .league id => readLeague ctx reader chain id
  | .team id => readTeam ctx reader chain id
  | .gas => estimateGas ctx reader
  | .raw => callRaw ctx reader
  | .bench => measure ctx reader
  | .cross ids => follow ctx reader ids

def execute (ctx : Context) (reader : Except ProbeError Reader) :
    Command -> Dialogue Printed Ending
  | .run => fullRun ctx reader
  | command => do
      match ← connect ctx reader with
      | .error e => return ⟨exitFatal, .error e⟩
      | .ok (reader, chain) => afterConnect ctx reader chain command

theorem execute_of_ne_run (ctx : Context) (reader : Except ProbeError Reader)
    {command : Command} (h : command ≠ .run) :
    execute ctx reader command = (do
      match ← connect ctx reader with
      | .error e => return ⟨exitFatal, .error e⟩
      | .ok (reader, chain) => afterConnect ctx reader chain command) := by
  cases command with
  | run => exact absurd rfl h
  | _ => rfl

end Command

end FixtureProbe
