import FixtureProbe.Report.Document
import FixtureProbe.Report.Lines
import FixtureProbe.Settings

/-!
# What there is to print

The lines and the documents that commands print, apart from those of records and reports. Which of
them are printed is decided by the commands.
-/

namespace FixtureProbe

open Terminal (Line)

structure Context where
  settings : Settings
  json : Bool

/-!
# Lines for a person
-/

def ChainStatus.line (chain : ChainStatus) : Line :=
  .success ("Connected to chain " ++ idText chain.chainId ++ ", block " ++
    idText chain.blockNumber)

def usingMatchLine (id : UInt64) : Line :=
  .info ("Using match ID " ++ idText id)

def usingEntitiesLine (defaults : Defaults) : Line :=
  .info ("Using league ID " ++ idText defaults.leagueId ++ " and team ID " ++
    idText defaults.teamId)

def titleLine : Line :=
  .header "Futchain Precompile Test Suite"

def addressLine (address : Address) : Line :=
  .pair "Precompile address" address.text

def namesLine (functions : List String) : Line :=
  .pair "ABI functions" (String.intercalate ", " functions)

def Outcome.lines (lines : α -> List Line) : Outcome α -> List Line
  | .ok a => lines a
  | .error e => [.failure .error "" e.message]

def accountLines : Outcome AccountInfo -> List Line
  | .ok info => info.lines
  | .error e => [.failure .warning "Address check failed: " e.message]

def fatalLines (error : ProbeError) : List Line :=
  match error with
  | .connectivity _ =>
      [.failure .error "Cannot proceed without connection: " error.message,
        .hint "Check that the node is running or pass --rpc-url."]
  | _ => [.failure .error "Cannot proceed: " error.message]

def completedLine (failures : Nat) : Line :=
  .success (if failures = 0 then "All tests completed!"
    else "All tests completed with " ++ toString failures ++ " non-fatal failures.")

namespace Context

def connectingLine (ctx : Context) : Line :=
  .info ("Connecting to " ++ ctx.settings.rpcUrl ++ "...")

def urlLine (ctx : Context) : Line :=
  .pair "RPC URL" ctx.settings.rpcUrl

def eventLines (ctx : Context) (functions : List String) : PhaseEvent -> List Line
  | .started phase => phase.withHeading []
  | .connected chain => [chain.line]
  | .debugInfo result =>
      let address := (result.toOption.map fun info => addressLine info.address).toList
      [ctx.urlLine, namesLine functions] ++ address ++ accountLines result
  | .discovery (.ok ids) defaults =>
      idsLines ids ++ if ids.isEmpty then [] else [usingMatchLine defaults.matchId]
  | .discovery (.error e) _ => [.failure .error "" e.message]
  | .entityReads fixture league team =>
      Outcome.lines Match.lines fixture ++ Outcome.lines League.lines league ++
        Outcome.lines Team.lines team
  | .gasEstimation results => gasLines results
  | .rawCalls results => rawCallsLines results
  | .latency reports => latencyLines reports
  | .crossReference report => report.lines

/-!
# Documents for a program
-/

/-- An account, with what is known without asking. -/
def accountData (ctx : Context) (functions : List String) (info : AccountInfo) : Json :=
  .object ([("rpc_url", .string ctx.settings.rpcUrl),
    ("abi_functions", Json.list .string functions)] ++ info.members)

end Context

def envelope (chain : ChainStatus) (data : α -> Json) (result : Outcome α) : Json :=
  .object ([("success", .bool (!Outcome.isFailure result)), ("chain", chain.json)] ++
    match result with
    | .ok a => [("data", data a)]
    | .error e => [("error", e.json)])

def fatalDocument (error : ProbeError) : Json :=
  .object [("success", .bool false), ("error", error.json)]

end FixtureProbe
