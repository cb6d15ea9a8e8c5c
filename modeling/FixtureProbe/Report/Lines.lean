import FixtureProbe.Terminal.Line

/-!
# Reports as lines

What is printed for each record and report when a person reads it.
-/

namespace FixtureProbe

open Terminal (Line)

def flagText (b : Bool) : String :=
  if b then "true" else "false"

def idText (id : UInt64) : String :=
  toString id.toNat

/-!
# Records
-/

def sideText (name : String) (id score : UInt64) : String :=
  name ++ " (id " ++ idText id ++ ") score " ++ idText score

def Match.lines (m : Match) : List Line :=
  [.success ("Match " ++ idText m.id ++ " received"),
    .pair "Name" m.name,
    .pair "League ID" (idText m.leagueId),
    .pair "Time" m.time,
    .pair "Home" (sideText m.homeName m.homeId m.homeScore),
    .pair "Away" (sideText m.awayName m.awayId m.awayScore),
    .pair "Status" (m.status ++ " (started=" ++ flagText m.started ++ ", finished=" ++
      flagText m.finished ++ ", cancelled=" ++ flagText m.cancelled ++ ")")]

def League.lines (l : League) : List Line :=
  [.success ("League " ++ idText l.id ++ " received"), .pair "Name" l.name,
    .pair "Group" l.groupName]

def Team.lines (t : Team) : List Line :=
  [.success ("Team " ++ idText t.id ++ " received"), .pair "Name" t.name]

def shownIds : Nat := 10

/-- Unfinished matches: their number, and the first of them. -/
def idsLines (ids : List UInt64) : List Line :=
  let count := Line.success (toString ids.length ++ " unfinished matches")
  if ids.isEmpty then [count]
  else
    let more := if shownIds < ids.length then ", ..." else ""
    [count, .pair "IDs"
      ("[" ++ String.intercalate ", " ((ids.take shownIds).map idText) ++ more ++ "]")]

def AccountInfo.lines (info : AccountInfo) : List Line :=
  let code := if info.code.isEmpty then "none"
    else Bytes.toHex info.code ++ " (" ++ toString info.code.length ++ " bytes)"
  [.pair "Code at address" code, .pair "Balance" (info.balance.ether ++ " ETH")]

def RawCall.lines (call : RawCall) : List Line :=
  [.callTitle call.operation,
    .pair "  Call data" (Bytes.toHex call.calldata),
    .pair "  Raw result" (call.preview ++ "..."),
    .pair "  Result length" (toString call.responseLength ++ " bytes")]

def LatencyReport.lines (report : LatencyReport) : List Line :=
  [Line.samplesTitle report.label report.iterations] ++
    report.failures.map Line.failedIteration ++
    [match report.stats with
      | some stats => .latency stats
      | none => .noSamples]

/-!
# Walks
-/

def Step.line (what : String) (describe : α -> String) : Step α -> Line
  | .fetched a => .success (what ++ ": " ++ describe a)
  | .failed e => .failure .error (what ++ ": ") e.message
  | .skipped reason => .skipped what reason

def Match.summary (m : Match) : String :=
  m.name ++ " (" ++ m.time ++ ", " ++ m.status ++ ")"

def League.summary (l : League) : String :=
  l.name ++ " / " ++ l.groupName

def Team.summary (t : Team) : String :=
  t.name ++ " (id " ++ idText t.id ++ ")"

def MatchTrace.lines (trace : MatchTrace) : List Line :=
  [.header ("Match " ++ idText trace.matchId),
    trace.fixture.line "match" Match.summary,
    trace.league.line "league" League.summary,
    trace.homeTeam.line "home team" Team.summary,
    trace.awayTeam.line "away team" Team.summary]

def walkedLine (ids : List UInt64) : Line :=
  .info ("Testing with match IDs: [" ++ String.intercalate ", " (ids.map idText) ++ "]")

def tallyLine (traces failures : Nat) : Line :=
  let count := toString traces ++ " matches cross-referenced"
  if failures = 0 then .success count
  else .warning (count ++ ", " ++ toString failures ++ " lookups failed")

def CrossReference.lines (report : CrossReference) : List Line :=
  [walkedLine report.matchIds] ++ report.traces.flatMap MatchTrace.lines ++
    [tallyLine report.traces.length report.failures]

/-!
# Surveys
-/

def gasLines (results : List (OperationResult UInt64)) : List Line :=
  results.map fun r => match r.result with
    | .ok gas => .pair r.operation.text (idText gas ++ " gas")
    | .error e => .failure .warning (r.operation.text ++ ": estimation failed - ") e.message

def rawCallsLines (results : List (OperationResult RawCall)) : List Line :=
  results.flatMap fun r => match r.result with
    | .ok call => call.lines
    | .error e => [.failure .warning (r.operation.text ++ ": raw call failed - ") e.message]

def latencyLines (reports : List LatencyReport) : List Line :=
  reports.flatMap LatencyReport.lines

/-!
# Headings
-/

/-- The heading of each phase; the first phase has none. -/
def Phase.heading? : Phase -> Option String
  | .connectivity => none
  | .debugInfo => some "Debug Information"
  | .discovery => some "Step 1: Discovering live matches"
  | .entityReads => some "Step 2: Reading current entities"
  | .gasEstimation => some "Gas Estimation"
  | .rawCalls => some "Raw Calls"
  | .latency => some "Performance"
  | .crossReference => some "Cross-Reference"

def Phase.withHeading (phase : Phase) (lines : List Line) : List Line :=
  (phase.heading?.map Line.header).toList ++ lines

end FixtureProbe
