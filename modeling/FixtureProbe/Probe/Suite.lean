import FixtureProbe.Probe.Survey
import FixtureProbe.Probe.Walk

/-!
# The full run

The phases of a run follow each other in a fixed order, one request at a time. Only a failed probe
ends the run; every later phase records its failures and hands over to the next one. A run says when
a phase begins and what it has found.
-/

namespace FixtureProbe

inductive Phase where
  | connectivity
  | debugInfo
  | discovery
  | entityReads
  | gasEstimation
  | rawCalls
  | latency
  | crossReference
  deriving DecidableEq

namespace Phase

def all : List Phase :=
  [.connectivity, .debugInfo, .discovery, .entityReads, .gasEstimation, .rawCalls, .latency,
    .crossReference]

def name : Phase -> String
  | .connectivity => "connectivity"
  | .debugInfo => "debug info"
  | .discovery => "discovery"
  | .entityReads => "entity reads"
  | .gasEstimation => "gas estimation"
  | .rawCalls => "raw calls"
  | .latency => "latency"
  | .crossReference => "cross-reference"

end Phase

structure SuiteReport where
  chain : ChainStatus
  debugInfo : Outcome AccountInfo
  discovery : Outcome (List UInt64)
  /-- The current ids after discovery and the reading of the current match. -/
  defaults : Defaults
  fixture : Outcome Match
  league : Outcome League
  team : Outcome Team
  gas : List (OperationResult UInt64)
  rawCalls : List (OperationResult RawCall)
  latency : List LatencyReport
  crossReference : CrossReference
  phases : List Phase

def Outcome.isFailure : Outcome α -> Bool
  | .ok _ => false
  | .error _ => true

def SuiteReport.failures (report : SuiteReport) : Nat :=
  ([Outcome.isFailure report.debugInfo, Outcome.isFailure report.discovery,
    Outcome.isFailure report.fixture, Outcome.isFailure report.league,
    Outcome.isFailure report.team].filter id).length +
  (report.gas.filter (Outcome.isFailure ·.result)).length +
  (report.rawCalls.filter (Outcome.isFailure ·.result)).length +
  report.latency.foldr (fun survey n => survey.failures.length + n) 0 +
  report.crossReference.failures

inductive PhaseEvent where
  | started (phase : Phase)
  | connected (chain : ChainStatus)
  | debugInfo (result : Outcome AccountInfo)
  | discovery (result : Outcome (List UInt64)) (defaults : Defaults)
  | entityReads (fixture : Outcome Match) (league : Outcome League) (team : Outcome Team)
  | gasEstimation (results : List (OperationResult UInt64))
  | rawCalls (results : List (OperationResult RawCall))
  | latency (reports : List LatencyReport)
  | crossReference (report : CrossReference)

structure SuiteOptions where
  iterations : UInt32 := Latency.defaultIterations
  workingSetSize : Nat := Walk.defaultSize

namespace Suite

inductive Note where
  | log (record : Log.Record)
  | phase (event : PhaseEvent)

def logged (dialogue : Dialogue Log.Record α) : Dialogue Note α :=
  dialogue.mapNotes .log

def report (event : PhaseEvent) : Dialogue Note Unit :=
  Dialogue.note (.phase event)

def startRecord (phase : Phase) : Log.Record :=
  ⟨.info, "futchain_harness::suite", "starting phase", [("phase", .shown phase.name)]⟩

def enter (phase : Phase) : Dialogue Note Phase := do
  Dialogue.note (.log (startRecord phase))
  report (.started phase)
  return phase

/-- The phases after the connection to `chain`; some phases have been entered before. -/
def survey (reader : Reader) (options : SuiteOptions) (chain : ChainStatus)
    (phases : List Phase) : Dialogue Note SuiteReport := do
  let phases := phases ++ [← enter .debugInfo]
  let debugInfo ← logged reader.accountInfo
  report (.debugInfo debugInfo)
  let phases := phases ++ [← enter .discovery]
  let discovery ← logged reader.readUnfinished
  let discovered := discovery.toOption.getD []
  let discoveredDefaults := Defaults.initial.withDiscovery discovered
  report (.discovery discovery discoveredDefaults)
  let phases := phases ++ [← enter .entityReads]
  let (fixture, defaults) ← logged (Survey.readCurrentMatch reader discoveredDefaults)
  let league ← logged (reader.readLeague defaults.leagueId)
  let team ← logged (reader.readTeam defaults.teamId)
  report (.entityReads fixture league team)
  let phases := phases ++ [← enter .gasEstimation]
  let gas ← logged (Survey.gas reader defaults)
  report (.gasEstimation gas)
  let phases := phases ++ [← enter .rawCalls]
  let rawCalls ← logged (Survey.rawCalls reader defaults)
  report (.rawCalls rawCalls)
  let phases := phases ++ [← enter .latency]
  let latency ← logged (Survey.latency reader defaults options.iterations)
  report (.latency latency)
  let phases := phases ++ [← enter .crossReference]
  let ids := Walk.workingSet discovered options.workingSetSize
  let crossReference ← logged (Walk.run reader ids)
  report (.crossReference crossReference)
  return {
    chain, debugInfo, discovery, defaults, fixture, league, team, gas, rawCalls, latency,
    crossReference, phases }

def run (reader : Reader) (options : SuiteOptions) : Dialogue Note (Outcome SuiteReport) := do
  let phases := [← enter .connectivity]
  match ← logged Reader.probe with
  | .error e => return .error e
  | .ok chain =>
      report (.connected chain)
      return .ok (← survey reader options chain phases)

/-!
# Observers
-/

/-- What an observer of the events makes of a note, next to the log. -/
def Note.handed (log : Log.Record -> ω) (observe : PhaseEvent -> List ω) : Note -> List ω
  | .log record => [log record]
  | .phase event => observe event

def observed (log : Log.Record -> ω) (observe : PhaseEvent -> List ω) (reader : Reader)
    (options : SuiteOptions) : Dialogue ω (Outcome SuiteReport) :=
  (run reader options).expandNotes (Note.handed log observe)

/-- A run that nobody observes; it still writes its log. -/
def quiet (reader : Reader) (options : SuiteOptions) :
    Dialogue Log.Record (Outcome SuiteReport) :=
  observed id (fun _ => []) reader options

end Suite

end FixtureProbe
