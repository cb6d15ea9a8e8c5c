import FixtureProbe.Json.Basic
import FixtureProbe.Probe.Suite

/-!
# Reports as JSON documents

Every record and report has one JSON form. Members stand in a fixed order; a result is an object
with the single member `Ok` or `Err`.
-/

namespace FixtureProbe

def ProbeError.json (error : ProbeError) : Json :=
  .object (("kind", .string error.kind) :: match error with
    | .connectivity reason | .interface reason => [("reason", .string reason)]
    | .lookup operation argument reason => [
        ("operation", .string operation),
        ("argument", Json.ofOption Json.uint64 argument),
        ("reason", .string reason)]
    | .invalidRpcUrl url reason => [("url", .string url), ("reason", .string reason)]
    | .invalidAddress address => [("address", .string address)])

def Outcome.json (value : α -> Json) : Outcome α -> Json
  | .ok a => .object [("Ok", value a)]
  | .error e => .object [("Err", e.json)]

/-!
# Records
-/

def Match.json (m : Match) : Json :=
  .object [
    ("id", .uint64 m.id),
    ("league_id", .uint64 m.leagueId),
    ("name", .string m.name),
    ("time", .string m.time),
    ("home_id", .uint64 m.homeId),
    ("home_name", .string m.homeName),
    ("home_score", .uint64 m.homeScore),
    ("away_id", .uint64 m.awayId),
    ("away_name", .string m.awayName),
    ("away_score", .uint64 m.awayScore),
    ("started", .bool m.started),
    ("finished", .bool m.finished),
    ("cancelled", .bool m.cancelled)]

def League.json (l : League) : Json :=
  .object [("id", .uint64 l.id), ("name", .string l.name), ("group_name", .string l.groupName)]

def Team.json (t : Team) : Json :=
  .object [("id", .uint64 t.id), ("name", .string t.name)]

def ChainStatus.json (c : ChainStatus) : Json :=
  .object [("chain_id", .uint64 c.chainId), ("block_number", .uint64 c.blockNumber)]

def AccountInfo.members (info : AccountInfo) : List (String × Json) :=
  [("address", .string info.address.text), ("code", .string (Bytes.toHex info.code)),
    ("balance_wei", .string info.balance.quantity)]

def AccountInfo.json (info : AccountInfo) : Json :=
  .object info.members

def RawCall.json (call : RawCall) : Json :=
  .object [
    ("operation", .string call.operation.text),
    ("calldata", .string (Bytes.toHex call.calldata)),
    ("response_len", .nat call.responseLength),
    ("preview", .string call.preview)]

def Defaults.json (d : Defaults) : Json :=
  .object [("match_id", .uint64 d.matchId), ("league_id", .uint64 d.leagueId),
    ("team_id", .uint64 d.teamId)]

def OperationResult.json (value : α -> Json) (r : OperationResult α) : Json :=
  .object [("operation", .string r.operation.text), ("result", Outcome.json value r.result)]

/-!
# Latency
-/

def Duration.json (d : Duration) : Json :=
  .number (.double d.millis)

def LatencyStats.json (stats : LatencyStats) : Json :=
  .object [("samples", .nat stats.samples), ("min", stats.min.json), ("max", stats.max.json),
    ("average", stats.average.json)]

def FailedIteration.json (failure : FailedIteration) : Json :=
  .object [("iteration", .nat failure.iteration), ("error", .string failure.error)]

def LatencyReport.json (report : LatencyReport) : Json :=
  .object [
    ("label", .string report.label),
    ("iterations", .nat report.iterations.toNat),
    ("durations", Json.list Duration.json report.durations),
    ("failures", Json.list FailedIteration.json report.failures),
    ("stats", Json.ofOption LatencyStats.json report.stats)]

/-!
# Walks and runs
-/

def SkipReason.name : SkipReason -> String
  | .matchUnavailable => "match_unavailable"
  | .zeroId => "zero_id"
  | .sameAsHome => "same_as_home"

def Step.json (value : α -> Json) (step : Step α) : Json :=
  let (outcome, detail) := match step with
    | .fetched a => ("fetched", value a)
    | .failed e => ("failed", e.json)
    | .skipped reason => ("skipped", .string reason.name)
  .object [("outcome", .string outcome), ("detail", detail)]

def MatchTrace.json (trace : MatchTrace) : Json :=
  .object [
    ("match_id", .uint64 trace.matchId),
    ("fixture", trace.fixture.json Match.json),
    ("league", trace.league.json League.json),
    ("home_team", trace.homeTeam.json Team.json),
    ("away_team", trace.awayTeam.json Team.json)]

def CrossReference.json (report : CrossReference) : Json :=
  .object [("match_ids", Json.list Json.uint64 report.matchIds),
    ("traces", Json.list MatchTrace.json report.traces)]

def Phase.identifier : Phase -> String
  | .connectivity => "connectivity"
  | .debugInfo => "debug_info"
  | .discovery => "discovery"
  | .entityReads => "entity_reads"
  | .gasEstimation => "gas_estimation"
  | .rawCalls => "raw_calls"
  | .latency => "latency"
  | .crossReference => "cross_reference"

def idsJson (ids : List UInt64) : Json :=
  Json.list Json.uint64 ids

def SuiteReport.json (report : SuiteReport) : Json :=
  .object [
    ("chain", report.chain.json),
    ("debug_info", Outcome.json AccountInfo.json report.debugInfo),
    ("discovery", Outcome.json idsJson report.discovery),
    ("defaults", report.defaults.json),
    ("fixture", Outcome.json Match.json report.fixture),
    ("league", Outcome.json League.json report.league),
    ("team", Outcome.json Team.json report.team),
    ("gas", Json.list (OperationResult.json Json.uint64) report.gas),
    ("raw_calls", Json.list (OperationResult.json RawCall.json) report.rawCalls),
    ("latency", Json.list LatencyReport.json report.latency),
    ("cross_reference", report.crossReference.json),
    ("phases", Json.list (fun p => .string p.identifier) report.phases)]

end FixtureProbe
