import FixtureProbe.Decimal.Basic
import FixtureProbe.Json.Text
import FixtureProbe.Probe.Suite
import FixtureProbe.Terminal.Style

/-!
# Lines of output

What the probe prints is a list of lines. A line says what it means; how it looks, and to which
stream it goes, follows from that. Lines that report a failure hold its text apart from the words
around it.
-/

namespace FixtureProbe
namespace Terminal

inductive Stream where
  | out
  | err
  deriving DecidableEq

inductive Alarm where
  | error
  | warning
  deriving DecidableEq

inductive Line where
  | success (text : String)
  | info (text : String)
  | warning (text : String)
  | hint (text : String)
  | header (text : String)
  | pair (key value : String)
  /-- A failure: some words of context, and the text of the failure. -/
  | failure (alarm : Alarm) (context reason : String)
  | document (value : Json)
  | blank
  | callTitle (op : Operation)
  | samplesTitle (label : String) (iterations : UInt32)
  | failedIteration (run : FailedIteration)
  | latency (stats : LatencyStats)
  | noSamples
  | skipped (what : String) (reason : SkipReason)

namespace Line

def skipText : SkipReason -> String
  | .matchUnavailable => "match unavailable"
  | .zeroId => "id is 0"
  | .sameAsHome => "same as home team"

def millisText (d : Duration) : String :=
  Decimal.fixed 2 d.millis ++ "ms"

def stream : Line -> Stream
  | .failure .error _ _ => .err
  | _ => .out

def spans : Line -> List Span
  | .success text => [.boldColoured .green "✓", .plain " ", .coloured .green text]
  | .info text => [.coloured .cyan "→", .plain " ", .plain text]
  | .warning text => [.boldColoured .yellow "!", .plain " ", .coloured .yellow text]
  | .hint text => [.dimmed "💡", .plain " ", .dimmed text]
  | .header text => [
      .plain "\n", .boldColoured .white text, .plain "\n",
      .dimmed (String.ofList (List.replicate text.length '─'))]
  | .pair key value => [.plain "  ", .dimmed (key ++ ":"), .plain " ", .plain value]
  | .failure .error context reason =>
      [.boldColoured .red "✗", .plain " ", .coloured .red (context ++ reason)]
  | .failure .warning context reason =>
      [.boldColoured .yellow "!", .plain " ", .coloured .yellow (context ++ reason)]
  | .document value => [.plain value.pretty]
  | .blank => []
  | .callTitle op => [.plain "  ", .bold op.text]
  | .samplesTitle label iterations => [
      .plain "  ", .bold label, .plain (" (" ++ toString iterations.toNat ++ " iterations)")]
  | .failedIteration run => [
      .plain "    ", .coloured .yellow "!",
      .plain (" iteration " ++ toString run.iteration ++ " failed: "),
      .dimmed run.error]
  | .latency stats => [.plain (
      "    Average: " ++ millisText stats.average ++ ", Min: " ++ millisText stats.min ++
      ", Max: " ++ millisText stats.max ++ " (" ++ toString stats.samples ++ " samples)")]
  | .noSamples => [.plain "    ", .coloured .red "no successful iterations"]
  | .skipped what reason => [
      .dimmed "-", .plain " ", .dimmed (what ++ ": skipped (" ++ skipText reason ++ ")")]

def text (colours : Bool) (line : Line) : String :=
  String.join (line.spans.map (Span.render colours)) ++ "\n"

end Line

def written (colours : Bool) (stream : Stream) (lines : List Line) : String :=
  String.join ((lines.filter (·.stream = stream)).map (Line.text colours))

end Terminal
end FixtureProbe
