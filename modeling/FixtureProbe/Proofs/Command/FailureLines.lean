import FixtureProbe.Proofs.Command.Course
import FixtureProbe.Proofs.Probe.Attempts

/-!
# Lines that tell of failures

A line that tells of a failure is recognised by what it is; its words end with the text of the failure.
Whatever is printed for a person, be it for an event of the full run or for a report, tells of exactly
the failures that it is about, in their order.
-/

namespace FixtureProbe

open Dialogue
open Terminal (Line)

variable {α β σ : Type}

/-!
# Lines
-/

namespace Terminal.Line

/-- The text of the failure that a line tells of, if it tells of one. -/
def failureText? : Line -> Option String
  | .failure _ _ reason => some reason
  | .failedIteration run => some run.error
  | _ => none

theorem text_of_spans {line : Line} {first : List Span} {last : Span}
    (hspans : line.spans = first ++ [last]) {context text : String}
    (hlast : last.text = context ++ text) :
    exists before, line.text false = before ++ text ++ "\n" := by
  have hplain (span : Span) : span.render false = span.text := rfl
  refine ⟨String.join (first.map (Span.render false)) ++ context, ?_⟩
  rw [Line.text, hspans, List.map_append, String.join_append, List.map_singleton, hplain, hlast,
    String.join_cons, String.join_nil, String.append_empty, ← String.append_assoc]

/-- A line that tells of a failure ends with its text. -/
theorem text_of_failureText? {line : Line} {text : String} (h : line.failureText? = some text) :
    exists before, line.text false = before ++ text ++ "\n" := by
  cases line with
  | failure alarm context reason =>
      cases h
      cases alarm with
      | error =>
          have hspans : (Line.failure .error context text).spans =
              [.boldColoured .red "✗", .plain " "] ++ [.coloured .red (context ++ text)] := rfl
          exact text_of_spans hspans rfl
      | warning =>
          have hspans : (Line.failure .warning context text).spans =
              [.boldColoured .yellow "!", .plain " "] ++
                [.coloured .yellow (context ++ text)] := rfl
          exact text_of_spans hspans rfl
  | failedIteration run =>
      cases h
      have hspans : (Line.failedIteration run).spans =
          [.plain "    ", .coloured .yellow "!",
            .plain (" iteration " ++ toString run.iteration ++ " failed: ")] ++
          [.dimmed run.error] := rfl
      exact text_of_spans hspans String.empty_append.symm
  | _ => cases h

/-- The texts of the failures that some lines tell of, in order. -/
def failureTexts (lines : List Line) : List String :=
  lines.filterMap failureText?

@[simp]
theorem failureTexts_append (first second : List Line) :
    failureTexts (first ++ second) = failureTexts first ++ failureTexts second :=
  List.filterMap_append

theorem failureTexts_flatMap (lines : α -> List Line) (as : List α) :
    failureTexts (as.flatMap lines) = as.flatMap fun a => failureTexts (lines a) :=
  List.filterMap_flatMap

end Terminal.Line

open Terminal.Line (failureTexts failureTexts_append failureTexts_flatMap)

/-!
# Lines of a report
-/

theorem Outcome.failureTexts_lines {lines : α -> List Line}
    (hlines : forall a, failureTexts (lines a) = []) (outcome : Outcome α) :
    failureTexts (Outcome.lines lines outcome) = ProbeError.texts outcome.error? := by
  cases outcome with
  | ok a => exact hlines a
  | error e => rfl

theorem failureTexts_idsLines (ids : List UInt64) : failureTexts (idsLines ids) = [] := by
  cases ids with
  | nil => rfl
  | cons id ids => rfl

theorem failureTexts_accountLines (outcome : Outcome AccountInfo) :
    failureTexts (accountLines outcome) = ProbeError.texts outcome.error? := by
  cases outcome with
  | ok info => rfl
  | error e => rfl

theorem failureTexts_gasLines (results : List (OperationResult UInt64)) :
    failureTexts (gasLines results) = Survey.texts results := by
  rw [gasLines, List.map_eq_flatMap, failureTexts_flatMap]
  congr 1
  funext r
  cases r.result with
  | ok gas => rfl
  | error e => rfl

theorem failureTexts_rawCallsLines (results : List (OperationResult RawCall)) :
    failureTexts (rawCallsLines results) = Survey.texts results := by
  rw [rawCallsLines, failureTexts_flatMap]
  congr 1
  funext r
  cases r.result with
  | ok call => rfl
  | error e => rfl

theorem LatencyReport.failureTexts_lines (report : LatencyReport) :
    failureTexts report.lines = Latency.texts report := by
  have hfailures : failureTexts (report.failures.map Line.failedIteration) =
      report.failures.map FailedIteration.error := by
    rw [failureTexts, List.filterMap_map, ← List.filterMap_eq_map]
    rfl
  have hlines (first last : Line) (hfirst : failureTexts [first] = [])
      (hlast : failureTexts [last] = []) :
      failureTexts ([first] ++ report.failures.map Line.failedIteration ++ [last]) =
        Latency.texts report := by
    rw [failureTexts_append, failureTexts_append, hfirst, hlast, hfailures, List.append_nil]
    rfl
  unfold lines
  cases report.stats with
  | none => exact hlines _ _ rfl rfl
  | some stats => exact hlines _ _ rfl rfl

theorem failureTexts_latencyLines (reports : List LatencyReport) :
    failureTexts (latencyLines reports) = reports.flatMap Latency.texts := by
  rw [latencyLines, failureTexts_flatMap]
  exact congrArg (reports.flatMap ·) (funext LatencyReport.failureTexts_lines)

theorem Step.failureTexts_line (what : String) (describe : α -> String) (step : Step α) :
    failureTexts [step.line what describe] = ProbeError.texts step.error? := by
  cases step with
  | fetched a => rfl
  | failed e => rfl
  | skipped reason => rfl

theorem MatchTrace.failureTexts_lines (trace : MatchTrace) :
    failureTexts trace.lines = trace.texts := by
  rw [Walk.texts_eq, ← Step.failureTexts_line "match" Match.summary,
    ← Step.failureTexts_line "league" League.summary,
    ← Step.failureTexts_line "home team" Team.summary,
    ← Step.failureTexts_line "away team" Team.summary]
  simp only [← failureTexts_append]
  rfl

theorem CrossReference.failureTexts_lines (report : CrossReference) :
    failureTexts report.lines = report.traces.flatMap MatchTrace.texts := by
  have htally (count failures : Nat) : failureTexts [tallyLine count failures] = [] := by
    unfold tallyLine
    split
    · rfl
    · rfl
  rw [lines, failureTexts_append, failureTexts_append, htally, failureTexts_flatMap,
    List.append_nil]
  exact congrArg (report.traces.flatMap ·) (funext MatchTrace.failureTexts_lines)

theorem failureTexts_withHeading (phase : Phase) (lines : List Line) :
    failureTexts (phase.withHeading lines) = failureTexts lines := by
  cases phase with
  | _ => rfl

/-!
# Lines of a command
-/

/-- The texts of the failures that the end of a command tells of; a full run has told of all of them
before. -/
def Report.texts : Report -> List String
  | .account _ result => ProbeError.texts result.error?
  | .unfinished _ result => ProbeError.texts result.error?
  | .fixture _ result => ProbeError.texts result.error?
  | .league _ result => ProbeError.texts result.error?
  | .team _ result => ProbeError.texts result.error?
  | .gas results => Survey.texts results
  | .rawCalls results => Survey.texts results
  | .latency reports => reports.flatMap Latency.texts
  | .crossReference report => report.traces.flatMap MatchTrace.texts
  | .chain _ | .suite _ => []

/-- The mentions of the failures in a report. -/
def Report.mentions : Report -> List Mention
  | .chain _ => []
  | .account _ result => ProbeError.mentions result.error?
  | .unfinished _ result => ProbeError.mentions result.error?
  | .fixture _ result => ProbeError.mentions result.error?
  | .league _ result => ProbeError.mentions result.error?
  | .team _ result => ProbeError.mentions result.error?
  | .gas results => Survey.mentions results
  | .rawCalls results => Survey.mentions results
  | .latency reports => reports.flatMap Latency.mentions
  | .crossReference report => report.traces.flatMap MatchTrace.mentions
  | .suite report => Suite.mentions report

/-- Whether a report is one on a full run. -/
def Report.isSuite : Report -> Bool
  | .suite _ => true
  | _ => false

theorem Report.texts_mentions {report : Report} (h : report.isSuite = false) :
    report.mentions.map Mention.text = report.texts := by
  cases report with
  | suite report => cases h
  | chain served => rfl
  | account served result => exact ProbeError.texts_mentions _
  | unfinished served result => exact ProbeError.texts_mentions _
  | fixture served result => exact ProbeError.texts_mentions _
  | league served result => exact ProbeError.texts_mentions _
  | team served result => exact ProbeError.texts_mentions _
  | gas results => exact Survey.texts_mentions results
  | rawCalls results => exact Survey.texts_mentions results
  | latency reports =>
      rw [mentions, texts, List.map_flatMap]
      simp only [Latency.texts_mentions]
  | crossReference report =>
      rw [mentions, texts, List.map_flatMap]
      simp only [MatchTrace.texts_mentions]

theorem Context.failureTexts_eventLines (ctx : Context) (functions : List String)
    (event : PhaseEvent) : failureTexts (ctx.eventLines functions event) = event.texts := by
  cases event with
  | started phase => exact failureTexts_withHeading phase []
  | connected chain => rfl
  | debugInfo result =>
      have haddress : failureTexts (result.toOption.map fun info =>
          addressLine info.address).toList = [] := by
        cases result with
        | ok info => rfl
        | error e => rfl
      rw [eventLines, failureTexts_append, failureTexts_append, haddress, failureTexts_accountLines]
      rfl
  | discovery result defaults =>
      cases result with
      | error e => rfl
      | ok ids =>
          cases ids with
          | nil => rfl
          | cons id ids => rfl
  | entityReads fixture league team =>
      rw [eventLines, failureTexts_append, failureTexts_append,
        Outcome.failureTexts_lines fun _ => rfl, Outcome.failureTexts_lines fun _ => rfl,
        Outcome.failureTexts_lines fun _ => rfl]
      rfl
  | gasEstimation results => exact failureTexts_gasLines results
  | rawCalls results => exact failureTexts_rawCallsLines results
  | latency reports => exact failureTexts_latencyLines reports
  | crossReference report => exact report.failureTexts_lines

theorem Report.failureTexts_lines (report : Report) : failureTexts report.lines = report.texts := by
  cases report with
  | chain served => rfl
  | account served result => exact failureTexts_accountLines result
  | unfinished served result => exact Outcome.failureTexts_lines failureTexts_idsLines result
  | fixture served result => exact Outcome.failureTexts_lines (fun _ => rfl) result
  | league served result => exact Outcome.failureTexts_lines (fun _ => rfl) result
  | team served result => exact Outcome.failureTexts_lines (fun _ => rfl) result
  | gas results => exact failureTexts_gasLines results
  | rawCalls results => exact failureTexts_rawCallsLines results
  | latency reports => exact failureTexts_latencyLines reports
  | crossReference report => exact report.failureTexts_lines
  | suite report => rfl

end FixtureProbe
