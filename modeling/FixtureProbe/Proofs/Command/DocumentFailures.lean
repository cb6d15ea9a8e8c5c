import FixtureProbe.Proofs.Command.Document
import FixtureProbe.Proofs.Command.Failures

/-!
# Failures kept for a program

A document keeps a failure as an object that tells its kind or, of a timed run, its number and its
text. The failures that the document of a command keeps are those of the attempts that the command
makes for its report. What a command attempts only to find out ids that it was not given leaves no
trace in the document, as it is told of to a person alone.
-/

namespace FixtureProbe

open Dialogue

variable {α β σ : Type}

/-!
# Failures in a document
-/

namespace Json

/-- Whether the members of an object are those of a failure: they tell the kind of a failure, or the
number of the run that has failed. -/
def tellFailure (members : List (String × Json)) : Bool :=
  members.any fun member => member.1 = "kind" || member.1 = "iteration"

mutual

/-- The failures that a document keeps, in order. -/
def failures : Json -> List Json
  | .null | .bool _ | .number _ | .string _ => []
  | .array items => itemFailures items
  | .object members => if tellFailure members then [.object members] else memberFailures members

/-- The failures in the items of an array. -/
def itemFailures : List Json -> List Json
  | [] => []
  | item :: items => failures item ++ itemFailures items

/-- The failures in the members of an object. -/
def memberFailures : List (String × Json) -> List Json
  | [] => []
  | (_, value) :: members => failures value ++ memberFailures members

end

theorem failures_list (value : α -> Json) (as : List α) :
    (Json.list value as).failures = as.flatMap fun a => (value a).failures := by
  rw [Json.list, failures]
  induction as with
  | nil => rfl
  | cons a as ih => rw [List.map_cons, itemFailures, ih, List.flatMap_cons]

theorem failures_list_eq_nil {value : α -> Json} (h : forall a, (value a).failures = [])
    (as : List α) : (Json.list value as).failures = [] := by
  rw [failures_list]
  exact List.flatMap_eq_nil_iff.mpr fun a _ => h a

theorem failures_object {members : List (String × Json)} (h : tellFailure members = false) :
    (Json.object members).failures = memberFailures members := by
  rw [failures, h]
  rfl

end Json

/-- How a document keeps a failure. -/
def Mention.json : Mention -> Json
  | .error e => e.json
  | .iteration failure => failure.json

theorem ProbeError.failures_json (e : ProbeError) : e.json.failures = [e.json] := by
  cases e <;> rfl

/-!
# Documents of reports

A record keeps no failure: none of its members has the name of one.
-/

/-- A result keeps its failure. -/
theorem Outcome.failures_json (value : α -> Json) (hvalue : forall a, (value a).failures = [])
    (outcome : Outcome α) :
    (Outcome.json value outcome).failures =
      (ProbeError.mentions outcome.error?).map Mention.json := by
  cases outcome with
  | ok a => exact (List.append_nil _).trans (hvalue a)
  | error e => exact (List.append_nil _).trans e.failures_json

theorem Step.failures_json (value : α -> Json) (hvalue : forall a, (value a).failures = [])
    (step : Step α) :
    (step.json value).failures = (ProbeError.mentions step.error?).map Mention.json := by
  cases step with
  | fetched a => exact (List.append_nil _).trans (hvalue a)
  | failed e => exact (List.append_nil _).trans e.failures_json
  | skipped reason => rfl

theorem failures_idsJson (ids : List UInt64) : (idsJson ids).failures = [] :=
  Json.failures_list_eq_nil (fun _ => rfl) ids

/-- The results of a survey keep their failures. -/
theorem Survey.failures_json (value : α -> Json) (hvalue : forall a, (value a).failures = [])
    (results : List (OperationResult α)) :
    (Json.list (OperationResult.json value) results).failures =
      (Survey.mentions results).map Mention.json := by
  rw [Json.failures_list, Survey.mentions, List.map_flatMap]
  congr 1
  funext r
  rw [← Outcome.failures_json value hvalue]
  exact List.append_nil _

/-- A sample keeps the numbers and the texts of its failed runs. -/
theorem LatencyReport.failures_json (report : LatencyReport) :
    report.json.failures = (Latency.mentions report).map Mention.json := by
  have hdurations : (Json.list Duration.json report.durations).failures = [] :=
    Json.failures_list_eq_nil (fun _ => rfl) report.durations
  have hstats : (Json.ofOption LatencyStats.json report.stats).failures = [] := by
    cases report.stats with
    | none => rfl
    | some stats => rfl
  have hfailures : (Json.list FailedIteration.json report.failures).failures =
      (Latency.mentions report).map Mention.json := by
    rw [Json.failures_list, Latency.mentions, List.map_map, List.map_eq_flatMap]
    rfl
  rw [json, Json.failures_object rfl]
  simp only [Json.memberFailures, hdurations, hstats, hfailures, List.nil_append, List.append_nil]
  rfl

theorem failures_latencyJson (reports : List LatencyReport) :
    (Json.list LatencyReport.json reports).failures =
      (reports.flatMap Latency.mentions).map Mention.json := by
  rw [Json.failures_list, List.map_flatMap]
  exact congrArg (reports.flatMap ·) (funext LatencyReport.failures_json)

theorem MatchTrace.failures_json (trace : MatchTrace) :
    trace.json.failures = trace.mentions.map Mention.json := by
  rw [json, Json.failures_object rfl, Walk.mentions_eq]
  simp only [Json.memberFailures, List.map_append,
    Step.failures_json Match.json fun _ => rfl,
    Step.failures_json League.json fun _ => rfl,
    Step.failures_json Team.json fun _ => rfl, List.append_nil]
  rfl

theorem CrossReference.failures_json (report : CrossReference) :
    report.json.failures = (report.traces.flatMap MatchTrace.mentions).map Mention.json := by
  have hids : (Json.list Json.uint64 report.matchIds).failures = [] :=
    failures_idsJson report.matchIds
  rw [json, Json.failures_object rfl, List.map_flatMap]
  simp only [Json.memberFailures, hids, Json.failures_list, MatchTrace.failures_json,
    List.nil_append, List.append_nil]

/-- A run keeps the failures of all its phases. -/
theorem SuiteReport.failures_json (report : SuiteReport) :
    report.json.failures = (Suite.mentions report).map Mention.json := by
  have hphases : (Json.list (fun p => .string p.identifier) report.phases).failures = [] :=
    Json.failures_list_eq_nil (fun _ => rfl) report.phases
  rw [json, Json.failures_object rfl, Suite.mentions_eq]
  simp only [Json.memberFailures, List.map_append, Outcome.failures_json idsJson failures_idsJson,
    Outcome.failures_json AccountInfo.json fun _ => rfl,
    Outcome.failures_json Match.json fun _ => rfl,
    Outcome.failures_json League.json fun _ => rfl,
    Outcome.failures_json Team.json fun _ => rfl,
    Survey.failures_json Json.uint64 fun _ => rfl,
    Survey.failures_json RawCall.json fun _ => rfl,
    failures_latencyJson, CrossReference.failures_json, hphases, List.append_nil]
  rfl

theorem failures_envelope (chain : ChainStatus) {data : α -> Json}
    (hdata : forall a, (data a).failures = []) (outcome : Outcome α) :
    (envelope chain data outcome).failures =
      (ProbeError.mentions outcome.error?).map Mention.json := by
  cases outcome with
  | ok a => exact (List.append_nil _).trans (hdata a)
  | error e => exact (List.append_nil _).trans e.failures_json

theorem Context.failures_accountData (ctx : Context) (functions : List String)
    (info : AccountInfo) : (ctx.accountData functions info).failures = [] :=
  (List.append_nil _).trans (Json.failures_list_eq_nil (fun _ => rfl) functions)

/-- The document for a report keeps the failures that the report mentions. -/
theorem Report.failures_document (ctx : Context) (functions : List String) (report : Report) :
    (report.document ctx functions).failures = report.mentions.map Mention.json := by
  cases report with
  | chain served => rfl
  | account served result =>
      exact failures_envelope served (ctx.failures_accountData functions) result
  | unfinished served result => exact failures_envelope served failures_idsJson result
  | fixture served result => exact failures_envelope served (fun _ => rfl) result
  | league served result => exact failures_envelope served (fun _ => rfl) result
  | team served result => exact failures_envelope served (fun _ => rfl) result
  | gas results => exact Survey.failures_json _ (fun _ => rfl) results
  | rawCalls results => exact Survey.failures_json _ (fun _ => rfl) results
  | latency reports => exact failures_latencyJson reports
  | crossReference report => exact report.failures_json
  | suite report => exact report.failures_json

/-!
# The whole program
-/

/-- A node that says which chain it serves and what calls cost, but refuses every call. -/
def Node.refusing : Node Unit where
  answer _ r := (match r with
    | .chainId => .ok 9000
    | .blockNumber => .ok 1234
    | .code _ => .ok []
    | .balance _ => .ok 0
    | .call .. => .error "(code: -32000, message: execution reverted, data: None)"
    | .estimateGas .. => .ok 21000, ())
  time _ := (0, ())

namespace Program

/-- A document keeps failures, each once and in order, and each with what was looked up. -/
structure Holds (document : Json) (failures : List (Attempt × ProbeError)) : Prop where
  /-- The failures in the document are those given; of a timed attempt the text is kept. -/
  kept : exists mentions, List.Forall₂ Keeps failures mentions ∧
    document.failures = mentions.map Mention.json
  /-- Each of them tells the function and the argument of its attempt, and a reason. -/
  looked : forall failure, failure ∈ failures -> failure.1.FailsAs failure.2

/-- For a program, a connected command prints the document for its report and no line in front of it. -/
theorem lines_execution_json (env : String -> Option String)
    {files : String -> Except String String} {arguments : Arguments} {settings : Settings}
    {endpoint : Endpoint} {reader : Reader} (hsettings : Resolves files arguments settings)
    (hbuilds : Builds files settings endpoint reader) (hjson : arguments.json = true)
    {node : Node σ} {s s₁ s' : σ} {chain : ChainStatus} {report : Report}
    {probeLog log : List Exchange} (hprobe : Runs node s Reader.probe (.ok chain) probeLog s₁)
    (hgather : Runs node s₁
      (Command.gather (context arguments settings) reader chain arguments.command) report log s') :
    lines ((execution env files arguments).run node s).notes =
      [.document (report.document (context arguments settings) reader.interface.functionNames)] := by
  rw [lines_execution_of_builds hsettings hbuilds, Command.linesOf_execute_ok_json hjson hprobe
    hgather]

/-- A program that is connected prints for a program one document. It keeps what has failed of the
attempts that the command makes for its report, each failure once and in order. What has failed before,
while ids were found out that were not given, is not kept. -/
theorem execution_document_failures (env : String -> Option String)
    {files : String -> Except String String} {arguments : Arguments} {settings : Settings}
    {endpoint : Endpoint} {reader : Reader} (hsettings : Resolves files arguments settings)
    (hbuilds : Builds files settings endpoint reader) (hjson : arguments.json = true)
    {node : Node σ} {s s₁ : σ} {chain : ChainStatus} {probeLog : List Exchange}
    (hprobe : Runs node s Reader.probe (.ok chain) probeLog s₁) :
    let command := arguments.command
    let run := (execution env files arguments).run node s
    exists report document ids unkept failures first rest s₂ s',
      ((dialogue arguments settings (.ok (endpoint, reader))).run node s).value.outcome =
        .ok report ∧
      lines run.notes = [.document document] ∧
      run.exchanges = probeLog ++ (first ++ rest) ∧
      Attempts reader node s₁ (command.preparation ids) unkept first s₂ ∧
      Attempts reader node s₂ (command.ownAttempts settings.iterations ids report.traces) failures
        rest s' ∧
      Holds document failures := by
  intro command run
  have hcommand := Runs.self node s
    (Command.execute (context arguments settings) (.ok reader) arguments.command)
  rcases Command.execute_cases hcommand with ⟨probed, probeLog', log, s₂, hprobed, hlog, hrest⟩
  rcases hprobe.unique hprobed with ⟨rfl, rfl, rfl⟩
  rcases hrest with ⟨report, hending, hgather⟩
  rw [hending, hlog] at hcommand
  rcases Command.divides_gather hgather with
    ⟨ids, s', told, first, rest, s₂, rfl, ⟨unkept, hearly, -⟩, ⟨failures, hlate, hkeeps⟩, -⟩
  have hrun : Runs node s (execution env files arguments) _ _ _ :=
    runs_execution_of_builds hsettings hbuilds hcommand
  have hdialogue : Runs node s (dialogue arguments settings (.ok (endpoint, reader))) _ _ _ :=
    runs_dialogue hcommand
  have hlines := lines_execution_json env hsettings hbuilds hjson hprobe hgather
  have hholds : Holds (report.document (context arguments settings) reader.interface.functionNames)
      failures :=
    ⟨⟨report.mentions, hkeeps, report.failures_document _ _⟩, hlate.failsAs⟩
  exact ⟨report, _, ids, unkept, failures, first, rest, s₂, s',
    congrArg Ending.outcome hdialogue.value, hlines, hrun.exchanges, hearly, hlate, hholds⟩

/-- Both discovery and the read of the match that it falls back to are refused; the document keeps the
second one. -/
theorem execution_document_failures_refusing :
    let missing : String -> Except String String := fun path => .error path
    let arguments : Arguments := .loopback true (.fixture none)
    let reader : Reader := ⟨.embedded, .precompile⟩
    let probeLog : List Exchange := [⟨.blockNumber, .ok 1234⟩, ⟨.chainId, .ok 9000⟩]
    let run := (execution (fun _ => none) missing arguments).run Node.refusing ()
    (Resolves missing arguments loopbackSettings ∧
      Builds missing loopbackSettings .loopback reader ∧ arguments.json = true ∧
      Runs Node.refusing () Reader.probe (.ok ⟨9000, 1234⟩) probeLog ()) ∧
    exists report document ids unkept failures first rest s₂ s',
      ((dialogue arguments loopbackSettings (.ok (.loopback, reader))).run
        Node.refusing ()).value.outcome = .ok report ∧
      lines run.notes = [.document document] ∧
      run.exchanges = probeLog ++ (first ++ rest) ∧
      Attempts reader Node.refusing () (Command.preparation ids (.fixture none)) unkept first s₂ ∧
      Attempts reader Node.refusing s₂
        (Command.ownAttempts loopbackSettings.iterations ids report.traces (.fixture none)) failures
        rest s' ∧
      Holds document failures := by
  intro missing arguments reader probeLog run
  have hsettings : Resolves missing arguments loopbackSettings := resolves_loopback _ _ _
  have hbuilds : Builds missing loopbackSettings .loopback reader := builds_loopback _
  have hprobe : Runs Node.refusing () Reader.probe (.ok ⟨9000, 1234⟩) probeLog () := ⟨rfl, rfl, rfl⟩
  exact ⟨⟨hsettings, hbuilds, rfl, hprobe⟩,
    execution_document_failures (fun _ => none) hsettings hbuilds rfl hprobe⟩

/-- With a node that refuses every call, the survey of the gas attempts to discover the matches, which
fails, and prints a document that keeps no failure. -/
theorem gas_document_without_discovery :
    let missing : String -> Except String String := fun path => .error path
    let arguments : Arguments := .loopback true .gas
    let reader : Reader := ⟨.embedded, .precompile⟩
    let run := (execution (fun _ => none) missing arguments).run Node.refusing ()
    let estimates := Defaults.initial.operations.map fun op => OperationResult.mk op (.ok 21000)
    let document := Json.list (OperationResult.json .uint64) estimates
    lines run.notes = [.document document] ∧ document.failures = [] ∧
    exists chain ids failures probeLog log s₁ s',
      Runs Node.refusing () Reader.probe (.ok chain) probeLog s₁ ∧
      run.exchanges = probeLog ++ log ∧
      Attempts reader Node.refusing s₁ (Command.attempts loopbackSettings.iterations ids [] .gas)
        failures log s' ∧
      (.read .getUnfinishedMatches, .lookup "getUnfinishedMatches" none
        "(code: -32000, message: execution reverted, data: None)") ∈ failures := by
  intro missing arguments reader run estimates document
  have hsettings : Resolves missing arguments loopbackSettings := resolves_loopback _ _ _
  have hbuilds : Builds missing loopbackSettings .loopback reader := builds_loopback _
  have hprobe : Runs Node.refusing () Reader.probe (.ok ⟨9000, 1234⟩) _ () :=
    ⟨rfl, rfl, rfl⟩
  have hgather : Runs Node.refusing ()
      (Command.gather (context arguments loopbackSettings) reader ⟨9000, 1234⟩ .gas)
      (.gas estimates) _ () :=
    ⟨rfl, rfl, rfl⟩
  have hcommand := Runs.self Node.refusing ()
    (Command.execute (context arguments loopbackSettings) (.ok reader) .gas)
  have hrun : Runs Node.refusing () (execution (fun _ => none) missing arguments) _ _ _ :=
    runs_execution_of_builds hsettings hbuilds hcommand
  rcases Command.execute_cases hcommand with ⟨probed, probeLog, log, s₁, hprobed, hlog, hrest⟩
  rcases hprobe.unique hprobed with ⟨rfl, rfl, rfl⟩
  rcases hrest with ⟨report, -, hgather'⟩
  rcases hgather.unique hgather' with ⟨rfl, -, -⟩
  rcases Command.tells_gather hgather' with ⟨ids, s', texts, ⟨failures, hattempts, -⟩, -⟩
  refine ⟨lines_execution_json _ hsettings hbuilds rfl hprobe hgather,
    Survey.failures_json _ (fun _ => rfl) estimates, _, ids, failures, _, _, _, s', hprobe,
    hrun.exchanges.trans hlog, hattempts, ?_⟩
  have hdiscovery :
      (((Attempt.read .getUnfinishedMatches).make reader).run Node.refusing ()).value =
        some (.lookup "getUnfinishedMatches" none
          "(code: -32000, message: execution reverted, data: None)") :=
    rfl
  cases hattempts with
  | cons hfirst hrest =>
      rw [← hfirst.value, hdiscovery]
      exact List.mem_cons_self

end Program

end FixtureProbe
