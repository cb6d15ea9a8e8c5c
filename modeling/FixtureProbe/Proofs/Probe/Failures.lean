import FixtureProbe.Proofs.Probe.Suite

/-!
# What failures name

A call can fail in many places: it does not fit the interface, the node refuses it, the answer does
not decode, or a field of it is not what it should be. Wherever it fails, the failure names the call
with its argument, and the same holds of everything that a run or a walk records. Such failures are
never fatal. The remaining kind, a function that is missing, cannot arise either, since an interface comes
with the functions of the four calls.
-/

namespace FixtureProbe

open Dialogue

variable {α β σ : Type}

/-!
# Failures of a call
-/

/-- If there is a failure, it is one of the call. -/
def Outcome.NamesCall (op : Operation) (outcome : Outcome α) : Prop :=
  forall e, outcome = .error e -> exists reason, e = .lookup op.name op.argument reason

namespace Outcome.NamesCall

variable {op : Operation}

protected theorem ok (a : α) : NamesCall op (.ok a) := by
  intro e he
  cases he

protected theorem error (reason : String) :
    NamesCall op (.error (.ofOperation op reason) : Outcome α) := by
  intro e he
  cases he
  exact ⟨reason, rfl⟩

/-- What a failure names does not depend on the value that it stands for. -/
theorem of_error {e : ProbeError} (h : NamesCall op (.error e : Outcome α)) :
    NamesCall op (.error e : Outcome β) := by
  intro e' he
  cases he
  exact h e rfl

theorem mapError {ε : Type} (result : Except ε α) (reason : ε -> String) :
    NamesCall op (result.mapError fun e => .ofOperation op (reason e)) := by
  cases result with
  | ok a => exact .ok a
  | error e => exact .error (reason e)

protected theorem bind {outcome : Outcome α} {f : α -> Outcome β} (h : NamesCall op outcome)
    (hf : forall a, NamesCall op (f a)) : NamesCall op (outcome >>= f) := by
  cases outcome with
  | ok a => exact hf a
  | error e => exact of_error h

protected theorem map {outcome : Outcome α} (f : α -> β) (h : NamesCall op outcome) :
    NamesCall op (outcome.map f) := by
  cases outcome with
  | ok a => exact .ok (f a)
  | error e => exact of_error h

end Outcome.NamesCall

/-!
# Interfaces
-/

namespace Interface

theorem encode_namesCall (interface : Interface) (op : Operation) :
    Outcome.NamesCall op (interface.encode op) := by
  rw [encode_eq]
  exact .mapError _ _

theorem decodeAnswer_namesCall (interface : Interface) (op : Operation)
    (read : List Abi.Token -> Except ReadError α) (data : Bytes) :
    Outcome.NamesCall op (interface.decodeAnswer op read data) := by
  rw [decodeAnswer_eq]
  exact .mapError _ _

end Interface

/-!
# Operations of a reader
-/

namespace Reader

variable (reader : Reader)

theorem settle_gives (op : Operation) (reply : Except String α) :
    (settle op reply).Gives (Outcome.NamesCall op) := by
  cases reply with
  | ok value => exact .pure (.ok value)
  | error reason => exact .of_rest fun _ => .pure (.error reason)

/-- A call that does not fit the interface fails as the call, so only what is done with its call data
can fail otherwise. -/
theorem encoded_gives (op : Operation) {f : Bytes -> Dialogue Log.Record (Outcome α)}
    (hf : forall calldata, (f calldata).Gives (Outcome.NamesCall op)) :
    Gives (match reader.interface.encode op with
      | .error e => return .error e
      | .ok calldata => f calldata) (Outcome.NamesCall op) := by
  have hencode := reader.interface.encode_namesCall op
  split
  · next e he =>
    rw [he] at hencode
    exact .pure (Outcome.NamesCall.of_error hencode)
  · next calldata he => exact hf calldata

theorem call_gives (op : Operation) : (reader.call op).Gives (Outcome.NamesCall op) := by
  apply reader.encoded_gives op
  intro calldata
  apply Gives.of_rest
  intro _
  apply Gives.of_rest
  intro reply
  exact settle_gives op reply

theorem read_gives {op : Operation} {decode : Bytes -> Except ProbeError α}
    (hdecode : forall data, Outcome.NamesCall op (decode data)) :
    (reader.read op decode).Gives (Outcome.NamesCall op) :=
  (reader.call_gives op).bind fun _ hcall => .pure (hcall.bind hdecode)

theorem readMatch_gives (id : UInt64) :
    (reader.readMatch id).Gives (Outcome.NamesCall (.getMatch id)) :=
  reader.read_gives (reader.interface.decodeAnswer_namesCall _ _)

theorem readLeague_gives (id : UInt64) :
    (reader.readLeague id).Gives (Outcome.NamesCall (.getLeague id)) :=
  reader.read_gives (reader.interface.decodeAnswer_namesCall _ _)

theorem readTeam_gives (id : UInt64) :
    (reader.readTeam id).Gives (Outcome.NamesCall (.getTeam id)) :=
  reader.read_gives (reader.interface.decodeAnswer_namesCall _ _)

theorem readUnfinished_gives :
    reader.readUnfinished.Gives (Outcome.NamesCall .getUnfinishedMatches) :=
  reader.read_gives (reader.interface.decodeAnswer_namesCall _ _)

theorem invoke_gives (op : Operation) : (reader.invoke op).Gives (Outcome.NamesCall op) := by
  cases op with
  | getMatch id => exact (reader.readMatch_gives id).map fun _ h => h.map _
  | getLeague id => exact (reader.readLeague_gives id).map fun _ h => h.map _
  | getTeam id => exact (reader.readTeam_gives id).map fun _ h => h.map _
  | getUnfinishedMatches => exact reader.readUnfinished_gives.map fun _ h => h.map _

theorem estimateGas_gives (op : Operation) :
    (reader.estimateGas op).Gives (Outcome.NamesCall op) := by
  apply reader.encoded_gives op
  intro calldata
  apply Gives.of_rest
  intro reply
  exact (settle_gives op reply).bind fun _ h => .pure (h.map _)

theorem rawCall_gives (op : Operation) : (reader.rawCall op).Gives (Outcome.NamesCall op) := by
  apply reader.encoded_gives op
  intro calldata
  apply Gives.of_rest
  intro reply
  exact (settle_gives op reply).bind fun _ h => .pure (h.map _)

/-- A failure to read the account names the method that failed. -/
theorem accountInfo_gives :
    reader.accountInfo.Gives fun outcome => forall e, outcome = .error e ->
      exists method reason, method ∈ ["eth_getCode", "eth_getBalance"] ∧
        e = .lookup method none reason := by
  apply Gives.of_rest
  intro code
  cases code with
  | error reason =>
      apply Gives.pure
      intro e he
      cases he
      exact ⟨"eth_getCode", reason, by simp, rfl⟩
  | ok code =>
      apply Gives.of_rest
      intro balance
      cases balance with
      | error reason =>
          apply Gives.pure
          intro e he
          cases he
          exact ⟨"eth_getBalance", reason, by simp, rfl⟩
      | ok balance =>
          apply Gives.pure
          intro e he
          cases he

end Reader

/-!
# Surveys
-/

theorem Latency.attempt_gives (label : String) (iteration : Nat)
    {op : Dialogue Log.Record (Except String α)} {P : String -> Prop}
    (hop : op.Gives fun outcome => forall text, outcome = .error text -> P text) :
    (attempt label iteration op).Gives fun outcome =>
      forall failure, outcome = .error failure -> P failure.error := by
  apply Gives.of_rest
  intro start
  apply hop.bind
  intro outcome houtcome
  cases outcome with
  | ok value =>
      refine Gives.of_rest fun stop => Gives.pure ?_
      intro failure hfailure
      cases hfailure
  | error text =>
      refine Gives.of_rest fun _ => Gives.pure ?_
      intro failure hfailure
      cases hfailure
      exact houtcome text rfl

theorem Latency.attempts_gives (label : String) {op : Dialogue Log.Record (Except String α)}
    {P : String -> Prop}
    (hop : op.Gives fun outcome => forall text, outcome = .error text -> P text)
    (count iteration : Nat) :
    (attempts label op count iteration).Gives fun outcomes =>
      forall failure, failure ∈ failures outcomes -> P failure.error := by
  induction count generalizing iteration with
  | zero =>
      apply Gives.pure
      intro failure hfailure
      cases hfailure
  | succ count ih =>
      apply (attempt_gives label iteration hop).bind
      intro first hfirst
      apply (ih (iteration + 1)).bind
      intro others hothers
      apply Gives.pure
      cases first with
      | ok duration => exact hothers
      | error failure =>
          intro other hother
          rcases List.mem_cons.mp hother with rfl | hother
          · exact hfirst _ rfl
          · exact hothers other hother

namespace Survey

theorem readCurrentMatch_gives (reader : Reader) (defaults : Defaults) :
    (readCurrentMatch reader defaults).Gives fun read =>
      Outcome.NamesCall (.getMatch defaults.matchId) read.1 ∧
        read.2.matchId = defaults.matchId := by
  apply (reader.readMatch_gives defaults.matchId).bind
  intro fixture hfixture
  cases fixture with
  | ok m => exact .pure ⟨hfixture, rfl⟩
  | error e => exact .pure ⟨hfixture, rfl⟩

/-- What holds of every single result holds of the results of a survey, one for each call. -/
theorem each_gives {act : Operation -> Dialogue Log.Record α} {P : Operation -> α -> Prop}
    (hact : forall op, (act op).Gives (P op)) (ops : List Operation) :
    (each act ops).Gives (List.Forall₂ P ops) := by
  induction ops with
  | nil => exact .pure .nil
  | cons op ops ih =>
      apply (hact op).bind
      intro first hfirst
      apply ih.bind
      intro others hothers
      exact .pure (.cons hfirst hothers)

theorem exists_of_mem_results {P : Operation -> α -> Prop} {ops : List Operation} {results : List α}
    (h : List.Forall₂ P ops results) {result : α} (hresult : result ∈ results) :
    exists op, P op result := by
  induction h with
  | nil => cases hresult
  | cons hfirst hothers ih =>
      rcases List.mem_cons.mp hresult with rfl | hresult
      · exact ⟨_, hfirst⟩
      · exact ih hresult

/-- A result is recorded under its call, and a failure in it is one of that call. -/
def Named (op : Operation) (recorded : OperationResult α) : Prop :=
  recorded.operation = op ∧ recorded.result.NamesCall op

theorem record_gives {act : Operation -> Dialogue Log.Record (Outcome α)} {op : Operation}
    (hact : (act op).Gives (Outcome.NamesCall op)) : (record act op).Gives (Named op) :=
  hact.bind fun _ h => .pure ⟨rfl, h⟩

theorem gas_gives (reader : Reader) (defaults : Defaults) :
    (gas reader defaults).Gives (List.Forall₂ Named defaults.operations) :=
  each_gives (fun op => record_gives (reader.estimateGas_gives op)) _

theorem rawCalls_gives (reader : Reader) (defaults : Defaults) :
    (rawCalls reader defaults).Gives (List.Forall₂ Named defaults.operations) :=
  each_gives (fun op => record_gives (reader.rawCall_gives op)) _

/-- A report on the latency of a call has its label, and every failure in it is the text of one of
that call. -/
def TextsNamed (op : Operation) (report : LatencyReport) : Prop :=
  report.label = op.text ∧ forall failure, failure ∈ report.failures -> exists reason,
    failure.error = (ProbeError.lookup op.name op.argument reason).message

theorem timed_gives (reader : Reader) (op : Operation) :
    (timed reader op).Gives fun outcome => forall text, outcome = .error text -> exists reason,
      text = (ProbeError.lookup op.name op.argument reason).message := by
  apply (reader.invoke_gives op).bind
  intro outcome houtcome
  apply Gives.pure
  intro text htext
  cases outcome with
  | ok _ => cases htext
  | error e =>
      rcases houtcome e rfl with ⟨reason, rfl⟩
      cases htext
      exact ⟨reason, rfl⟩

theorem latency_gives (reader : Reader) (defaults : Defaults) (iterations : UInt32) :
    (latency reader defaults iterations).Gives (List.Forall₂ TextsNamed defaults.operations) := by
  apply each_gives
  intro op
  apply (Latency.attempts_gives op.text (timed_gives reader op) iterations.toNat 1).bind
  intro outcomes houtcomes
  exact .pure ⟨rfl, houtcomes⟩

end Survey

/-!
# Traces
-/

/-- If a step has failed, its failure is one of the call. -/
def Step.NamesCall (op : Operation) (step : Step α) : Prop :=
  forall e, step = .failed e -> exists reason, e = .lookup op.name op.argument reason

theorem Step.namesCall_ofOutcome {op : Operation} {outcome : Outcome α}
    (h : outcome.NamesCall op) : (ofOutcome outcome).NamesCall op := by
  cases outcome with
  | ok value =>
      intro e he
      cases he
  | error e =>
      intro e' he
      cases he
      exact h e rfl

theorem Step.namesCall_skipped (op : Operation) (reason : SkipReason) :
    NamesCall op (.skipped reason : Step α) := by
  intro e he
  cases he

/-- If a step has failed, its match was read, and the failure is one of the call that follows from
the match. -/
def MatchTrace.Follows (trace : MatchTrace) (call : Match -> Operation) (step : Step α) : Prop :=
  forall e, step = .failed e -> exists m, trace.fixture = .fetched m ∧
    exists reason, e = .lookup (call m).name (call m).argument reason

namespace MatchTrace

theorem Follows.skipped (trace : MatchTrace) (call : Match -> Operation) (reason : SkipReason) :
    trace.Follows call (.skipped reason : Step α) := by
  intro e he
  cases he

theorem Follows.of_fetched {trace : MatchTrace} {call : Match -> Operation} {step : Step α}
    {m : Match} (hfixture : trace.fixture = .fetched m) (h : step.NamesCall (call m)) :
    trace.Follows call step :=
  fun e he => ⟨m, hfixture, h e he⟩

end MatchTrace

/-- A failure of the match names the id of the trace, and every other failure names the id that the
match holds. -/
structure MatchTrace.Named (trace : MatchTrace) : Prop where
  fixture : trace.fixture.NamesCall (.getMatch trace.matchId)
  league : trace.Follows (fun m => .getLeague m.leagueId) trace.league
  homeTeam : trace.Follows (fun m => .getTeam m.homeId) trace.homeTeam
  awayTeam : trace.Follows (fun m => .getTeam m.awayId) trace.awayTeam

namespace Walk

theorem attempt_gives {matchId : UInt64} {what : String} {target : Except SkipReason UInt64}
    {lookup : UInt64 -> Dialogue Log.Record (Outcome α)} {op : Operation}
    (hlookup : forall id, target = .ok id -> (lookup id).Gives (Outcome.NamesCall op)) :
    (attempt matchId what target lookup).Gives (Step.NamesCall op) := by
  cases target with
  | ok id => exact (hlookup id rfl).map fun _ => Step.namesCall_ofOutcome
  | error reason => exact .of_rest fun _ => .pure (Step.namesCall_skipped op reason)

theorem eq_of_target {id target : UInt64} (h : Walk.target id = .ok target) : target = id := by
  unfold Walk.target at h
  split at h
  · cases h
  · cases h
    rfl

theorem eq_of_awayTarget {m : Match} {target : UInt64} (h : m.awayTarget = .ok target) :
    target = m.awayId := by
  unfold Match.awayTarget at h
  split at h
  · cases h
  · split at h
    · cases h
    · cases h
      rfl

theorem trace_gives (reader : Reader) (matchId : UInt64) :
    (trace reader matchId).Gives fun trace => trace.matchId = matchId ∧ trace.Named := by
  apply (reader.readMatch_gives matchId).bind
  intro outcome houtcome
  cases outcome with
  | error e =>
      exact .pure ⟨rfl, Step.namesCall_ofOutcome houtcome, .skipped _ _ _, .skipped _ _ _,
        .skipped _ _ _⟩
  | ok m =>
      dsimp only
      rw [Match.league, follow_eq, Match.homeTeam, follow_eq, followAway_eq]
      have hleague : (attempt matchId "league" (target m.leagueId) reader.readLeague).Gives
          (Step.NamesCall (.getLeague m.leagueId)) :=
        attempt_gives fun id hid => eq_of_target hid ▸ reader.readLeague_gives m.leagueId
      have hhome : (attempt matchId "home team" (target m.homeId) reader.readTeam).Gives
          (Step.NamesCall (.getTeam m.homeId)) :=
        attempt_gives fun id hid => eq_of_target hid ▸ reader.readTeam_gives m.homeId
      have haway : (attempt matchId "away team" m.awayTarget reader.readTeam).Gives
          (Step.NamesCall (.getTeam m.awayId)) :=
        attempt_gives fun id hid => eq_of_awayTarget hid ▸ reader.readTeam_gives m.awayId
      apply hleague.bind
      intro league hleague
      apply hhome.bind
      intro homeTeam hhome
      apply haway.bind
      intro awayTeam haway
      exact .pure ⟨rfl, Step.namesCall_ofOutcome houtcome, .of_fetched rfl hleague,
        .of_fetched rfl hhome, .of_fetched rfl haway⟩

theorem traces_gives (reader : Reader) (ids : List UInt64) :
    (traces reader ids).Gives fun traces => forall trace, trace ∈ traces -> trace.Named := by
  induction ids with
  | nil =>
      apply Gives.pure
      intro trace htrace
      cases htrace
  | cons id ids ih =>
      apply (trace_gives reader id).bind
      intro first hfirst
      apply ih.bind
      intro others hothers
      apply Gives.pure
      intro trace htrace
      rcases List.mem_cons.mp htrace with rfl | htrace
      · exact hfirst.2
      · exact hothers trace htrace

theorem run_gives (reader : Reader) (ids : List UInt64) :
    (run reader ids).Gives fun report => forall trace, trace ∈ report.traces -> trace.Named :=
  .of_rest fun _ => (traces_gives reader ids).bind fun _ h => .pure h

end Walk

/-!
# Recorded failures
-/

/-- The failure that stands in the place of a value. -/
def Outcome.error? : Outcome α -> Option ProbeError
  | .ok _ => none
  | .error e => some e

/-- The failure of a step. -/
def Step.error? : Step α -> Option ProbeError
  | .failed e => some e
  | _ => none

/-- The failures that a trace records. -/
def MatchTrace.errors (trace : MatchTrace) : List ProbeError :=
  [trace.fixture.error?, trace.league.error?, trace.homeTeam.error?,
    trace.awayTeam.error?].filterMap id

/-- The failures that a run records; those of the latency phase are recorded by their text only. -/
def SuiteReport.errors (report : SuiteReport) : List ProbeError :=
  [Outcome.error? report.debugInfo, Outcome.error? report.discovery,
    Outcome.error? report.fixture, Outcome.error? report.league,
    Outcome.error? report.team].filterMap id ++
  report.gas.filterMap (Outcome.error? ·.result) ++
  report.rawCalls.filterMap (Outcome.error? ·.result) ++
  report.crossReference.traces.flatMap MatchTrace.errors

theorem Outcome.error?_map (outcome : Outcome α) (f : α -> β) :
    error? (outcome.map f) = outcome.error? := by
  cases outcome with
  | ok a => rfl
  | error e => rfl

theorem Outcome.error?_eq_some {outcome : Outcome α} {e : ProbeError}
    (h : outcome.error? = some e) : outcome = .error e := by
  cases outcome with
  | ok a => cases h
  | error e' =>
      cases h
      rfl

theorem Step.error?_eq_some {step : Step α} {e : ProbeError} (h : step.error? = some e) :
    step = .failed e := by
  cases step with
  | failed e' =>
      cases h
      rfl
  | fetched a => cases h
  | skipped reason => cases h

theorem Outcome.NamesCall.isFatal_eq_false {op : Operation} {outcome : Outcome α} {e : ProbeError}
    (h : outcome.NamesCall op) (he : outcome.error? = some e) : e.isFatal = false := by
  rcases h e (error?_eq_some he) with ⟨reason, rfl⟩
  rfl

theorem MatchTrace.Follows.isFatal_eq_false {trace : MatchTrace} {call : Match -> Operation}
    {step : Step α} {e : ProbeError} (h : trace.Follows call step) (he : step.error? = some e) :
    e.isFatal = false := by
  rcases h e (Step.error?_eq_some he) with ⟨m, -, reason, rfl⟩
  rfl

theorem MatchTrace.Named.isFatal_eq_false {trace : MatchTrace} (h : trace.Named)
    {e : ProbeError} (he : e ∈ trace.errors) : e.isFatal = false := by
  simp only [errors, List.mem_filterMap, List.mem_cons, List.not_mem_nil, or_false, id_eq,
    or_and_right, exists_or, exists_eq_left] at he
  rcases he with he | he | he | he
  · rcases h.fixture e (Step.error?_eq_some he) with ⟨reason, rfl⟩
    rfl
  · exact h.league.isFatal_eq_false he
  · exact h.homeTeam.isFatal_eq_false he
  · exact h.awayTeam.isFatal_eq_false he

/-- Every failure in a report names the call, or the method of the node, that failed. -/
structure SuiteReport.Named (report : SuiteReport) : Prop where
  debugInfo : forall e, report.debugInfo = .error e ->
    exists method reason, method ∈ ["eth_getCode", "eth_getBalance"] ∧
      e = .lookup method none reason
  discovery : report.discovery.NamesCall .getUnfinishedMatches
  fixture : report.fixture.NamesCall (.getMatch report.defaults.matchId)
  league : report.league.NamesCall (.getLeague report.defaults.leagueId)
  team : report.team.NamesCall (.getTeam report.defaults.teamId)
  gas : List.Forall₂ Survey.Named report.defaults.operations report.gas
  rawCalls : List.Forall₂ Survey.Named report.defaults.operations report.rawCalls
  latency : List.Forall₂ Survey.TextsNamed report.defaults.operations report.latency
  traces : forall trace, trace ∈ report.crossReference.traces -> trace.Named

theorem Survey.isFatal_eq_false {ops : List Operation} {results : List (OperationResult α)}
    (h : List.Forall₂ Survey.Named ops results) {result : OperationResult α} {e : ProbeError}
    (hresult : result ∈ results) (he : result.result.error? = some e) : e.isFatal = false := by
  rcases exists_of_mem_results h hresult with ⟨op, hnamed⟩
  exact hnamed.2.isFatal_eq_false he

theorem SuiteReport.Named.isFatal_eq_false {report : SuiteReport} (h : report.Named)
    {e : ProbeError} (he : e ∈ report.errors) : e.isFatal = false := by
  simp only [errors, List.mem_append, List.mem_filterMap, List.mem_cons, List.not_mem_nil,
    or_false, id_eq, or_and_right, exists_or, exists_eq_left, List.mem_flatMap] at he
  rcases he with (((he | he | he | he | he) | he) | he) | he
  · rcases h.debugInfo e (Outcome.error?_eq_some he) with ⟨method, reason, -, rfl⟩
    rfl
  · exact h.discovery.isFatal_eq_false he
  · exact h.fixture.isFatal_eq_false he
  · exact h.league.isFatal_eq_false he
  · exact h.team.isFatal_eq_false he
  · rcases he with ⟨result, hresult, he⟩
    exact Survey.isFatal_eq_false h.gas hresult he
  · rcases he with ⟨result, hresult, he⟩
    exact Survey.isFatal_eq_false h.rawCalls hresult he
  · rcases he with ⟨trace, htrace, he⟩
    exact (h.traces trace htrace).isFatal_eq_false he

/-!
# Runs
-/

theorem Suite.named_of_surveys {reader : Reader} {options : SuiteOptions} {node : Node σ} {s : σ}
    {report : SuiteReport} {log : List Exchange} (h : Surveys reader options node s report log) :
    report.Named := by
  rcases h with
    ⟨haccount, hdiscovery, hfixture, hleague, hteam, hgas, hrawCalls, hlatency, hwalk⟩
  have hread := (Survey.readCurrentMatch_gives reader _).of_runs hfixture
  constructor
  · exact reader.accountInfo_gives.of_runs haccount
  · exact reader.readUnfinished_gives.of_runs hdiscovery
  · rw [hread.2]
    exact hread.1
  · exact (reader.readLeague_gives _).of_runs hleague
  · exact (reader.readTeam_gives _).of_runs hteam
  · exact (Survey.gas_gives reader _).of_runs hgas
  · exact (Survey.rawCalls_gives reader _).of_runs hrawCalls
  · exact (Survey.latency_gives reader _ _).of_runs hlatency
  · exact (Walk.run_gives reader _).of_runs hwalk

/-- Whatever a run is told, its report names the call of every failure in it. -/
theorem Suite.run_gives (reader : Reader) (options : SuiteOptions) :
    (Suite.run reader options).Gives fun outcome =>
      forall report, outcome = .ok report -> report.Named := by
  constructor
  intro σ node s s' outcome log hrun report hreport
  rcases run_cases hrun with ⟨probed, probeLog, restLog, s₁, -, -, hrest⟩
  cases probed with
  | error e =>
      rw [hrest.1] at hreport
      cases hreport
  | ok chain =>
      rcases hrest with ⟨surveyed, houtcome, hsurvey⟩
      rw [houtcome] at hreport
      cases hreport
      exact named_of_surveys (surveys_of_survey hsurvey).2.2

/-- No function of a call is missing from an interface, and whatever the node does, every failure of an
operation names the call that failed. So nothing that a run or a walk records is fatal, and a match that
could not be read is named by the id of its trace. -/
theorem Reader.failures_name_calls (reader : Reader) (node : Node σ) (s : σ) :
    (forall op : Operation,
      reader.interface.lookup op.name = .ok (reader.interface.function op)) ∧
    (forall id, Outcome.NamesCall (.getMatch id) ((reader.readMatch id).run node s).value) ∧
    (forall id, Outcome.NamesCall (.getLeague id) ((reader.readLeague id).run node s).value) ∧
    (forall id, Outcome.NamesCall (.getTeam id) ((reader.readTeam id).run node s).value) ∧
    Outcome.NamesCall .getUnfinishedMatches (reader.readUnfinished.run node s).value ∧
    (forall op, Outcome.NamesCall op ((reader.invoke op).run node s).value) ∧
    (forall op, Outcome.NamesCall op ((reader.estimateGas op).run node s).value) ∧
    (forall op, Outcome.NamesCall op ((reader.rawCall op).run node s).value) ∧
    (forall e, (reader.accountInfo.run node s).value = .error e ->
      exists method reason, method ∈ ["eth_getCode", "eth_getBalance"] ∧
        e = .lookup method none reason) ∧
    (forall options report, ((Suite.run reader options).run node s).value = .ok report ->
      report.Named ∧ forall e, e ∈ report.errors -> e.isFatal = false) ∧
    (forall ids trace, trace ∈ ((Walk.run reader ids).run node s).value.traces ->
      trace.Named ∧ forall e, e ∈ trace.errors -> e.isFatal = false) := by
  refine ⟨reader.interface.lookup_name, ?_, ?_, ?_, ?_, ?_, ?_, ?_, ?_, ?_, ?_⟩
  · intro id
    exact (reader.readMatch_gives id).value node s
  · intro id
    exact (reader.readLeague_gives id).value node s
  · intro id
    exact (reader.readTeam_gives id).value node s
  · exact reader.readUnfinished_gives.value node s
  · intro op
    exact (reader.invoke_gives op).value node s
  · intro op
    exact (reader.estimateGas_gives op).value node s
  · intro op
    exact (reader.rawCall_gives op).value node s
  · exact reader.accountInfo_gives.value node s
  · intro options report hreport
    have hnamed := (Suite.run_gives reader options).value node s report hreport
    exact ⟨hnamed, fun e he => hnamed.isFatal_eq_false he⟩
  · intro ids trace htrace
    have hnamed := (Walk.run_gives reader ids).value node s trace htrace
    exact ⟨hnamed, fun e he => hnamed.isFatal_eq_false he⟩

/-- The record of a match does not decode as one of a league, and the node is too busy for its third
request. -/
theorem Reader.failures_name_calls_flaky :
    let reader : Reader := ⟨Interface.embedded, ⟨0x0fff⟩⟩
    ((reader.readLeague 4).run Node.flaky 0).value =
      .error (.lookup "getLeague" (some 4) "decode: Invalid data") ∧
    Outcome.NamesCall (.getLeague 4) ((reader.readLeague 4).run Node.flaky 0).value ∧
    ((reader.estimateGas (.getTeam 3)).run Node.flaky 2).value =
      .error (.lookup "getTeam" (some 3) "busy") ∧
    Outcome.NamesCall (.getTeam 3) ((reader.estimateGas (.getTeam 3)).run Node.flaky 2).value :=
  have h := failures_name_calls ⟨Interface.embedded, ⟨0x0fff⟩⟩ Node.flaky
  ⟨by decide +kernel, (h 0).2.2.1 4, by decide +kernel, (h 2).2.2.2.2.2.2.1 (.getTeam 3)⟩

end FixtureProbe
