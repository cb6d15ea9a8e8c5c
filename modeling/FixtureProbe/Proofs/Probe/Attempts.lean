import FixtureProbe.Proofs.Probe.Accounting
import FixtureProbe.Proofs.Probe.Timeline

/-!
# What is attempted, and what fails

A command is a sequence of attempts: the account is looked at, calls are made and decoded, costed, left
undecoded or timed. An attempt either comes through or fails once, with a failure that names it; what
was attempted before has no part in that but through the state of the node. This module states the
attempts of every phase, in order, and ties their failures to what the phase records.
-/

namespace FixtureProbe

open Dialogue

variable {α β σ : Type}

/-!
# Attempts
-/

/-- Something that is attempted, and that comes through or fails as a whole. -/
inductive Attempt where
  /-- To look at the code and the balance of the account. -/
  | account
  /-- To make a call and decode the answer. -/
  | read (op : Operation)
  /-- To learn what a call would cost. -/
  | gas (op : Operation)
  /-- To make a call and leave the answer as it is. -/
  | raw (op : Operation)
  /-- To make a call and decode the answer against the clock. -/
  | timed (op : Operation)

namespace Attempt

/-- Makes an attempt, and tells the failure if there is one. -/
def make (reader : Reader) : Attempt -> Dialogue Log.Record (Option ProbeError)
  | .account => Outcome.error? <$> reader.accountInfo
  | .read op => Outcome.error? <$> reader.invoke op
  | .gas op => Outcome.error? <$> reader.estimateGas op
  | .raw op => Outcome.error? <$> reader.rawCall op
  | .timed op => do
      let _ ← now
      match ← reader.invoke op with
      | .ok _ =>
          let _ ← now
          return none
      | .error e => return some e

/-- What a failed attempt is named by: its call, or one of the methods of the node. -/
def names : Attempt -> List String
  | .account => ["eth_getCode()", "eth_getBalance()"]
  | .read op | .gas op | .raw op | .timed op => [op.text]

/-- What an attempt looks up: a function with its argument, or the methods of the node. -/
def lookups : Attempt -> List (String × Option UInt64)
  | .account => [("eth_getCode", none), ("eth_getBalance", none)]
  | .read op | .gas op | .raw op | .timed op => [(op.name, op.argument)]

/-- Whether the attempt is one against the clock. -/
def isTimed : Attempt -> Bool
  | .timed _ => true
  | _ => false

end Attempt

/-- The text of a failure, if there is one. -/
def ProbeError.texts (error : Option ProbeError) : List String :=
  (error.map message).toList

/-- Attempts made one after another, each from the state in which the one before leaves the node. Of
these the failed ones are listed with their failures; and everything is listed that is exchanged. -/
inductive Attempts (reader : Reader) (node : Node σ) :
    σ -> List Attempt -> List (Attempt × ProbeError) -> List Exchange -> σ -> Prop where
  | nil (s : σ) : Attempts reader node s [] [] [] s
  | cons {s s₁ s' : σ} {attempt : Attempt} {attempts : List Attempt} {error : Option ProbeError}
      {failures : List (Attempt × ProbeError)} {first rest : List Exchange}
      (hfirst : Runs node s (attempt.make reader) error first s₁)
      (hrest : Attempts reader node s₁ attempts failures rest s') :
      Attempts reader node s (attempt :: attempts)
        (error.toList.map (fun e => (attempt, e)) ++ failures) (first ++ rest) s'

namespace Attempts

variable {reader : Reader} {node : Node σ} {s s₁ s' : σ} {attempts others : List Attempt}
  {failures more : List (Attempt × ProbeError)} {log rest : List Exchange}

theorem append (h : Attempts reader node s attempts failures log s₁)
    (h' : Attempts reader node s₁ others more rest s') :
    Attempts reader node s (attempts ++ others) (failures ++ more) (log ++ rest) s' := by
  induction h with
  | nil s => exact h'
  | cons hfirst hrest ih =>
      rw [List.append_assoc, List.append_assoc]
      exact .cons hfirst (ih h')

end Attempts

/-!
# Failures name their attempts
-/

namespace Attempt

/-- A failure says which attempt has failed, and why. -/
def NamedBy (attempt : Attempt) (e : ProbeError) : Prop :=
  exists name, name ∈ attempt.names ∧ exists reason, e.message = name ++ " failed: " ++ reason

/-- A failure is one of what the attempt looks up. -/
def FailsAs (attempt : Attempt) (e : ProbeError) : Prop :=
  exists looked, looked ∈ attempt.lookups ∧ exists reason, e = .lookup looked.1 looked.2 reason

theorem message_lookup (operation : String) (argument : Option UInt64) (reason : String) :
    (ProbeError.lookup operation argument reason).message =
      operation ++ "(" ++ Operation.argumentText argument ++ ")" ++ " failed: " ++ reason := by
  have hjoined : ")" ++ " failed: " = ") failed: " := by decide +kernel
  change operation ++ "(" ++ Operation.argumentText argument ++ ") failed: " ++ reason = _
  rw [← hjoined, ← String.append_assoc]

theorem names_eq_map_lookups (attempt : Attempt) :
    attempt.names = attempt.lookups.map fun looked =>
      looked.1 ++ "(" ++ Operation.argumentText looked.2 ++ ")" := by
  cases attempt with
  | account => decide +kernel
  | _ => rfl

theorem FailsAs.namedBy {attempt : Attempt} {e : ProbeError} (h : attempt.FailsAs e) :
    attempt.NamedBy e := by
  rcases h with ⟨looked, hlooked, reason, rfl⟩
  refine ⟨looked.1 ++ "(" ++ Operation.argumentText looked.2 ++ ")", ?_, reason,
    message_lookup looked.1 looked.2 reason⟩
  rw [names_eq_map_lookups]
  exact List.mem_map_of_mem hlooked

theorem failsAs_of_namesCall {attempt : Attempt} {op : Operation}
    (hlookups : attempt.lookups = [(op.name, op.argument)]) {outcome : Outcome α}
    (h : outcome.NamesCall op) {e : ProbeError} (he : outcome.error? = some e) :
    attempt.FailsAs e := by
  rcases h e (Outcome.error?_eq_some he) with ⟨reason, rfl⟩
  refine ⟨(op.name, op.argument), ?_, reason, rfl⟩
  rw [hlookups]
  exact List.mem_singleton_self _

/-- Whatever an attempt is told, its failure is one of what it looks up. -/
theorem make_gives (reader : Reader) (attempt : Attempt) :
    (attempt.make reader).Gives fun error => forall e, error = some e -> attempt.FailsAs e := by
  cases attempt with
  | account =>
      apply reader.accountInfo_gives.map
      intro outcome houtcome e he
      rcases houtcome e (Outcome.error?_eq_some he) with ⟨method, reason, hmethod, rfl⟩
      refine ⟨(method, none), ?_, reason, rfl⟩
      simp only [List.mem_cons, List.not_mem_nil, or_false] at hmethod
      rcases hmethod with rfl | rfl
      · exact List.mem_cons_self
      · exact List.mem_cons_of_mem _ List.mem_cons_self
  | read op => exact (reader.invoke_gives op).map fun _ h _ he => failsAs_of_namesCall rfl h he
  | gas op => exact (reader.estimateGas_gives op).map fun _ h _ he => failsAs_of_namesCall rfl h he
  | raw op => exact (reader.rawCall_gives op).map fun _ h _ he => failsAs_of_namesCall rfl h he
  | timed op =>
      apply Gives.of_rest
      intro start
      apply (reader.invoke_gives op).bind
      intro outcome houtcome
      cases outcome with
      | ok value =>
          refine Gives.of_rest fun stop => Gives.pure ?_
          intro e he
          cases he
      | error failure =>
          apply Gives.pure
          rintro e ⟨⟩
          exact failsAs_of_namesCall rfl houtcome rfl

end Attempt

theorem Attempts.failsAs {reader : Reader} {node : Node σ} {s s' : σ} {attempts : List Attempt}
    {failures : List (Attempt × ProbeError)} {log : List Exchange}
    (h : Attempts reader node s attempts failures log s') :
    forall failure, failure ∈ failures -> failure.1.FailsAs failure.2 := by
  induction h with
  | nil s =>
      intro failure hfailure
      cases hfailure
  | @cons s s₁ s' attempt attempts error failures first rest hfirst hrest ih =>
      intro failure hfailure
      rcases List.mem_append.mp hfailure with hfailure | hfailure
      · rcases List.mem_map.mp hfailure with ⟨e, he, rfl⟩
        exact (attempt.make_gives reader).of_runs hfirst e (Option.mem_toList.mp he)
      · exact ih failure hfailure

theorem Attempts.named {reader : Reader} {node : Node σ} {s s' : σ} {attempts : List Attempt}
    {failures : List (Attempt × ProbeError)} {log : List Exchange}
    (h : Attempts reader node s attempts failures log s') :
    forall failure, failure ∈ failures -> failure.1.NamedBy failure.2 :=
  fun failure hfailure => (h.failsAs failure hfailure).namedBy

/-!
# What is kept of a failure
-/

/-- What a report keeps of a failure: all of it, or its text, under the number of a timed run. -/
inductive Mention where
  | error (e : ProbeError)
  | iteration (failure : FailedIteration)

/-- The text that is kept of a failure. -/
def Mention.text : Mention -> String
  | .error e => e.message
  | .iteration failure => failure.error

/-- A failed attempt is kept as a mention. -/
inductive Keeps : Attempt × ProbeError -> Mention -> Prop where
  | error {attempt : Attempt} (e : ProbeError) (h : attempt.isTimed = false) :
      Keeps (attempt, e) (.error e)
  | iteration (op : Operation) (e : ProbeError) (number : Nat) :
      Keeps (.timed op, e) (.iteration ⟨number, e.message⟩)

theorem Keeps.message_eq {failure : Attempt × ProbeError} {mention : Mention}
    (h : Keeps failure mention) : failure.2.message = mention.text := by
  cases h with
  | error e h => rfl
  | iteration op e number => rfl

/-- The mention of a failure, if there is one. -/
def ProbeError.mentions (error : Option ProbeError) : List Mention :=
  (error.map .error).toList

theorem ProbeError.texts_mentions (error : Option ProbeError) :
    (mentions error).map Mention.text = texts error := by
  cases error with
  | none => rfl
  | some e => rfl

/-- Attempts are made, and the failures among them are kept as the given mentions, in order. -/
def Mentioned (reader : Reader) (node : Node σ) (s : σ) (attempts : List Attempt)
    (mentions : List Mention) (log : List Exchange) (s' : σ) : Prop :=
  exists failures, Attempts reader node s attempts failures log s' ∧
    List.Forall₂ Keeps failures mentions

/-- Attempts are made, and the texts of their failures are the given ones, in order. -/
def Attempted (reader : Reader) (node : Node σ) (s : σ) (attempts : List Attempt)
    (texts : List String) (log : List Exchange) (s' : σ) : Prop :=
  exists failures, Attempts reader node s attempts failures log s' ∧
    failures.map (fun failure => failure.2.message) = texts

section Attempted

variable {reader : Reader} {node : Node σ} {s s₁ s' : σ} {log rest : List Exchange}

namespace Attempted

variable {attempts others : List Attempt} {texts more : List String}

protected theorem nil (s : σ) : Attempted reader node s [] [] [] s :=
  ⟨[], .nil s, rfl⟩

theorem append (h : Attempted reader node s attempts texts log s₁)
    (h' : Attempted reader node s₁ others more rest s') :
    Attempted reader node s (attempts ++ others) (texts ++ more) (log ++ rest) s' := by
  rcases h with ⟨failures, hattempts, rfl⟩
  rcases h' with ⟨failures', hothers, rfl⟩
  exact ⟨failures ++ failures', hattempts.append hothers, List.map_append⟩

end Attempted

namespace Mentioned

variable {attempts others : List Attempt} {mentions more : List Mention}

protected theorem nil (s : σ) : Mentioned reader node s [] [] [] s :=
  ⟨[], .nil s, .nil⟩

theorem single {attempt : Attempt} {error : Option ProbeError}
    (h : Runs node s (attempt.make reader) error log s')
    (hkeeps : List.Forall₂ Keeps (error.toList.map fun e => (attempt, e)) mentions) :
    Mentioned reader node s [attempt] mentions log s' := by
  have hattempts := Attempts.cons h (.nil s')
  rw [List.append_nil, List.append_nil] at hattempts
  exact ⟨_, hattempts, hkeeps⟩

/-- Of an attempt that is not timed, the failure is kept as it is. -/
theorem untimed {attempt : Attempt} (huntimed : attempt.isTimed = false)
    {error : Option ProbeError} (h : Runs node s (attempt.make reader) error log s') :
    Mentioned reader node s [attempt] (ProbeError.mentions error) log s' := by
  apply single h
  cases error with
  | none => exact .nil
  | some e => exact .cons (.error e huntimed) .nil

theorem append (h : Mentioned reader node s attempts mentions log s₁)
    (h' : Mentioned reader node s₁ others more rest s') :
    Mentioned reader node s (attempts ++ others) (mentions ++ more) (log ++ rest) s' := by
  rcases h with ⟨failures, hattempts, hkeeps⟩
  rcases h' with ⟨failures', hothers, hkeeps'⟩
  exact ⟨failures ++ failures', hattempts.append hothers, List.rel_append hkeeps hkeeps'⟩

theorem attempted (h : Mentioned reader node s attempts mentions log s') :
    Attempted reader node s attempts (mentions.map Mention.text) log s' := by
  rcases h with ⟨failures, hattempts, hkeeps⟩
  refine ⟨failures, hattempts, ?_⟩
  clear hattempts
  induction hkeeps with
  | nil => rfl
  | cons hfirst hrest ih => rw [List.map_cons, List.map_cons, hfirst.message_eq, ih]

end Mentioned

/-!
# Operations of a reader
-/

/-- To invoke a call is to make it and to forget the value. -/
theorem mentioned_of_invoked {op : Operation} {d : Dialogue Log.Record (Outcome α)}
    (hinvoke : reader.invoke op = Except.map (fun _ => ()) <$> d) {outcome : Outcome α}
    (h : Runs node s d outcome log s') :
    Mentioned reader node s [.read op] (ProbeError.mentions outcome.error?) log s' := by
  have hmade : Runs node s ((Attempt.read op).make reader)
      (Outcome.error? (outcome.map fun _ => ())) log s' := by
    rw [Attempt.make, hinvoke]
    exact h.map.map
  rw [Outcome.error?_map] at hmade
  exact .untimed rfl hmade

namespace Reader

theorem accountInfo_mentioned {outcome : Outcome AccountInfo}
    (h : Runs node s reader.accountInfo outcome log s') :
    Mentioned reader node s [.account] (ProbeError.mentions outcome.error?) log s' :=
  .untimed rfl h.map

theorem readMatch_mentioned {id : UInt64} {outcome : Outcome Match}
    (h : Runs node s (reader.readMatch id) outcome log s') :
    Mentioned reader node s [.read (.getMatch id)] (ProbeError.mentions outcome.error?) log s' :=
  mentioned_of_invoked rfl h

theorem readLeague_mentioned {id : UInt64} {outcome : Outcome League}
    (h : Runs node s (reader.readLeague id) outcome log s') :
    Mentioned reader node s [.read (.getLeague id)] (ProbeError.mentions outcome.error?) log s' :=
  mentioned_of_invoked rfl h

theorem readTeam_mentioned {id : UInt64} {outcome : Outcome Team}
    (h : Runs node s (reader.readTeam id) outcome log s') :
    Mentioned reader node s [.read (.getTeam id)] (ProbeError.mentions outcome.error?) log s' :=
  mentioned_of_invoked rfl h

theorem readUnfinished_mentioned {outcome : Outcome (List UInt64)}
    (h : Runs node s reader.readUnfinished outcome log s') :
    Mentioned reader node s [.read .getUnfinishedMatches] (ProbeError.mentions outcome.error?) log
      s' :=
  mentioned_of_invoked rfl h

end Reader

/-!
# Surveys
-/

namespace Survey

theorem readCurrentMatch_mentioned {defaults current : Defaults} {fixture : Outcome Match}
    (h : Runs node s (readCurrentMatch reader defaults) (fixture, current) log s') :
    Mentioned reader node s [.read (.getMatch defaults.matchId)] (ProbeError.mentions fixture.error?)
      log s' := by
  rcases h.of_bind with ⟨outcome, first, second, s₁, hread, hrest, rfl⟩
  cases outcome with
  | ok m =>
      rcases hrest.of_pure with ⟨hpair, rfl, rfl⟩
      cases hpair
      rw [List.append_nil]
      exact Reader.readMatch_mentioned hread
  | error e =>
      rcases hrest.of_pure with ⟨hpair, rfl, rfl⟩
      cases hpair
      rw [List.append_nil]
      exact Reader.readMatch_mentioned hread

theorem each_mentioned {act : Operation -> Dialogue Log.Record α}
    {attempts : Operation -> List Attempt} {mentions : α -> List Mention}
    (hact : forall {op : Operation} {s s' : σ} {a : α} {log : List Exchange},
      Runs node s (act op) a log s' -> Mentioned reader node s (attempts op) (mentions a) log s')
    {ops : List Operation} {results : List α} (h : Runs node s (each act ops) results log s') :
    Mentioned reader node s (ops.flatMap attempts) (results.flatMap mentions) log s' := by
  -- Each operation is carried out in the state that the one before it has left.
  induction ops generalizing s log results with
  | nil =>
      rcases h.of_pure with ⟨rfl, rfl, rfl⟩
      exact .nil s
  | cons op ops ih =>
      rcases h.of_bind with ⟨first, firstLog, second, s₁, hfirst, hrest, rfl⟩
      rcases hrest.of_bind with ⟨others, othersLog, last, s₂, hothers, hpure, rfl⟩
      rcases hpure.of_pure with ⟨rfl, rfl, rfl⟩
      rw [List.append_nil]
      exact (hact hfirst).append (ih hothers)

/-- The mentions of the failures in the results of a survey. -/
def mentions (results : List (OperationResult α)) : List Mention :=
  results.flatMap fun result => ProbeError.mentions (Outcome.error? result.result)

/-- The texts of the failures in the results of a survey. -/
def texts (results : List (OperationResult α)) : List String :=
  results.flatMap fun result => ProbeError.texts (Outcome.error? result.result)

theorem texts_mentions (results : List (OperationResult α)) :
    (mentions results).map Mention.text = texts results := by
  rw [mentions, texts, List.map_flatMap]
  simp only [ProbeError.texts_mentions]

theorem record_mentioned {act : Operation -> Dialogue Log.Record (Outcome α)} {op : Operation}
    {attempt : Attempt} (huntimed : attempt.isTimed = false)
    (hmake : attempt.make reader = Outcome.error? <$> act op) {result : OperationResult α}
    (h : Runs node s (record act op) result log s') :
    Mentioned reader node s [attempt] (ProbeError.mentions (Outcome.error? result.result)) log
      s' := by
  rcases h.of_bind_pure with ⟨outcome, hact, rfl⟩
  apply Mentioned.untimed huntimed
  rw [hmake]
  exact hact.map

theorem gas_mentioned {defaults : Defaults} {results : List (OperationResult UInt64)}
    (h : Runs node s (gas reader defaults) results log s') :
    Mentioned reader node s (defaults.operations.map .gas) (mentions results) log s' := by
  rw [List.map_eq_flatMap]
  exact each_mentioned (record_mentioned rfl rfl) h

theorem rawCalls_mentioned {defaults : Defaults} {results : List (OperationResult RawCall)}
    (h : Runs node s (rawCalls reader defaults) results log s') :
    Mentioned reader node s (defaults.operations.map .raw) (mentions results) log s' := by
  rw [List.map_eq_flatMap]
  exact each_mentioned (record_mentioned rfl rfl) h

end Survey

/-!
# Samples
-/

namespace Latency

/-- The mentions of the failures in a report on latency. -/
def mentions (report : LatencyReport) : List Mention :=
  report.failures.map .iteration

/-- The texts of the failures in a report on latency. -/
def texts (report : LatencyReport) : List String :=
  report.failures.map FailedIteration.error

theorem texts_mentions (report : LatencyReport) :
    (mentions report).map Mention.text = texts report := by
  rw [mentions, List.map_map]
  rfl

/-- A run that is sampled is a timed attempt; of its failure the text is kept. -/
theorem attempt_mentioned {label : String} {iteration : Nat} {op : Operation}
    {outcome : Except FailedIteration Duration}
    (h : Runs node s (attempt label iteration (Survey.timed reader op)) outcome log s') :
    Mentioned reader node s [.timed op] ((failures [outcome]).map .iteration) log s' := by
  have hnow := fun s => Runs.self node s (now : Dialogue Log.Record Nat)
  rcases attempt_cases h with ⟨value, s₁, htimed, rfl, rfl⟩ | ⟨text, htimed, rfl⟩
  · rcases htimed.of_bind_pure with ⟨invoked, hinvoke, hvalue⟩
    cases invoked with
    | error e => cases hvalue
    | ok invoked =>
        have hmade : Runs node s ((Attempt.timed op).make reader) none _ _ :=
          (hnow s).silent_bind (hinvoke.bind ((hnow s₁).silent_bind (Runs.pure none)))
        rw [List.append_nil] at hmade
        exact .single hmade .nil
  · rcases htimed.of_bind_pure with ⟨invoked, hinvoke, htext⟩
    cases invoked with
    | ok invoked => cases htext
    | error e =>
        cases htext
        have hmade : Runs node s ((Attempt.timed op).make reader) (some e) _ _ :=
          (hnow s).silent_bind (hinvoke.bind (Runs.pure (some e)))
        rw [List.append_nil] at hmade
        exact .single hmade (.cons (.iteration op e iteration) .nil)

theorem attempts_mentioned {label : String} {op : Operation} {count iteration : Nat}
    {outcomes : List (Except FailedIteration Duration)}
    (h : Runs node s (attempts label (Survey.timed reader op) count iteration) outcomes log s') :
    Mentioned reader node s (List.replicate count (.timed op))
      ((failures outcomes).map .iteration) log s' := by
  induction count generalizing iteration s log outcomes with
  | zero =>
      rcases h.of_pure with ⟨rfl, rfl, rfl⟩
      exact .nil s
  | succ count ih =>
      rcases h.of_bind with ⟨first, firstLog, second, s₁, hfirst, hrest, rfl⟩
      rcases hrest.of_bind with ⟨others, othersLog, last, s₂, hothers, hpure, rfl⟩
      rcases hpure.of_pure with ⟨rfl, rfl, rfl⟩
      rw [List.append_nil, failures_cons, List.map_append]
      exact (attempt_mentioned hfirst).append (ih hothers)

end Latency

/-- The attempts of sampling every call. -/
def Survey.samples (defaults : Defaults) (iterations : UInt32) : List Attempt :=
  defaults.operations.flatMap fun op => List.replicate iterations.toNat (.timed op)

theorem Survey.latency_mentioned {defaults : Defaults} {iterations : UInt32}
    {reports : List LatencyReport}
    (h : Runs node s (latency reader defaults iterations) reports log s') :
    Mentioned reader node s (samples defaults iterations) (reports.flatMap Latency.mentions) log
      s' := by
  apply each_mentioned _ h
  intro op s s' report log hsample
  rcases hsample.of_bind_pure with ⟨outcomes, hattempts, rfl⟩
  exact Latency.attempts_mentioned hattempts

/-!
# Walks
-/

/-- The attempts of following a match. -/
def MatchTrace.attempts (trace : MatchTrace) : List Attempt :=
  trace.calls.map .read

/-- The texts of the failures in a trace. -/
def MatchTrace.texts (trace : MatchTrace) : List String :=
  trace.errors.map ProbeError.message

/-- The mentions of the failures in a trace. -/
def MatchTrace.mentions (trace : MatchTrace) : List Mention :=
  trace.errors.map .error

theorem MatchTrace.texts_mentions (trace : MatchTrace) :
    trace.mentions.map Mention.text = trace.texts := by
  rw [mentions, List.map_map]
  rfl

namespace Walk

theorem step_mentioned {matchId : UInt64} {what : String} {target : Except SkipReason UInt64}
    {lookup : UInt64 -> Dialogue Log.Record (Outcome α)} {call : UInt64 -> Operation}
    (hlookup : forall {id : UInt64} {s s' : σ} {outcome : Outcome α} {log : List Exchange},
      Runs node s (lookup id) outcome log s' ->
        Mentioned reader node s [.read (call id)] (ProbeError.mentions outcome.error?) log s')
    {step : Step α} (h : Runs node s (attempt matchId what target lookup) step log s') :
    Mentioned reader node s ((target.toOption.toList.map call).map .read)
      (ProbeError.mentions step.error?) log s' := by
  cases target with
  | ok id =>
      rcases h.of_map with ⟨outcome, hread, rfl⟩
      have hsame : (Step.ofOutcome outcome).error? = outcome.error? := by
        cases outcome with
        | ok value => rfl
        | error e => rfl
      rw [hsame]
      exact hlookup hread
  | error reason =>
      rcases ((Runs.note _).of_silent_bind h).of_pure with ⟨rfl, rfl, rfl⟩
      exact .nil s

theorem mentions_eq (trace : MatchTrace) :
    trace.mentions = ProbeError.mentions trace.fixture.error? ++
      (ProbeError.mentions trace.league.error? ++
        (ProbeError.mentions trace.homeTeam.error? ++
          ProbeError.mentions trace.awayTeam.error?)) := by
  have hcons (error : Option ProbeError) (others : List (Option ProbeError)) :
      ((error :: others).filterMap id).map Mention.error =
        ProbeError.mentions error ++ (others.filterMap id).map Mention.error := by
    cases error with
    | none => rfl
    | some e => rfl
  rw [MatchTrace.mentions, MatchTrace.errors, hcons, hcons, hcons, hcons, List.filterMap_nil,
    List.map_nil, List.append_nil]

theorem texts_eq (trace : MatchTrace) :
    trace.texts = ProbeError.texts trace.fixture.error? ++ (ProbeError.texts trace.league.error? ++
      (ProbeError.texts trace.homeTeam.error? ++ ProbeError.texts trace.awayTeam.error?)) := by
  rw [← trace.texts_mentions, mentions_eq]
  simp only [List.map_append, ProbeError.texts_mentions]

/-- The step: following a match attempts its calls, and records the failures of these. -/
theorem trace_mentioned {matchId : UInt64} {trace : MatchTrace}
    (h : Runs node s (Walk.trace reader matchId) trace log s') :
    Mentioned reader node s trace.attempts trace.mentions log s' := by
  rcases h.of_bind with ⟨outcome, fixtureLog, rest, s₁, hread, hsteps, rfl⟩
  have hfixture := Reader.readMatch_mentioned hread
  cases outcome with
  | error e =>
      rcases hsteps.of_pure with ⟨rfl, rfl, rfl⟩
      rw [List.append_nil]
      exact hfixture
  | ok m =>
      rcases hsteps.of_bind with ⟨league, leagueLog, log₁, s₂, hleague, hteams, rfl⟩
      rcases hteams.of_bind with ⟨homeTeam, homeLog, log₂, s₃, hhome, hlast, rfl⟩
      rcases hlast.of_bind with ⟨awayTeam, awayLog, log₃, s₄, haway, hpure, rfl⟩
      rcases hpure.of_pure with ⟨rfl, rfl, rfl⟩
      rw [Match.league, follow_eq] at hleague
      rw [Match.homeTeam, follow_eq] at hhome
      rw [followAway_eq] at haway
      have hall := hfixture.append ((step_mentioned Reader.readLeague_mentioned hleague).append
        ((step_mentioned Reader.readTeam_mentioned hhome).append
          (step_mentioned Reader.readTeam_mentioned haway)))
      rw [mentions_eq, MatchTrace.attempts, calls_eq, List.append_nil]
      simp only [List.map_append, List.append_assoc]
      exact hall

/-- The run: by induction on the ids, the traces account for all attempts. -/
theorem traces_mentioned {ids : List UInt64} {traces : List MatchTrace}
    (h : Runs node s (Walk.traces reader ids) traces log s') :
    Mentioned reader node s (traces.flatMap MatchTrace.attempts)
      (traces.flatMap MatchTrace.mentions) log s' := by
  induction ids generalizing s log traces with
  | nil =>
      rcases h.of_pure with ⟨rfl, rfl, rfl⟩
      exact .nil s
  | cons id ids ih =>
      rcases h.of_bind with ⟨first, firstLog, rest, s₁, hfirst, hrest, rfl⟩
      rcases hrest.of_bind with ⟨others, othersLog, last, s₂, hothers, hpure, rfl⟩
      rcases hpure.of_pure with ⟨rfl, rfl, rfl⟩
      rw [List.append_nil]
      exact (trace_mentioned hfirst).append (ih hothers)

theorem run_mentioned {ids : List UInt64} {report : CrossReference}
    (h : Runs node s (Walk.run reader ids) report log s') :
    Mentioned reader node s (report.traces.flatMap MatchTrace.attempts)
      (report.traces.flatMap MatchTrace.mentions) log s' :=
  traces_mentioned (traces_of_run h).2

end Walk

end Attempted

/-!
# The whole run
-/

/-- The texts of the failures that an event of a run is about. -/
def PhaseEvent.texts : PhaseEvent -> List String
  | .started _ | .connected _ => []
  | .debugInfo result => ProbeError.texts result.error?
  | .discovery result _ => ProbeError.texts result.error?
  | .entityReads fixture league team =>
      ProbeError.texts fixture.error? ++ ProbeError.texts league.error? ++
        ProbeError.texts team.error?
  | .gasEstimation results => Survey.texts results
  | .rawCalls results => Survey.texts results
  | .latency reports => reports.flatMap Latency.texts
  | .crossReference report => report.traces.flatMap MatchTrace.texts

/-- The mentions of the failures that an event of a run is about. -/
def PhaseEvent.mentions : PhaseEvent -> List Mention
  | .started _ | .connected _ => []
  | .debugInfo result => ProbeError.mentions result.error?
  | .discovery result _ => ProbeError.mentions result.error?
  | .entityReads fixture league team =>
      ProbeError.mentions fixture.error? ++ ProbeError.mentions league.error? ++
        ProbeError.mentions team.error?
  | .gasEstimation results => Survey.mentions results
  | .rawCalls results => Survey.mentions results
  | .latency reports => reports.flatMap Latency.mentions
  | .crossReference report => report.traces.flatMap MatchTrace.mentions

theorem PhaseEvent.texts_mentions (event : PhaseEvent) :
    event.mentions.map Mention.text = event.texts := by
  cases event <;>
    simp only [mentions, texts, List.map_append, List.map_flatMap, List.map_nil,
      ProbeError.texts_mentions, Survey.texts_mentions, Latency.texts_mentions,
      MatchTrace.texts_mentions]

namespace Suite

/-- The attempts of a connected run with the current ids, and with the traces of its walk. -/
def attempts (ids : Defaults) (iterations : UInt32) (traces : List MatchTrace) : List Attempt :=
  [[.account],
    [.read .getUnfinishedMatches],
    [.read (.getMatch ids.matchId)],
    [.read (.getLeague ids.leagueId)],
    [.read (.getTeam ids.teamId)],
    ids.operations.map .gas,
    ids.operations.map .raw,
    Survey.samples ids iterations,
    traces.flatMap MatchTrace.attempts].flatten

/-- The texts of the failures that a connected run reports, phase by phase. -/
def texts (report : SuiteReport) : List String :=
  Phase.all.tail.flatMap fun phase => (result report phase).texts

/-- The mentions of the failures that a connected run reports, phase by phase. -/
def mentions (report : SuiteReport) : List Mention :=
  Phase.all.tail.flatMap fun phase => (result report phase).mentions

theorem texts_mentions (report : SuiteReport) :
    (mentions report).map Mention.text = texts report := by
  rw [mentions, List.map_flatMap]
  simp only [PhaseEvent.texts_mentions]
  rfl

theorem mentions_eq (report : SuiteReport) :
    mentions report =
      ProbeError.mentions report.debugInfo.error? ++ (ProbeError.mentions report.discovery.error? ++
        (ProbeError.mentions report.fixture.error? ++ (ProbeError.mentions report.league.error? ++
          (ProbeError.mentions report.team.error? ++ (Survey.mentions report.gas ++
            (Survey.mentions report.rawCalls ++ (report.latency.flatMap Latency.mentions ++
              report.crossReference.traces.flatMap MatchTrace.mentions))))))) := by
  simp only [mentions, Phase.all, List.tail_cons, List.flatMap_cons, List.flatMap_nil, result,
    PhaseEvent.mentions, List.append_assoc, List.append_nil]

theorem mentioned_of_surveys {reader : Reader} {options : SuiteOptions} {node : Node σ} {s : σ}
    {report : SuiteReport} {log : List Exchange} (h : Surveys reader options node s report log) :
    exists s', Mentioned reader node s
      (attempts report.defaults options.iterations report.crossReference.traces)
      (mentions report) log s' := by
  rcases h with
    ⟨haccount, hdiscovery, hfixture, hleague, hteam, hgas, hrawCalls, hlatency, hwalk⟩
  have hmatchId := ((Survey.readCurrentMatch_gives reader _).of_runs hfixture).2
  have hread := Survey.readCurrentMatch_mentioned hfixture
  rw [← hmatchId] at hread
  have hall := (Reader.accountInfo_mentioned haccount).append
    ((Reader.readUnfinished_mentioned hdiscovery).append
      (hread.append ((Reader.readLeague_mentioned hleague).append
        ((Reader.readTeam_mentioned hteam).append ((Survey.gas_mentioned hgas).append
          ((Survey.rawCalls_mentioned hrawCalls).append
            ((Survey.latency_mentioned hlatency).append
              ((Walk.run_mentioned hwalk).append (.nil _)))))))))
  rw [mentions_eq, ← List.append_nil (report.crossReference.traces.flatMap _)]
  exact ⟨_, hall⟩

end Suite

/-!
# How many have failed
-/

theorem ProbeError.length_texts (outcome : Outcome α) :
    (texts outcome.error?).length = (Outcome.isFailure outcome).toNat := by
  cases outcome with
  | ok a => rfl
  | error e => rfl

theorem length_flatMap_eq_foldr {f : α -> List β} {g : α -> Nat}
    (h : forall a, (f a).length = g a) (as : List α) :
    (as.flatMap f).length = as.foldr (fun a n => g a + n) 0 := by
  induction as with
  | nil => rfl
  | cons a as ih => rw [List.flatMap_cons, List.length_append, h, ih, List.foldr_cons]

theorem Survey.length_texts (results : List (OperationResult α)) :
    (texts results).length = (results.filter (Outcome.isFailure ·.result)).length := by
  rw [← foldr_toNat]
  exact length_flatMap_eq_foldr (fun _ => ProbeError.length_texts _) results

theorem MatchTrace.length_texts (trace : MatchTrace) : trace.texts.length = trace.failures := by
  have hstep {γ : Type} (step : Step γ) :
      (ProbeError.texts step.error?).length = step.isFailed.toNat := by
    cases step with
    | fetched a => rfl
    | failed e => rfl
    | skipped reason => rfl
  rw [Walk.texts_eq, MatchTrace.failures]
  simp only [List.length_append, hstep, length_filter_id_cons, List.filter_nil, List.length_nil]
  rfl

theorem CrossReference.length_texts (report : CrossReference) :
    (report.traces.flatMap MatchTrace.texts).length = report.failures :=
  length_flatMap_eq_foldr MatchTrace.length_texts report.traces

/-- A report on a run counts every failure that the run reports. -/
theorem SuiteReport.failures_eq_length (report : SuiteReport) :
    report.failures = (Suite.texts report).length := by
  have hlatency : (report.latency.flatMap Latency.texts).length =
      report.latency.foldr (fun survey n => survey.failures.length + n) 0 :=
    length_flatMap_eq_foldr (fun _ => List.length_map _) report.latency
  simp only [Suite.texts, Phase.all, List.tail_cons, List.flatMap_cons, List.flatMap_nil,
    Suite.result, PhaseEvent.texts, List.length_append, ProbeError.length_texts,
    Survey.length_texts, hlatency, CrossReference.length_texts, List.length_nil, failures,
    length_filter_id_cons, List.filter_nil]
  omega

end FixtureProbe
