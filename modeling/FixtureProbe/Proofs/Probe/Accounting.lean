import FixtureProbe.Proofs.Latency.Sampling
import FixtureProbe.Proofs.Probe.Failures

/-!
# Every request is accounted for once

The report of a run counts its failures over parts of different shapes: single outcomes, lists of
results, samples, and traces. The node, in turn, sees nothing but requests. This module ties the two
counts together. Every request is made for a purpose, the purposes of a run follow from its report,
and a failure is counted for a request exactly when the node refused it or, where its answer is to be
decoded, when the answer did not decode.
-/

namespace FixtureProbe

open Dialogue

variable {α β σ : Type}

/-!
# Purposes
-/

/-- What a request is made for. -/
inductive Purpose where
  | code
  | balance
  /-- A call whose answer is decoded. -/
  | read (op : Operation)
  | gas (op : Operation)
  | raw (op : Operation)

/-- Whether the node has refused a request. -/
def Exchange.refused (exchange : Exchange) : Bool :=
  match exchange.reply with
  | .ok _ => false
  | .error _ => true

/-- The answer to a call, if the exchange is a call that was answered. -/
def Exchange.answer? : Exchange -> Option Bytes
  | ⟨.call _ _, .ok answer⟩ => some answer
  | _ => none

/-- Whether an answer is one to the given call. -/
def Interface.decodes (interface : Interface) (op : Operation) (answer : Bytes) : Bool :=
  match op with
  | .getMatch id => !Outcome.isFailure (interface.decodeMatch id answer)
  | .getLeague id => !Outcome.isFailure (interface.decodeLeague id answer)
  | .getTeam id => !Outcome.isFailure (interface.decodeTeam id answer)
  | .getUnfinishedMatches => !Outcome.isFailure (interface.decodeUnfinished answer)

namespace Purpose

/-- The request that is made for a purpose. -/
def request (reader : Reader) : Purpose -> Request
  | .code => .code reader.address
  | .balance => .balance reader.address
  | .read op | .raw op => reader.callRequest op
  | .gas op => reader.gasRequest op

/-- Whether an exchange has missed its purpose. -/
def missed (interface : Interface) (purpose : Purpose) (exchange : Exchange) : Bool :=
  match purpose with
  | .read op => exchange.refused || exchange.answer?.any (!interface.decodes op ·)
  | _ => exchange.refused

end Purpose

/-!
# Tallies
-/

/-- A log serves purposes, one exchange for each, and so many of the exchanges have missed theirs. -/
inductive Tally (reader : Reader) : List Purpose -> List Exchange -> Nat -> Prop where
  | nil : Tally reader [] [] 0
  | cons {purpose : Purpose} {exchange : Exchange} {purposes : List Purpose} {log : List Exchange}
      {missed : Nat} (hrequest : exchange.request = purpose.request reader)
      (hrest : Tally reader purposes log missed) :
      Tally reader (purpose :: purposes) (exchange :: log)
        ((purpose.missed reader.interface exchange).toNat + missed)

namespace Tally

variable {reader : Reader} {purposes more : List Purpose} {log others : List Exchange}
  {missed missed' : Nat}

theorem single {purpose : Purpose} {exchange : Exchange}
    (hrequest : exchange.request = purpose.request reader) :
    Tally reader [purpose] [exchange] (purpose.missed reader.interface exchange).toNat :=
  .cons hrequest .nil

theorem append (h : Tally reader purposes log missed) (h' : Tally reader more others missed') :
    Tally reader (purposes ++ more) (log ++ others) (missed + missed') := by
  induction h with
  | nil =>
      rw [Nat.zero_add]
      exact h'
  | cons hrequest hrest ih =>
      rw [Nat.add_assoc]
      exact .cons hrequest ih

theorem requests (h : Tally reader purposes log missed) :
    log.map Exchange.request = purposes.map (Purpose.request reader) := by
  induction h with
  | nil => rfl
  | cons hrequest hrest ih => rw [List.map_cons, List.map_cons, hrequest, ih]

theorem length_eq (h : Tally reader purposes log missed) : log.length = purposes.length := by
  have hlength := congrArg List.length h.requests
  rw [List.length_map, List.length_map] at hlength
  exact hlength

theorem eq_countP (h : Tally reader purposes log missed) :
    missed = (purposes.zip log).countP fun p => p.1.missed reader.interface p.2 := by
  induction h with
  | nil => rfl
  | cons hrequest hrest ih =>
      rename_i purpose exchange purposes log missed
      rw [List.zip_cons_cons, List.countP_cons, ← ih, Nat.add_comm]
      cases purpose.missed reader.interface exchange <;> rfl

end Tally

/-!
# Calls
-/

theorem Outcome.isFailure_map (f : α -> β) (outcome : Outcome α) :
    Outcome.isFailure (outcome.map f) = Outcome.isFailure outcome := by
  cases outcome <;> rfl

theorem Outcome.isFailure_mapError {request : Request} (op : Operation) (reply : request.Reply) :
    Outcome.isFailure (reply.mapError (ProbeError.ofOperation op)) =
      Exchange.refused ⟨request, reply⟩ := by
  cases reply <;> rfl

theorem length_filter_id_cons (b : Bool) (bs : List Bool) :
    ((b :: bs).filter id).length = b.toNat + (bs.filter id).length := by
  cases b with
  | true => exact Nat.add_comm _ _
  | false => exact (Nat.zero_add _).symm

namespace Reader

/-- A reply to a call misses its purpose exactly when there is no value in it. -/
theorem missed_called (reader : Reader) {op : Operation} {decode : Bytes -> Except ProbeError α}
    (hdecode : forall answer,
      reader.interface.decodes op answer = !Outcome.isFailure (decode answer))
    (reply : Except String Bytes) :
    (Purpose.read op).missed reader.interface (reader.called op reply) =
      Outcome.isFailure (verdict op decode reply) := by
  cases reply with
  | error reason => rfl
  | ok answer =>
      change (false || !reader.interface.decodes op answer) = Outcome.isFailure (decode answer)
      rw [hdecode, Bool.not_not, Bool.false_or]

section Calls

variable {reader : Reader} (h : reader.interface.Encodes) {node : Node σ} {s s' : σ}
  {op : Operation} {log : List Exchange}

include h

theorem read_tally {decode : Bytes -> Except ProbeError α} {outcome : Outcome α}
    (hdecode : forall answer,
      reader.interface.decodes op answer = !Outcome.isFailure (decode answer))
    (hrun : Runs node s (reader.read op decode) outcome log s') :
    Tally reader [.read op] log outcome.isFailure.toNat := by
  rcases (read_runs h node s op decode).unique hrun with ⟨rfl, rfl, -⟩
  rw [← reader.missed_called hdecode]
  exact .single rfl

theorem readMatch_tally {id : UInt64} {outcome : Outcome Match}
    (hrun : Runs node s (reader.readMatch id) outcome log s') :
    Tally reader [.read (.getMatch id)] log outcome.isFailure.toNat :=
  read_tally h (fun _ => rfl) hrun

theorem readLeague_tally {id : UInt64} {outcome : Outcome League}
    (hrun : Runs node s (reader.readLeague id) outcome log s') :
    Tally reader [.read (.getLeague id)] log outcome.isFailure.toNat :=
  read_tally h (fun _ => rfl) hrun

theorem readTeam_tally {id : UInt64} {outcome : Outcome Team}
    (hrun : Runs node s (reader.readTeam id) outcome log s') :
    Tally reader [.read (.getTeam id)] log outcome.isFailure.toNat :=
  read_tally h (fun _ => rfl) hrun

theorem readUnfinished_tally {outcome : Outcome (List UInt64)}
    (hrun : Runs node s reader.readUnfinished outcome log s') :
    Tally reader [.read .getUnfinishedMatches] log outcome.isFailure.toNat :=
  read_tally h (fun _ => rfl) hrun

theorem invoke_tally {outcome : Outcome Unit}
    (hrun : Runs node s (reader.invoke op) outcome log s') :
    Tally reader [.read op] log outcome.isFailure.toNat := by
  have hdecodes (answer : Bytes) : reader.interface.decodes op answer =
      !Outcome.isFailure (reader.interface.decodeEntity op answer) := by
    cases op <;> rfl
  rw [invoke_eq_map_readEntity, readEntity_eq_read] at hrun
  rcases hrun.of_map with ⟨read, hread, rfl⟩
  rw [Outcome.isFailure_map]
  exact read_tally h hdecodes hread

omit h in
/-- A request whose reply is settled and then shown in some way fails exactly when it is refused. -/
theorem settled_runs {γ : Type} {request : Request} {f : request.Answer -> γ} {outcome : Outcome γ}
    (hrun : Runs node s (do return (← settle op (← Dialogue.request request)).map f)
      outcome log s') :
    exists reply, log = [⟨request, reply⟩] ∧
      outcome.isFailure = Exchange.refused ⟨request, reply⟩ := by
  rcases hrun.of_bind with ⟨reply, first, rest, s₁, hrequest, hrest, rfl⟩
  rcases (Runs.request node s request).unique hrequest with ⟨rfl, rfl, rfl⟩
  rcases hrest.of_bind with ⟨settled, second, last, s₂, hsettle, hpure, rfl⟩
  rcases (settle_runs node _ op _).unique hsettle with ⟨rfl, rfl, rfl⟩
  rcases hpure.of_pure with ⟨rfl, rfl, -⟩
  refine ⟨_, rfl, ?_⟩
  rw [Outcome.isFailure_map, Outcome.isFailure_mapError]

theorem estimateGas_tally {outcome : Outcome UInt64}
    (hrun : Runs node s (reader.estimateGas op) outcome log s') :
    Tally reader [.gas op] log outcome.isFailure.toNat := by
  rw [estimateGas, h.encode_eq] at hrun
  rcases settled_runs hrun with ⟨reply, rfl, hfailure⟩
  rw [hfailure]
  exact .single rfl

theorem rawCall_tally {outcome : Outcome RawCall}
    (hrun : Runs node s (reader.rawCall op) outcome log s') :
    Tally reader [.raw op] log outcome.isFailure.toNat := by
  rw [rawCall, h.encode_eq] at hrun
  rcases settled_runs hrun with ⟨reply, rfl, hfailure⟩
  rw [hfailure]
  exact .single rfl

end Calls

theorem requests_of_connected {node : Node σ} {s s' : σ} {chain : ChainStatus}
    {log : List Exchange} (hrun : Runs node s probe (.ok chain) log s') :
    log.map Exchange.request = [.blockNumber, .chainId] := by
  have hprobed := probe_runs hrun
  split at hprobed
  · cases hprobed.1
  · cases hprobed.1
  · exact hprobed.2.1

/-- What is asked about the account, given the reply about its code. -/
def accountPurposes (code : Except String Bytes) : List Purpose :=
  match code with
  | .ok _ => [.code, .balance]
  | .error _ => [.code]

theorem accountInfo_tally {reader : Reader} {node : Node σ} {s s' : σ}
    {outcome : Outcome AccountInfo} {log : List Exchange}
    (hrun : Runs node s reader.accountInfo outcome log s') :
    exists code rest, log = ⟨.code reader.address, code⟩ :: rest ∧
      Tally reader (accountPurposes code) log outcome.isFailure.toNat := by
  rcases hrun.of_bind with ⟨code, first, rest, s₁, hcode, hrest, rfl⟩
  rcases (Runs.request node s _).unique hcode with ⟨hreply, rfl, rfl⟩
  rw [hreply]
  cases code with
  | error reason =>
      rcases hrest.of_pure with ⟨rfl, rfl, -⟩
      exact ⟨_, _, rfl, .single rfl⟩
  | ok code =>
      rcases hrest.of_bind with ⟨balance, second, last, s₂, hbalance, hpure, rfl⟩
      rcases (Runs.request node _ _).unique hbalance with ⟨hreply, rfl, rfl⟩
      rw [hreply]
      cases balance with
      | error reason =>
          rcases hpure.of_pure with ⟨rfl, rfl, -⟩
          exact ⟨_, _, rfl, (Tally.single rfl).append (.single rfl)⟩
      | ok balance =>
          rcases hpure.of_pure with ⟨rfl, rfl, -⟩
          exact ⟨_, _, rfl, (Tally.single rfl).append (.single rfl)⟩

end Reader

/-!
# Surveys
-/

section Surveys

variable {reader : Reader} {node : Node σ} {s s' : σ} {log : List Exchange}

/-- Looking at the clock and noting a failure ask nothing. -/
theorem Latency.attempt_tally {purpose : Purpose} {label : String} {iteration : Nat}
    {op : Dialogue Log.Record (Except String α)}
    (hop : forall {s s' : σ} {outcome : Except String α} {log : List Exchange},
      Runs node s op outcome log s' -> Tally reader [purpose] log (failures [outcome]).length)
    {outcome : Except FailedIteration Duration}
    (hrun : Runs node s (attempt label iteration op) outcome log s') :
    Tally reader [purpose] log (failures [outcome]).length := by
  rcases attempt_cases hrun with ⟨value, s₁, hvalue, rfl, -⟩ | ⟨text, herror, rfl⟩
  · exact hop hvalue
  · exact hop herror

theorem Latency.attempts_tally {purpose : Purpose} {label : String}
    {op : Dialogue Log.Record (Except String α)}
    (hop : forall {s s' : σ} {outcome : Except String α} {log : List Exchange},
      Runs node s op outcome log s' -> Tally reader [purpose] log (failures [outcome]).length)
    {count iteration : Nat} {outcomes : List (Except FailedIteration Duration)}
    (hrun : Runs node s (attempts label op count iteration) outcomes log s') :
    Tally reader (List.replicate count purpose) log (failures outcomes).length := by
  induction count generalizing iteration s s' log outcomes with
  | zero =>
      rcases hrun.of_pure with ⟨rfl, rfl, -⟩
      exact .nil
  | succ count ih =>
      rcases hrun.of_bind with ⟨first, firstLog, rest, s₁, hfirst, hrest, rfl⟩
      rcases hrest.of_bind with ⟨others, othersLog, last, s₂, hothers, hpure, rfl⟩
      rcases hpure.of_pure with ⟨rfl, rfl, -⟩
      rw [List.replicate_succ, failures_cons, List.length_append, List.append_nil]
      exact (attempt_tally hop hfirst).append (ih hothers)

namespace Survey

theorem readCurrentMatch_tally (h : reader.interface.Encodes) {defaults current : Defaults}
    {fixture : Outcome Match}
    (hrun : Runs node s (readCurrentMatch reader defaults) (fixture, current) log s') :
    Tally reader [.read (.getMatch defaults.matchId)] log fixture.isFailure.toNat := by
  rcases hrun.of_bind with ⟨outcome, first, rest, s₁, hread, hrest, rfl⟩
  have htally := Reader.readMatch_tally h hread
  cases outcome with
  | ok m =>
      rcases hrest.of_pure with ⟨hpair, rfl, -⟩
      cases hpair
      rw [List.append_nil]
      exact htally
  | error e =>
      rcases hrest.of_pure with ⟨hpair, rfl, -⟩
      cases hpair
      rw [List.append_nil]
      exact htally

theorem each_tally {act : Operation -> Dialogue Log.Record α} {purposes : Operation -> List Purpose}
    {missed : α -> Nat}
    (hact : forall {op : Operation} {s s' : σ} {a : α} {log : List Exchange},
      Runs node s (act op) a log s' -> Tally reader (purposes op) log (missed a))
    {ops : List Operation} {results : List α} (hrun : Runs node s (each act ops) results log s') :
    Tally reader (ops.flatMap purposes) log (results.foldr (fun a n => missed a + n) 0) := by
  induction ops generalizing s s' log results with
  | nil =>
      rcases hrun.of_pure with ⟨rfl, rfl, -⟩
      exact .nil
  | cons op ops ih =>
      rcases hrun.of_bind with ⟨first, firstLog, rest, s₁, hfirst, hrest, rfl⟩
      rcases hrest.of_bind with ⟨others, othersLog, last, s₂, hothers, hpure, rfl⟩
      rcases hpure.of_pure with ⟨rfl, rfl, -⟩
      rw [List.flatMap_cons, List.append_nil]
      exact (hact hfirst).append (ih hothers)

theorem foldr_toNat (p : α -> Bool) (results : List α) :
    results.foldr (fun a n => (p a).toNat + n) 0 = (results.filter p).length := by
  induction results with
  | nil => rfl
  | cons a results ih =>
      rw [List.foldr_cons, ih, List.filter_cons]
      cases p a with
      | true => exact Nat.add_comm _ _
      | false => exact Nat.zero_add _

theorem record_tally {act : Operation -> Dialogue Log.Record (Outcome α)} {op : Operation}
    {purposes : List Purpose}
    (hact : forall {s s' : σ} {outcome : Outcome α} {log : List Exchange},
      Runs node s (act op) outcome log s' -> Tally reader purposes log outcome.isFailure.toNat)
    {result : OperationResult α} (hrun : Runs node s (record act op) result log s') :
    Tally reader purposes log (Outcome.isFailure result.result).toNat := by
  rcases hrun.of_bind with ⟨outcome, first, rest, s₁, hfirst, hpure, rfl⟩
  rcases hpure.of_pure with ⟨rfl, rfl, -⟩
  rw [List.append_nil]
  exact hact hfirst

section Calls

variable (h : reader.interface.Encodes) {defaults : Defaults}

include h

theorem gas_tally {results : List (OperationResult UInt64)}
    (hrun : Runs node s (gas reader defaults) results log s') :
    Tally reader (defaults.operations.map .gas) log
      (results.filter (Outcome.isFailure ·.result)).length := by
  rw [List.map_eq_flatMap, ← foldr_toNat]
  exact each_tally (record_tally (Reader.estimateGas_tally h)) hrun

theorem rawCalls_tally {results : List (OperationResult RawCall)}
    (hrun : Runs node s (rawCalls reader defaults) results log s') :
    Tally reader (defaults.operations.map .raw) log
      (results.filter (Outcome.isFailure ·.result)).length := by
  rw [List.map_eq_flatMap, ← foldr_toNat]
  exact each_tally (record_tally (Reader.rawCall_tally h)) hrun

theorem timed_tally {op : Operation} {outcome : Except String Unit}
    (hrun : Runs node s (timed reader op) outcome log s') :
    Tally reader [.read op] log (Latency.failures [outcome]).length := by
  rcases hrun.of_bind with ⟨invoked, first, rest, s₁, hfirst, hpure, rfl⟩
  rcases hpure.of_pure with ⟨rfl, rfl, -⟩
  rw [List.append_nil]
  have htally := Reader.invoke_tally h hfirst
  cases invoked with
  | ok _ => exact htally
  | error e => exact htally

theorem latency_tally {iterations : UInt32} {reports : List LatencyReport}
    (hrun : Runs node s (latency reader defaults iterations) reports log s') :
    Tally reader
      (defaults.operations.flatMap fun op => List.replicate iterations.toNat (.read op)) log
      (reports.foldr (fun survey n => survey.failures.length + n) 0) := by
  refine each_tally ?_ hrun
  intro op s s' survey log hsample
  rcases hsample.of_bind with ⟨outcomes, first, rest, s₁, hattempts, hpure, rfl⟩
  rcases hpure.of_pure with ⟨rfl, rfl, -⟩
  rw [List.append_nil]
  exact Latency.attempts_tally (timed_tally h) hattempts

end Calls

end Survey

end Surveys

/-!
# Traces
-/

namespace Walk

section Steps

variable {reader : Reader} {call : UInt64 -> Operation}
  {decode : UInt64 -> Bytes -> Except ProbeError α} {target : Except SkipReason UInt64}
  {step : Step α} {log : List Exchange}

theorem Done.tally (h : Done reader call decode target step log)
    (hdecode : forall id answer,
      reader.interface.decodes (call id) answer = !Outcome.isFailure (decode id answer)) :
    Tally reader (target.toOption.toList.map fun id => .read (call id)) log
      step.isFailed.toNat := by
  cases h with
  | skipped reason => exact .nil
  | called id reply =>
      have hfailed (outcome : Outcome α) :
          (Step.ofOutcome outcome).isFailed = Outcome.isFailure outcome := by
        cases outcome <;> rfl
      rw [hfailed, ← reader.missed_called (hdecode id)]
      exact .single rfl

/-- A step was attempted exactly when it has an id to look up. -/
theorem Done.attempted (h : Done reader call decode target step log) :
    step.attempted.toNat = target.toOption.toList.length := by
  cases h with
  | skipped reason => rfl
  | called id reply =>
      cases Reader.verdict (call id) (decode id) reply <;> rfl

end Steps

theorem Recorded.tally {reader : Reader} {trace : MatchTrace} {log : List Exchange}
    (h : Recorded reader trace log) :
    Tally reader (trace.calls.map .read) log trace.failures := by
  rcases h with ⟨fixture, league, homeTeam, awayTeam, haccounts, rfl⟩
  have hfixture := haccounts.fixture.tally fun _ _ => rfl
  have hleague := haccounts.league.tally fun _ _ => rfl
  have hhome := haccounts.homeTeam.tally fun _ _ => rfl
  have haway := haccounts.awayTeam.tally fun _ _ => rfl
  have hfailures : trace.failures =
      trace.fixture.isFailed.toNat + trace.league.isFailed.toNat +
        trace.homeTeam.isFailed.toNat + trace.awayTeam.isFailed.toNat := by
    unfold MatchTrace.failures
    simp only [length_filter_id_cons, List.filter_nil, List.length_nil]
    omega
  rw [hfailures, calls_eq]
  simp only [List.map_append, List.map_map, List.map_cons, List.map_nil]
  exact ((hfixture.append hleague).append hhome).append haway

theorem Recorded.attempted {reader : Reader} {trace : MatchTrace} {log : List Exchange}
    (h : Recorded reader trace log) :
    (trace.attempted.filter id).length = trace.calls.length := by
  rcases h with ⟨fixture, league, homeTeam, awayTeam, haccounts, -⟩
  have hfixture : trace.fixture.attempted.toNat = 1 := haccounts.fixture.attempted
  have hleague := haccounts.league.attempted
  have hhome := haccounts.homeTeam.attempted
  have haway := haccounts.awayTeam.attempted
  rw [calls_eq]
  unfold MatchTrace.attempted
  simp only [length_filter_id_cons, List.filter_nil, List.length_append, List.length_map,
    List.length_cons, List.length_nil]
  omega

theorem tally_of_recorded {reader : Reader} {traces : List MatchTrace}
    {logs : List (List Exchange)} (h : List.Forall₂ (Recorded reader) traces logs) :
    Tally reader (traces.flatMap fun trace => trace.calls.map .read) logs.flatten
      (traces.foldr (fun trace n => trace.failures + n) 0) := by
  induction h with
  | nil => exact .nil
  | cons hfirst hothers ih =>
      rw [List.flatMap_cons, List.flatten_cons]
      exact hfirst.tally.append ih

theorem attempted_of_recorded {reader : Reader} {traces : List MatchTrace}
    {logs : List (List Exchange)} (h : List.Forall₂ (Recorded reader) traces logs) :
    ((traces.flatMap MatchTrace.attempted).filter id).length =
      (traces.flatMap fun trace => trace.calls.map Purpose.read).length := by
  induction h with
  | nil => rfl
  | cons hfirst hothers ih =>
      rw [List.flatMap_cons, List.flatMap_cons, List.filter_append, List.length_append,
        List.length_append, ih, hfirst.attempted, List.length_map]

end Walk

/-!
# Samples
-/

theorem Latency.attempts_gives_length (label : String)
    (op : Dialogue Log.Record (Except String α)) (count iteration : Nat) :
    (attempts label op count iteration).Gives fun outcomes => outcomes.length = count := by
  induction count generalizing iteration with
  | zero => exact .pure rfl
  | succ count ih =>
      apply Gives.of_rest
      intro first
      apply (ih (iteration + 1)).bind
      intro others hothers
      apply Gives.pure
      rw [List.length_cons, hothers]

/-- A sample has as many durations and failures as there are iterations. -/
def Survey.Complete (iterations : UInt32) (survey : LatencyReport) : Prop :=
  survey.iterations = iterations ∧
    survey.durations.length + survey.failures.length = iterations.toNat

theorem Survey.latency_complete (reader : Reader) (defaults : Defaults) (iterations : UInt32) :
    (latency reader defaults iterations).Gives
      (List.Forall₂ (fun _ => Complete iterations) defaults.operations) := by
  apply each_gives
  intro op
  apply (Latency.attempts_gives_length op.text (timed reader op) iterations.toNat 1).bind
  intro outcomes houtcomes
  apply Gives.pure
  refine ⟨rfl, ?_⟩
  rw [← houtcomes]
  exact Latency.length_successes_add_failures outcomes

/-!
# The whole run
-/

namespace Suite

/-- What a connected run asks for after the probe, given the reply about the code. -/
def purposes (options : SuiteOptions) (code : Except String Bytes) (report : SuiteReport) :
    List Purpose :=
  [Reader.accountPurposes code,
    [.read .getUnfinishedMatches],
    [.read (.getMatch report.defaults.matchId)],
    [.read (.getLeague report.defaults.leagueId)],
    [.read (.getTeam report.defaults.teamId)],
    report.defaults.operations.map .gas,
    report.defaults.operations.map .raw,
    report.defaults.operations.flatMap fun op =>
      List.replicate options.iterations.toNat (.read op),
    report.crossReference.traces.flatMap fun trace => trace.calls.map .read].flatten

/-- How the report of a connected run accounts for what was exchanged after the probe, given the
reply about the code. -/
structure AccountsFor (reader : Reader) (options : SuiteOptions) (code : Except String Bytes)
    (report : SuiteReport) (log : List Exchange) : Prop where
  requests : log.map Exchange.request = (purposes options code report).map (Purpose.request reader)
  length : log.length =
    1 + (if code.isOk then 1 else 0) + 1 + 3 + 4 + 4 + 4 * options.iterations.toNat +
      ((report.crossReference.traces.flatMap MatchTrace.attempted).filter id).length
  failures : report.failures =
    ((purposes options code report).zip log).countP fun p => p.1.missed reader.interface p.2
  gas : report.gas.map OperationResult.operation = report.defaults.operations
  rawCalls : report.rawCalls.map OperationResult.operation = report.defaults.operations
  latency : report.latency.map LatencyReport.label = report.defaults.operations.map Operation.text
  samples : forall survey, survey ∈ report.latency ->
    survey.iterations = options.iterations ∧
      survey.durations.length + survey.failures.length = options.iterations.toNat

theorem operations_of_named {ops : List Operation} {results : List (OperationResult α)}
    (h : List.Forall₂ Survey.Named ops results) : results.map OperationResult.operation = ops := by
  induction h with
  | nil => rfl
  | cons hfirst hothers ih => rw [List.map_cons, hfirst.1, ih]

theorem labels_of_textsNamed {ops : List Operation} {reports : List LatencyReport}
    (h : List.Forall₂ Survey.TextsNamed ops reports) :
    reports.map LatencyReport.label = ops.map Operation.text := by
  induction h with
  | nil => rfl
  | cons hfirst hothers ih => rw [List.map_cons, List.map_cons, hfirst.1, ih]

theorem length_purposes (options : SuiteOptions) (code : Except String Bytes)
    (report : SuiteReport) :
    (purposes options code report).length =
      1 + (if code.isOk then 1 else 0) + 1 + 3 + 4 + 4 + 4 * options.iterations.toNat +
        (report.crossReference.traces.flatMap fun trace =>
          trace.calls.map Purpose.read).length := by
  have haccount : (Reader.accountPurposes code).length = 1 + (if code.isOk then 1 else 0) := by
    cases code <;> rfl
  simp only [purposes, List.flatten_cons, List.flatten_nil, List.length_append, List.length_cons,
    List.length_nil, List.length_map, Defaults.operations, List.flatMap_cons, List.flatMap_nil,
    List.length_replicate, haccount]
  omega

theorem accounts_of_surveys {reader : Reader} (h : reader.interface.Encodes)
    {options : SuiteOptions} {node : Node σ} {s : σ} {report : SuiteReport} {log : List Exchange}
    (hsurveys : Surveys reader options node s report log) :
    exists code rest, log = ⟨.code reader.address, code⟩ :: rest ∧
      AccountsFor reader options code report log := by
  have hnamed := named_of_surveys hsurveys
  rcases hsurveys with
    ⟨haccount, hdiscovery, hfixture, hleague, hteam, hgas, hrawCalls, hlatency, hwalk⟩
  rename_i log₁ log₂ log₃ log₄ log₅ log₆ log₇ log₈ log₉
  rcases Reader.accountInfo_tally haccount with ⟨code, rest, hcode, haccount⟩
  have hmatchId := ((Survey.readCurrentMatch_gives reader _).of_runs hfixture).2
  have hfixture := Survey.readCurrentMatch_tally h hfixture
  have hsamples := (Survey.latency_complete reader _ _).of_runs hlatency
  rcases Walk.recorded_of_run h hwalk with ⟨-, -, logs, rfl, hrecorded⟩
  rw [← hmatchId] at hfixture
  -- Each phase has its tally, and the failures of the report are put together in the same order.
  have htally := haccount.append ((Reader.readUnfinished_tally h hdiscovery).append
    (hfixture.append ((Reader.readLeague_tally h hleague).append
      ((Reader.readTeam_tally h hteam).append ((Survey.gas_tally h hgas).append
        ((Survey.rawCalls_tally h hrawCalls).append ((Survey.latency_tally h hlatency).append
          ((Walk.tally_of_recorded hrecorded).append .nil))))))))
  have hfailures := htally.eq_countP
  have hlength := htally.length_eq
  refine ⟨code, _, congrArg (· ++ _) hcode, ?_, ?_, ?_, ?_, ?_, ?_, ?_⟩
  · exact htally.requests
  · rw [Walk.attempted_of_recorded hrecorded, ← length_purposes]
    exact hlength
  · refine Eq.trans ?_ hfailures
    unfold SuiteReport.failures CrossReference.failures
    simp only [length_filter_id_cons, List.filter_nil, List.length_nil]
    omega
  · exact operations_of_named hnamed.gas
  · exact operations_of_named hnamed.rawCalls
  · exact labels_of_textsNamed hnamed.latency
  · intro survey hsurvey
    rcases Survey.exists_of_mem_results hsamples hsurvey with ⟨op, hcomplete⟩
    exact hcomplete

theorem exists_report_of_connected (reader : Reader) (options : SuiteOptions) {node : Node σ}
    {s : σ} {chain : ChainStatus} (hprobe : (Reader.probe.run node s).value = .ok chain) :
    exists report, ((Suite.run reader options).run node s).value = .ok report := by
  rcases run_cases (Runs.self node s (Suite.run reader options)) with
    ⟨probed, probeLog, restLog, s₁, hprobed, -, hrest⟩
  rw [hprobed.value] at hprobe
  rw [hprobe] at hrest
  rcases hrest with ⟨report, houtcome, -⟩
  exact ⟨report, houtcome⟩

/-- A run that gives a report asks two things for the probe, and its report accounts for everything
that it asks after that: each request has its purpose, and the failures are the exchanges that have
missed theirs. -/
theorem run_accounts (reader : Reader) (h : reader.interface.Encodes) (node : Node σ) (s : σ)
    (options : SuiteOptions) (report : SuiteReport)
    (hreport : ((Suite.run reader options).run node s).value = .ok report) :
    exists probe code rest,
      ((Suite.run reader options).run node s).exchanges =
        probe ++ ⟨.code reader.address, code⟩ :: rest ∧
      probe.map Exchange.request = [.blockNumber, .chainId] ∧
      AccountsFor reader options code report (⟨.code reader.address, code⟩ :: rest) := by
  have hrun := Runs.self node s (Suite.run reader options)
  rcases run_cases hrun with ⟨probed, probeLog, restLog, s₁, hprobe, hlog, hrest⟩
  cases probed with
  | error e =>
      rw [hreport] at hrest
      cases hrest.1
  | ok chain =>
      rcases hrest with ⟨surveyed, houtcome, hsurvey⟩
      rw [hreport] at houtcome
      cases houtcome
      rcases accounts_of_surveys h (surveys_of_survey hsurvey).2.2 with
        ⟨code, rest, rfl, haccounts⟩
      exact ⟨probeLog, code, rest, hlog, Reader.requests_of_connected hprobe, haccounts⟩

theorem run_accounts_flaky :
    let reader : Reader := ⟨Interface.embedded, ⟨0x0fff⟩⟩
    exists report probe code rest,
      ((Suite.run reader ⟨2, 3⟩).run Node.flaky 0).value = .ok report ∧
      ((Suite.run reader ⟨2, 3⟩).run Node.flaky 0).exchanges =
        probe ++ ⟨.code reader.address, code⟩ :: rest ∧
      probe.map Exchange.request = [.blockNumber, .chainId] ∧
      AccountsFor reader ⟨2, 3⟩ code report (⟨.code reader.address, code⟩ :: rest) := by
  have hprobe : (Reader.probe.run Node.flaky 0).value = .ok ⟨31337, 1⟩ := rfl
  rcases exists_report_of_connected ⟨Interface.embedded, ⟨0x0fff⟩⟩ ⟨2, 3⟩ hprobe with
    ⟨report, hreport⟩
  rcases run_accounts ⟨Interface.embedded, ⟨0x0fff⟩⟩ Interface.callable_embedded.encodes
    .flaky 0 ⟨2, 3⟩ report hreport with ⟨probe, code, rest, haccounts⟩
  exact ⟨report, probe, code, rest, hreport, haccounts⟩

end Suite

end FixtureProbe
