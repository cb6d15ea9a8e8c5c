import FixtureProbe.Proofs.Probe.Calls

/-!
# What the surveys ask

A survey makes the requests of its calls in the order of the calls, and makes them all: neither a
failure nor an answer changes what is asked next. Sampling repeats the requests of one call as often
as there are iterations. A call that does not fit the interface has no requests.
-/

namespace FixtureProbe

open Dialogue

variable {α : Type}

/-!
# Sampling
-/

namespace Latency

theorem attempt_makes (label : String) (iteration : Nat)
    {op : Dialogue Log.Record (Except String α)} {requests : List Request}
    (hop : op.Makes requests) : (attempt label iteration op).Makes requests := by
  apply Makes.now.silent_bind
  intro start
  apply hop.bind_silent
  intro outcome
  cases outcome with
  | ok value => exact Makes.now.silent_bind fun _ => Makes.pure _
  | error error => exact (Makes.note _).silent_bind fun _ => Makes.pure _

theorem attempts_makes (label : String) {op : Dialogue Log.Record (Except String α)}
    {requests : List Request} (hop : op.Makes requests) (count iteration : Nat) :
    (attempts label op count iteration).Makes (List.replicate count requests).flatten := by
  induction count generalizing iteration with
  | zero => exact Makes.pure []
  | succ count ih =>
      rw [List.replicate_succ, List.flatten_cons]
      apply (attempt_makes label iteration hop).bind
      intro first
      exact (ih (iteration + 1)).bind_silent fun _ => Makes.pure _

theorem sample_makes (label : String) (iterations : UInt32)
    {op : Dialogue Log.Record (Except String α)} {requests : List Request}
    (hop : op.Makes requests) :
    (sample label iterations op).Makes (List.replicate iterations.toNat requests).flatten :=
  (attempts_makes label hop iterations.toNat 1).bind_silent fun _ => Makes.pure _

end Latency

/-!
# The four calls
-/

namespace Survey

/-- The match that is read refines the current ids. -/
def refined (defaults : Defaults) : Outcome Match -> Defaults
  | .ok m => defaults.withMatch m
  | .error _ => defaults

theorem of_readCurrentMatch {σ : Type} {reader : Reader} (h : reader.interface.Encodes)
    {node : Node σ} {s s' : σ} {defaults current : Defaults} {fixture : Outcome Match}
    {log : List Exchange}
    (hrun : Runs node s (readCurrentMatch reader defaults) (fixture, current) log s') :
    fixture = Reader.verdict (.getMatch defaults.matchId)
        (reader.interface.decodeMatch defaults.matchId)
        (reader.reply node s (.getMatch defaults.matchId)) ∧
      current = refined defaults fixture ∧
      log.map Exchange.request = [reader.callRequest (.getMatch defaults.matchId)] := by
  rcases hrun.of_bind with ⟨outcome, first, second, s₁, hread, hrest, rfl⟩
  rcases (Reader.read_runs h node s _ _).unique hread with ⟨houtcome, rfl, -⟩
  cases outcome with
  | ok m =>
      rcases hrest.of_pure with ⟨hpair, rfl, -⟩
      cases hpair
      exact ⟨houtcome.symm, rfl, rfl⟩
  | error e =>
      rcases hrest.of_pure with ⟨hpair, rfl, -⟩
      cases hpair
      exact ⟨houtcome.symm, rfl, rfl⟩

theorem each_makes {act : Operation -> Dialogue Log.Record α}
    {requests : Operation -> List Request} (hact : forall op, (act op).Makes (requests op))
    (ops : List Operation) : (each act ops).Makes (ops.flatMap requests) := by
  induction ops with
  | nil => exact Makes.pure []
  | cons op ops ih =>
      rw [List.flatMap_cons]
      apply (hact op).bind
      intro first
      exact ih.bind_silent fun _ => Makes.pure _

theorem record_makes {act : Operation -> Dialogue Log.Record (Outcome α)} {op : Operation}
    {requests : List Request} (hact : (act op).Makes requests) :
    (record act op).Makes requests :=
  hact.bind_silent fun _ => Makes.pure _

section Requests

variable (reader : Reader) (defaults : Defaults)

theorem gas_makes_gasRequests :
    (gas reader defaults).Makes (defaults.operations.flatMap reader.gasRequests) :=
  each_makes (fun op => record_makes (reader.estimateGas_makes_gasRequests op)) _

theorem rawCalls_makes_callRequests :
    (rawCalls reader defaults).Makes (defaults.operations.flatMap reader.callRequests) :=
  each_makes (fun op => record_makes (reader.rawCall_makes_callRequests op)) _

theorem timed_makes_callRequests (op : Operation) :
    (timed reader op).Makes (reader.callRequests op) :=
  (reader.invoke_makes_callRequests op).bind_silent fun _ => Makes.pure _

theorem latency_makes_callRequests (iterations : UInt32) :
    (latency reader defaults iterations).Makes
      (defaults.operations.flatMap fun op =>
        (List.replicate iterations.toNat (reader.callRequests op)).flatten) :=
  each_makes (fun op => Latency.sample_makes op.text iterations
    (timed_makes_callRequests reader op)) _

end Requests

section Encoded

variable {reader : Reader} (h : reader.interface.Encodes) (defaults : Defaults)

include h

theorem gas_makes :
    (gas reader defaults).Makes (defaults.operations.map reader.gasRequest) := by
  rw [List.map_eq_flatMap]
  simp only [← Reader.gasRequests_eq h]
  exact gas_makes_gasRequests reader defaults

theorem rawCalls_makes :
    (rawCalls reader defaults).Makes (defaults.operations.map reader.callRequest) := by
  rw [List.map_eq_flatMap]
  simp only [← Reader.callRequests_eq h]
  exact rawCalls_makes_callRequests reader defaults

theorem latency_makes (iterations : UInt32) :
    (latency reader defaults iterations).Makes
      (defaults.operations.flatMap fun op =>
        List.replicate iterations.toNat (reader.callRequest op)) := by
  have hmakes := latency_makes_callRequests reader defaults iterations
  simp only [Reader.callRequests_eq h, List.flatten_replicate_singleton] at hmakes
  exact hmakes

end Encoded

end Survey

end FixtureProbe
