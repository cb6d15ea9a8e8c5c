import FixtureProbe.Latency.Sampler
import FixtureProbe.Proofs.Latency.Statistics
import FixtureProbe.Proofs.Probe.Walk

/-!
# What a sample says about its runs

A sample calls its operation a fixed number of times, each time in the state in which the call before
has left the node. Its report sorts these calls: the times of those that came through, in order, and
the numbers and texts of those that failed. No more calls are made than 32 bits can count, so the
number of the durations is what their total is divided by.
-/

namespace FixtureProbe

open Dialogue LatencyStats

variable {α σ : Type}

namespace Latency

/-!
# Successes and failures
-/

theorem failures_cons {ε : Type} (outcome : Except ε α) (others : List (Except ε α)) :
    failures (outcome :: others) = failures [outcome] ++ failures others := by
  cases outcome with
  | ok a => rfl
  | error e => rfl

theorem length_successes_add_failures {ε : Type} (outcomes : List (Except ε α)) :
    (successes outcomes).length + (failures outcomes).length = outcomes.length := by
  induction outcomes with
  | nil => rfl
  | cons outcome outcomes ih =>
      cases outcome with
      | ok a =>
          simp only [successes, failures, List.length_cons]
          omega
      | error e =>
          simp only [successes, failures, List.length_cons]
          omega

theorem mem_failures {ε : Type} {e : ε} {outcomes : List (Except ε α)} :
    e ∈ failures outcomes ↔ .error e ∈ outcomes := by
  induction outcomes with
  | nil => simp [failures]
  | cons outcome outcomes ih => cases outcome <;> simp [failures, ih]

/-!
# Calls
-/

/-- Calls of an operation, made one after another. Each starts with a look at the clock. A call that
comes through is followed by another look, and is known by the time in between; a call that fails is
known by its text. -/
inductive Called (node : Node σ) (op : Dialogue Log.Record (Except String α)) :
    σ -> List (Except String Duration) -> List Exchange -> σ -> Prop where
  | nil (s : σ) : Called node op s [] [] s
  | ok {s s₁ s' : σ} {a : α} {calls : List (Except String Duration)} {first rest : List Exchange}
      (hop : Runs node (node.time s).2 op (.ok a) first s₁)
      (hrest : Called node op (node.time s₁).2 calls rest s') :
      Called node op s (.ok (.between (node.time s).1 (node.time s₁).1) :: calls) (first ++ rest) s'
  | error {s s₁ s' : σ} {text : String} {calls : List (Except String Duration)}
      {first rest : List Exchange}
      (hop : Runs node (node.time s).2 op (.error text) first s₁)
      (hrest : Called node op s₁ calls rest s') :
      Called node op s (.error text :: calls) (first ++ rest) s'

/-- Calls with their numbers, the first of which is given: a failure bears the number of its call. -/
def numbered (iteration : Nat) (calls : List (Except String Duration)) :
    List (Except FailedIteration Duration) :=
  (calls.zipIdx iteration).map fun call => call.1.mapError (FailedIteration.mk call.2)

theorem numbered_cons (iteration : Nat) (call : Except String Duration)
    (calls : List (Except String Duration)) :
    numbered iteration (call :: calls) =
      call.mapError (FailedIteration.mk iteration) :: numbered (iteration + 1) calls :=
  rfl

variable {node : Node σ} {op : Dialogue Log.Record (Except String α)} {s s' : σ}
  {log : List Exchange} {label : String}

theorem attempt_cases {iteration : Nat} {outcome : Except FailedIteration Duration}
    (h : Runs node s (attempt label iteration op) outcome log s') :
    (exists a s₁, Runs node (node.time s).2 op (.ok a) log s₁ ∧
      outcome = .ok (.between (node.time s).1 (node.time s₁).1) ∧ s' = (node.time s₁).2) ∨
    (exists text, Runs node (node.time s).2 op (.error text) log s' ∧
      outcome = .error ⟨iteration, text⟩) := by
  have hnow := fun s => Runs.self node s (now : Dialogue Log.Record Nat)
  rcases ((hnow s).of_silent_bind h).of_bind with ⟨value, first, second, s₁, hop, hrest, rfl⟩
  cases value with
  | ok a =>
      rcases ((hnow s₁).of_silent_bind hrest).of_pure with ⟨rfl, rfl, rfl⟩
      rw [List.append_nil]
      exact Or.inl ⟨a, s₁, hop, rfl, rfl⟩
  | error text =>
      rcases ((Runs.note _).of_silent_bind hrest).of_pure with ⟨rfl, rfl, rfl⟩
      rw [List.append_nil]
      exact Or.inr ⟨text, hop, rfl⟩

/-- The step: one more run is one more call in front of those that follow. -/
theorem called_of_attempt {iteration : Nat} {outcome : Except FailedIteration Duration} {s₁ : σ}
    (h : Runs node s (attempt label iteration op) outcome log s₁) :
    exists call, outcome = call.mapError (FailedIteration.mk iteration) ∧
      forall {calls : List (Except String Duration)} {rest : List Exchange} {s' : σ},
        Called node op s₁ calls rest s' -> Called node op s (call :: calls) (log ++ rest) s' := by
  rcases attempt_cases h with ⟨a, s₂, hop, rfl, rfl⟩ | ⟨text, hop, rfl⟩
  · exact ⟨.ok (.between (node.time s).1 (node.time s₂).1), rfl, fun hcalls => .ok hop hcalls⟩
  · exact ⟨.error text, rfl, fun hcalls => .error hop hcalls⟩

/-- The run: there are as many calls as there should be runs. -/
theorem called_of_attempts {count iteration : Nat}
    {outcomes : List (Except FailedIteration Duration)}
    (h : Runs node s (attempts label op count iteration) outcomes log s') :
    exists calls, calls.length = count ∧ outcomes = numbered iteration calls ∧
      Called node op s calls log s' := by
  induction count generalizing iteration s log outcomes with
  | zero =>
      rcases h.of_pure with ⟨rfl, rfl, rfl⟩
      exact ⟨[], rfl, rfl, .nil s⟩
  | succ count ih =>
      rcases h.of_bind with ⟨first, firstLog, rest, s₁, hfirst, hrest, rfl⟩
      rcases hrest.of_bind with ⟨others, othersLog, last, s₂, hothers, hpure, rfl⟩
      rcases hpure.of_pure with ⟨rfl, rfl, rfl⟩
      rcases called_of_attempt hfirst with ⟨call, rfl, hcall⟩
      rcases ih hothers with ⟨calls, hlength, rfl, hcalls⟩
      rw [List.append_nil]
      refine ⟨call :: calls, ?_, ?_, hcall hcalls⟩
      · rw [List.length_cons, hlength]
      · rw [numbered_cons]

/-!
# What is listed of numbered calls
-/

theorem mem_failures_numbered {iteration : Nat} {calls : List (Except String Duration)}
    {failure : FailedIteration} :
    failure ∈ failures (numbered iteration calls) ↔ iteration ≤ failure.iteration ∧
      calls[failure.iteration - iteration]? = some (.error failure.error) := by
  rw [mem_failures, numbered, List.mem_map, ← List.mk_mem_zipIdx_iff_le_and_getElem?_sub]
  constructor
  · rintro ⟨⟨call, number⟩, hcall, herror⟩
    cases call with
    | ok duration => cases herror
    | error text =>
        cases herror
        exact hcall
  · intro hcall
    exact ⟨_, hcall, rfl⟩

theorem ascending_failures_numbered (iteration : Nat) (calls : List (Except String Duration)) :
    (failures (numbered iteration calls)).Pairwise fun first later =>
      first.iteration < later.iteration := by
  induction calls generalizing iteration with
  | nil => exact .nil
  | cons call calls ih =>
      rw [numbered_cons]
      cases call with
      | ok duration => exact ih (iteration + 1)
      | error text =>
          apply List.Pairwise.cons _ (ih (iteration + 1))
          intro failure hfailure
          exact (mem_failures_numbered.mp hfailure).1

theorem successes_numbered (iteration : Nat) (calls : List (Except String Duration)) :
    successes (numbered iteration calls) = calls.filterMap Except.toOption := by
  induction calls generalizing iteration with
  | nil => rfl
  | cons call calls ih =>
      rw [numbered_cons]
      cases call with
      | ok duration => exact congrArg (duration :: ·) (ih (iteration + 1))
      | error text => exact ih (iteration + 1)

theorem length_numbered (iteration : Nat) (calls : List (Except String Duration)) :
    (numbered iteration calls).length = calls.length := by
  rw [numbered, List.length_map, List.length_zipIdx]

/-!
# Reports
-/

/-- What a report says about the calls that it is made of. -/
structure ReportsOn (label : String) (iterations : UInt32) (calls : List (Except String Duration))
    (report : LatencyReport) : Prop where
  label_eq : report.label = label
  iterations_eq : report.iterations = iterations
  /-- The times of the calls that came through, in the order of the calls. -/
  durations_eq : report.durations = calls.filterMap Except.toOption
  /-- Listed are the calls that failed, each by its number, counted from one, and its own text. -/
  mem_failures : forall failure, failure ∈ report.failures ↔ 1 ≤ failure.iteration ∧
    calls[failure.iteration - 1]? = some (.error failure.error)
  ascending : report.failures.Pairwise fun first later => first.iteration < later.iteration
  length_add_length : report.durations.length + report.failures.length = iterations.toNat
  stats_eq_none_iff : report.stats = none ↔ forall duration, .ok duration ∉ calls
  summarises : forall stats, report.stats = some stats -> Summarises report.durations stats
  toNat_divisor : (divisor report.durations).toNat = report.durations.length
  divisor_ne_zero : report.stats ≠ none -> divisor report.durations ≠ 0

theorem reportsOn_numbered (label : String) {iterations : UInt32}
    {calls : List (Except String Duration)} (hlength : calls.length = iterations.toNat) :
    ReportsOn label iterations calls (report label iterations (numbered 1 calls)) := by
  have hsum := length_successes_add_failures (numbered 1 calls)
  rw [length_numbered, hlength] at hsum
  have hsize : (successes (numbered 1 calls)).length < UInt32.size := by
    have hlt := iterations.toNat_lt_size
    omega
  have hdurations := successes_numbered 1 calls
  constructor
  · rfl
  · rfl
  · exact hdurations
  · exact fun _ => mem_failures_numbered
  · exact ascending_failures_numbered 1 calls
  · exact hsum
  · rw [report, ofSamples_eq_none_iff, hdurations, List.filterMap_eq_nil_iff]
    constructor
    · intro hnone duration hmem
      cases hnone _ hmem
    · intro hnone call hmem
      cases call with
      | ok duration => exact absurd hmem (hnone duration)
      | error text => rfl
  · exact fun _ => summarises_of_ofSamples hsize
  · exact toNat_divisor hsize
  · intro hstats
    apply divisor_ne_zero hsize
    exact fun hnil => hstats (ofSamples_eq_none_iff.mpr hnil)

/-- A sample makes as many calls as there are iterations, and its report is on these. As long as the
total of the durations is one itself, nothing stands in the way of their statistics. -/
theorem sample_reportsOn (label : String) (iterations : UInt32)
    (op : Dialogue Log.Record (Except String α)) (node : Node σ) (s : σ)
    (htotal : total ((sample label iterations op).run node s).value.durations / nanosPerSecond <
      UInt64.size) :
    let run := (sample label iterations op).run node s
    (exists calls, calls.length = iterations.toNat ∧
      Called node op s calls run.exchanges run.state ∧
      ReportsOn label iterations calls run.value) ∧
    ofSamples? run.value.durations = .ok run.value.stats := by
  intro run
  rcases (Runs.self node s (sample label iterations op)).of_bind_pure with
    ⟨outcomes, hattempts, hvalue⟩
  rcases called_of_attempts hattempts with ⟨calls, hlength, rfl, hcalled⟩
  have hreport : ReportsOn label iterations calls run.value := by
    rw [← hvalue]
    exact reportsOn_numbered label hlength
  refine ⟨⟨calls, hlength, hcalled, hreport⟩, ?_⟩
  have hsize : run.value.durations.length < UInt32.size := by
    have hsum := hreport.length_add_length
    have hlt := iterations.toNat_lt_size
    omega
  rw [← totalNanos_eq_total] at htotal
  have hstats := ofSamples?_of_lt hsize htotal
  rw [← hvalue] at hstats ⊢
  rw [hstats, stats_report label iterations hstats]

/-- Of three calls of a busy node the third one fails. -/
theorem sample_reportsOn_flaky :
    let op : Dialogue Log.Record (Except String UInt64) := Dialogue.request .blockNumber
    let run := (sample "block number" 3 op).run Node.flaky 0
    total run.value.durations / nanosPerSecond < UInt64.size ∧
    run.value.failures = [⟨3, "busy"⟩] ∧ run.value.durations.length = 2 ∧
    exists calls, calls.length = 3 ∧ Called Node.flaky op 0 calls run.exchanges run.state ∧
      ReportsOn "block number" 3 calls run.value := by
  intro op run
  have htotal : total run.value.durations / nanosPerSecond < UInt64.size := by decide
  have hreports := sample_reportsOn "block number" 3 op Node.flaky 0 htotal
  exact ⟨htotal, rfl, rfl, hreports.1⟩

end Latency

end FixtureProbe
