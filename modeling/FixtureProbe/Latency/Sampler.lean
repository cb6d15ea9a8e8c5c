import FixtureProbe.Latency.Stats
import FixtureProbe.Log.Record
import FixtureProbe.Node.Dialogue

/-!
# Sampling latency

A dialogue is repeated a fixed number of times, strictly one run after another. Successful runs are
timed; failed runs are listed with their number and never enter the statistics.
-/

namespace FixtureProbe

/-!
# Reports
-/

structure FailedIteration where
  /-- The number of the run, counted from one. -/
  iteration : Nat
  error : String
  deriving DecidableEq

structure LatencyReport where
  label : String
  iterations : UInt32
  durations : List Duration
  failures : List FailedIteration
  /-- None when every run failed. -/
  stats : Option LatencyStats
  deriving DecidableEq

namespace Latency

def defaultIterations : UInt32 := 10

def failedRecord (label : String) (failure : FailedIteration) : Log.Record where
  level := .debug
  target := "futchain_harness::sampler"
  message := "iteration failed"
  values := [("label", .text label), ("iteration", .number failure.iteration),
    ("error", .shown failure.error)]

/-!
# Runs
-/

def attempt (label : String) (iteration : Nat) (op : Dialogue Log.Record (Except String α)) :
    Dialogue Log.Record (Except FailedIteration Duration) := do
  let start ← Dialogue.now
  match ← op with
  | .ok _ =>
      let stop ← Dialogue.now
      return .ok (.between start stop)
  | .error error =>
      let failure := ⟨iteration, error⟩
      Dialogue.note (failedRecord label failure)
      return .error failure

/-- `count` runs, the first of which has the given number. -/
def attempts (label : String) (op : Dialogue Log.Record (Except String α)) :
    (count : Nat) -> (iteration : Nat) ->
      Dialogue Log.Record (List (Except FailedIteration Duration))
  | 0, _ => return []
  | count + 1, iteration => do
      let first ← attempt label iteration op
      let others ← attempts label op count (iteration + 1)
      return first :: others

/-!
# Their report
-/

def successes : List (Except ε α) -> List α
  | [] => []
  | .ok a :: rest => a :: successes rest
  | .error _ :: rest => successes rest

def failures : List (Except ε α) -> List ε
  | [] => []
  | .ok _ :: rest => failures rest
  | .error e :: rest => e :: failures rest

def report (label : String) (iterations : UInt32)
    (outcomes : List (Except FailedIteration Duration)) : LatencyReport where
  label
  iterations
  durations := successes outcomes
  failures := failures outcomes
  stats := LatencyStats.ofSamples (successes outcomes)

/-- As long as nothing stands in the way of statistics, a report holds them. -/
theorem stats_report (label : String) (iterations : UInt32)
    {outcomes : List (Except FailedIteration Duration)} {stats : Option LatencyStats}
    (h : LatencyStats.ofSamples? (successes outcomes) = .ok stats) :
    (report label iterations outcomes).stats = stats :=
  LatencyStats.ofSamples_of_ofSamples? h

def sample (label : String) (iterations : UInt32)
    (op : Dialogue Log.Record (Except String α)) : Dialogue Log.Record LatencyReport := do
  return report label iterations (← attempts label op iterations.toNat 1)

end Latency

end FixtureProbe
