import FixtureProbe.Latency.Duration

/-!
# Latency statistics

The least, the greatest and the mean of a list of durations. The mean is exact: the total divided by
the number of durations, rounded down to a whole nanosecond. The total has to be a duration itself,
and the number that it is divided by has 32 bits.
-/

namespace FixtureProbe

structure LatencyStats where
  samples : Nat
  min : Duration
  max : Duration
  average : Duration
  deriving DecidableEq

namespace LatencyStats

def totalNanos (durations : List Duration) : Nat :=
  durations.foldr (fun d n => d.nanos + n) 0

/-- The number of durations that their total is divided by: its low 32 bits. -/
def divisor (durations : List Duration) : UInt32 :=
  UInt32.ofNat durations.length

def mean (durations : List Duration) : Duration :=
  .ofNanos (totalNanos durations / (divisor durations).toNat)

/-- The statistics of a list of durations; there are none of an empty list. -/
def ofSamples (durations : List Duration) : Option LatencyStats := do
  let min ← durations.min?
  let max ← durations.max?
  return { samples := durations.length, min, max, average := mean durations }

inductive Overflow where
  | total
  /-- There are so many durations that their number is cut to zero. -/
  | divisor
  deriving DecidableEq

def Overflow.message : Overflow -> String
  | .total => "overflow in iter::sum over durations"
  | .divisor => "divide by zero error when dividing duration by scalar"

/-- The statistics of a list of durations whose mean must exist. -/
def ofSamples? (durations : List Duration) : Except Overflow (Option LatencyStats) :=
  if durations.isEmpty then .ok none
  else if Duration.limit ≤ totalNanos durations then .error .total
  else if divisor durations = 0 then .error .divisor
  else .ok (ofSamples durations)

theorem ofSamples_of_ofSamples? {durations : List Duration} {stats : Option LatencyStats}
    (h : ofSamples? durations = .ok stats) : ofSamples durations = stats := by
  unfold ofSamples? at h
  split at h
  · next hempty =>
    cases h
    rw [List.isEmpty_iff.mp hempty]
    rfl
  · split at h
    · cases h
    · split at h
      · cases h
      · exact Except.ok.inj h

end LatencyStats

end FixtureProbe
