/-!
# Durations

A duration is a whole number of nanoseconds whose seconds fit 64 bits. Its text and its JSON form
are in milliseconds.
-/

namespace FixtureProbe

def nanosPerSecond : Nat := 1000000000

def Duration.limit : Nat := UInt64.size * nanosPerSecond

@[ext]
structure Duration where
  nanos : Nat
  nanos_lt : nanos < Duration.limit

namespace Duration

instance : DecidableEq Duration := fun a b =>
  if h : a.nanos = b.nanos then isTrue (Duration.ext h) else isFalse fun heq => h (heq ▸ rfl)

instance : LE Duration := ⟨fun a b => a.nanos ≤ b.nanos⟩

instance (a b : Duration) : Decidable (a ≤ b) :=
  inferInstanceAs (Decidable (a.nanos ≤ b.nanos))

instance : Min Duration := ⟨fun a b => if a ≤ b then a else b⟩

instance : Max Duration := ⟨fun a b => if a ≤ b then b else a⟩

def seconds (d : Duration) : Nat :=
  d.nanos / nanosPerSecond

def subsecNanos (d : Duration) : Nat :=
  d.nanos % nanosPerSecond

/-- The duration with a given number of nanoseconds, or the longest one. -/
def ofNanos (nanos : Nat) : Duration :=
  if h : nanos < limit then ⟨nanos, h⟩ else ⟨limit - 1, by decide⟩

def ofParts (seconds nanos : Nat) : Duration :=
  ofNanos (seconds * nanosPerSecond + nanos)

/-- The time between two looks at the clock; none when the clock has gone back. -/
def between (start stop : Nat) : Duration :=
  ofNanos (stop - start)

/-- Seconds as a double: the two parts are rounded on their own. -/
def secondsFloat (d : Duration) : Float :=
  (UInt64.ofNat d.seconds).toFloat + (UInt64.ofNat d.subsecNanos).toFloat / 1e9

def millis (d : Duration) : Float :=
  d.secondsFloat * 1000.0

end Duration

end FixtureProbe
