import FixtureProbe.Decimal.Shortest
import Mathlib.Tactic.Linarith

/-!
# The search for the shortest decimal

The search goes from coarse grids to fine ones and gives up after a fixed number of them. A grid
whose points are no further apart than one unit has a point in every interval, so the search has
found something at the latest when it comes to such a grid. For a large double this is well before
it gives up; a small one is searched on grids of fractions only.
-/

namespace FixtureProbe
namespace Decimal

/-!
# Fine grids
-/

/-- An interval that reaches at least one unit to each side of its value. -/
structure Interval.Wide (i : Interval) : Prop where
  low : i.low + 1 ≤ i.value
  high : i.value + 1 ≤ i.high

theorem Binary.wide_interval {b : Binary} (h : b.mantissa ≠ 0) : b.interval.Wide := by
  unfold interval
  constructor
  · dsimp only
    split
    · omega
    · omega
  · dsimp only
    omega

/-- The point nearest to the value of a wide interval lies in it, if the points are at most one unit
apart. -/
theorem Interval.holds_nearest {i : Interval} (h : i.Wide) {num den : Nat} (hnum : 0 < num)
    (hfine : num ≤ den) : i.holds (roundEven (i.value * den) num * num) den = true := by
  have hbounds : 2 * (i.value * den) ≤ (2 * roundEven (i.value * den) num + 1) * num ∧
      2 * roundEven (i.value * den) num * num ≤ 2 * (i.value * den) + num :=
    roundEven_within_half hnum
  rcases hbounds with ⟨hbelow, habove⟩
  have hlow : (i.low + 1) * den ≤ i.value * den := Nat.mul_le_mul_right den h.low
  have hhigh : (i.value + 1) * den ≤ i.high * den := Nat.mul_le_mul_right den h.high
  generalize roundEven (i.value * den) num = nearest at hbelow habove ⊢
  have hlower : i.low * den < nearest * num := by linarith
  have hupper : nearest * num < i.high * den := by linarith
  unfold holds
  split
  · simp [hlower.le, hupper.le]
  · simp [hlower, hupper]

/-- The point found on a fine grid is not the one at zero. -/
theorem Interval.onGrid?_of_fine {i : Interval} (h : i.Wide) {num den : Nat} (hnum : 0 < num)
    (hfine : num ≤ den) : exists digits, i.onGrid? num den = some (digits + 1) := by
  have hholds := i.holds_nearest h hnum hfine
  have hne : roundEven (i.value * den) num ≠ 0 := by
    intro hzero
    have hone : 1 ≤ i.value := le_trans (Nat.le_add_left 1 i.low) h.low
    have hvalue : 1 * den ≤ i.value * den := Nat.mul_le_mul_right den hone
    have hbelow : 2 * (i.value * den) ≤ (2 * roundEven (i.value * den) num + 1) * num :=
      (roundEven_within_half hnum).1
    rw [hzero] at hbelow
    linarith
  rcases Nat.exists_eq_succ_of_ne_zero hne with ⟨digits, hdigits⟩
  refine ⟨digits, ?_⟩
  unfold onGrid?
  rw [if_pos hholds, hdigits]

/-!
# The search
-/

/-- The points of the grid of `10 ^ exponent` are at most one unit of `2 ^ unit` apart. -/
def IsFine (unit exponent : Int) : Prop :=
  Nat.pow 10 exponent.toNat <<< (-unit).toNat ≤ Nat.pow 10 (-exponent).toNat <<< unit.toNat

/-- The search ends with digits, or it has tried all its grids. -/
theorem Interval.search_cases (i : Interval) (unit : Int) (fuel : Nat) (exponent : Int) :
    (i.search unit fuel exponent).digits ≠ 0 ∨
      (i.search unit fuel exponent).exponent = exponent - fuel := by
  induction fuel generalizing exponent with
  | zero => exact Or.inr (by simp [search])
  | succ fuel ih =>
      have hnext : exponent - 1 - (fuel : Int) = exponent - (fuel + 1 : Nat) := by omega
      have hrest := ih (exponent - 1)
      rw [hnext] at hrest
      unfold search
      dsimp only
      split
      · exact hrest
      · exact Or.inl (by assumption)
      · exact hrest

/-- The search that comes to a fine grid has found digits by then. -/
theorem Interval.search_digits_of_fine {i : Interval} (h : i.Wide) {unit : Int} {fuel steps : Nat}
    {exponent : Int} (hsteps : steps < fuel) (hfine : IsFine unit (exponent - steps)) :
    (i.search unit fuel exponent).digits ≠ 0 := by
  induction fuel generalizing exponent steps with
  | zero => omega
  | succ fuel ih =>
      -- A grid without digits is not the fine one, so that one is still to come.
      have hrest (hnone : forall digits,
          i.onGrid? (Nat.pow 10 exponent.toNat <<< (-unit).toNat)
            (Nat.pow 10 (-exponent).toNat <<< unit.toNat) ≠ some (digits + 1)) :
          (i.search unit fuel (exponent - 1)).digits ≠ 0 := by
        cases steps with
        | zero =>
            rw [Nat.cast_zero, Int.sub_zero] at hfine
            have hnum : 0 < Nat.pow 10 exponent.toNat <<< (-unit).toNat := by
              rw [Nat.shiftLeft_eq]
              exact Nat.mul_pos (Nat.pow_pos (by decide)) (Nat.pow_pos (by decide))
            rcases onGrid?_of_fine h hnum hfine with ⟨digits, hdigits⟩
            exact absurd hdigits (hnone digits)
        | succ steps =>
            have hnext : exponent - (steps + 1 : Nat) = exponent - 1 - (steps : Int) := by omega
            rw [hnext] at hfine
            exact ih (by omega) hfine
      unfold search
      dsimp only
      split
      · rename_i hfound
        apply hrest
        intro digits hdigits
        rw [hfound] at hdigits
        cases hdigits
      · assumption
      · rename_i hfound
        apply hrest
        intro digits hdigits
        rw [hfound] at hdigits
        cases hdigits

/-!
# Doubles
-/

/-- The bounds of a double. -/
structure Binary.InRange (b : Binary) : Prop where
  mantissa : b.mantissa < 2 ^ 53
  exponent : b.exponent ≤ 971

theorem Binary.inRange_of_ofBits? {bits : UInt64} {b : Binary} (h : ofBits? bits = some b) :
    b.InRange := by
  have hfraction : bits.toNat % hiddenBit < hiddenBit := Nat.mod_lt _ (by decide)
  have hfield : bits.toNat / hiddenBit % 2048 < 2048 := Nat.mod_lt _ (by decide)
  have hbit : hiddenBit + hiddenBit = 2 ^ 53 := by decide
  unfold ofBits? at h
  dsimp only at h
  split at h
  · cases h
  · split at h
    · cases h
      constructor
      · dsimp only
        omega
      · dsimp only
        omega
    · cases h
      constructor
      · dsimp only
        omega
      · dsimp only
        omega

/-- Ten bits are more than three decimal digits. -/
theorem ten_pow_le_two_pow {a b : Nat} (h : 10 * ((a + 2) / 3) ≤ b) : 10 ^ a ≤ 2 ^ b := by
  have ha : a ≤ 3 * ((a + 2) / 3) := by omega
  calc
    10 ^ a ≤ 10 ^ (3 * ((a + 2) / 3)) := Nat.pow_le_pow_right (by decide) ha
    _ = 1000 ^ ((a + 2) / 3) := Nat.pow_mul 10 3 _
    _ ≤ 1024 ^ ((a + 2) / 3) := Nat.pow_le_pow_left (by decide) _
    _ = 2 ^ (10 * ((a + 2) / 3)) := (Nat.pow_mul 2 10 _).symm
    _ ≤ 2 ^ b := Nat.pow_le_pow_right (by decide) h

/-- The last grid but one on which a large double is searched is fine. -/
theorem Binary.isFine_of_large {b : Binary} (h : b.InRange) (hlarge : 24 < b.magnitude) :
    IsFine (b.exponent - 2) (b.magnitude - (23 : Nat)) := by
  have hbits : Nat.log2 b.mantissa ≤ 52 := by
    by_cases hzero : b.mantissa = 0
    · rw [hzero]
      decide
    · have := (Nat.log2_lt hzero).mpr h.mantissa
      omega
  have hexponent := h.exponent
  unfold magnitude at hlarge ⊢
  dsimp only at hlarge ⊢
  generalize Nat.log2 b.mantissa = log at hbits hlarge ⊢
  generalize b.exponent = exponent at hexponent hlarge ⊢
  split at hlarge
  · rw [if_pos (by assumption)]
    unfold IsFine
    have hunit : (-(exponent - 2)).toNat = 0 := by omega
    have hten : (-(((log : Int) + 1 + exponent) * 30103 / 100000 + 1 - (23 : Nat))).toNat = 0 := by
      omega
    rw [hunit, hten, Nat.shiftLeft_zero, Nat.shiftLeft_eq]
    change _ ≤ 10 ^ 0 * _
    rw [Nat.pow_zero, Nat.one_mul]
    apply ten_pow_le_two_pow
    omega
  · omega

/-- The shortest decimal of a positive double has digits that are not zero, or no zeros are put
behind them. -/
theorem Binary.shortest_cases {b : Binary} (h : b.InRange) (hne : b.mantissa ≠ 0) :
    b.shortest.digits ≠ 0 ∨ b.shortest.exponent ≤ 0 := by
  by_cases hlarge : 24 < b.magnitude
  · left
    exact Interval.search_digits_of_fine (wide_interval hne) (by decide) (isFine_of_large h hlarge)
  · rcases b.interval.search_cases (b.exponent - 2) 24 b.magnitude with hdigits | hexponent
    · exact Or.inl hdigits
    · right
      unfold shortest
      omega

end Decimal
end FixtureProbe
