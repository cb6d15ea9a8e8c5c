/-!
# Decimal numbers

Formatting works on exact natural numbers. A finite double is read as `mantissa * 2 ^ exponent`; what is
printed from it with a fixed number of places is then a quotient, scaled by a power of ten and rounded
once. The other way a decimal with any number of digits is rounded once as well, to the nearest double.
Whole numbers are read within bounds, and a reader that fails tells what it met first: a character that
is no digit, or a number beyond its bounds.
-/

namespace FixtureProbe
namespace Decimal

/-!
# Digits
-/

def padded (width n : Nat) : List Char :=
  let digits := Nat.toDigits 10 n
  List.replicate (width - digits.length) '0' ++ digits

/-- The digits of `n` with a point before the last `places` of them and a digit before the point. -/
def pointed (places n : Nat) : List Char :=
  let digits := padded (places + 1) n
  let whole := digits.take (digits.length - places)
  if places = 0 then whole else whole ++ '.' :: digits.drop (digits.length - places)

/-!
# Rounding
-/

/-- The whole number nearest to `num / den`; of two equally near ones the even one. -/
def roundEven (num den : Nat) : Nat :=
  let low := num / den
  let twice := 2 * (num % den)
  if twice < den then low
  else if den < twice then low + 1
  else if low % 2 = 0 then low
  else low + 1

theorem roundEven_within_half {num den : Nat} (h : 0 < den) :
    2 * num ≤ (2 * roundEven num den + 1) * den ∧
      2 * roundEven num den * den ≤ 2 * num + den := by
  have hdiv := Nat.div_add_mod num den
  have hlt := Nat.mod_lt num h
  unfold roundEven
  simp only
  split
  · constructor
    · have : (2 * (num / den) + 1) * den = 2 * (den * (num / den)) + den := by
        rw [Nat.add_mul, Nat.one_mul, Nat.mul_assoc, Nat.mul_comm (num / den) den]
      omega
    · have : 2 * (num / den) * den = 2 * (den * (num / den)) := by
        rw [Nat.mul_assoc, Nat.mul_comm (num / den) den]
      omega
  · have hup : 2 * (num / den + 1) * den = 2 * (den * (num / den)) + 2 * den := by
      rw [Nat.mul_assoc, Nat.add_mul, Nat.one_mul, Nat.mul_add, Nat.mul_comm (num / den) den]
    have hup' : (2 * (num / den + 1) + 1) * den = 2 * (den * (num / den)) + 3 * den := by
      rw [Nat.add_mul, hup, Nat.one_mul]
      omega
    have hlow : (2 * (num / den) + 1) * den = 2 * (den * (num / den)) + den := by
      rw [Nat.add_mul, Nat.one_mul, Nat.mul_assoc, Nat.mul_comm (num / den) den]
    have hlow' : 2 * (num / den) * den = 2 * (den * (num / den)) := by
      rw [Nat.mul_assoc, Nat.mul_comm (num / den) den]
    split
    · constructor <;> omega
    · split
      · constructor <;> omega
      · constructor <;> omega

/-!
# Doubles
-/

structure Binary where
  negative : Bool
  mantissa : Nat
  exponent : Int
  /-- The neighbour below is only half as far away as the neighbour above. -/
  lowerHalf : Bool
  deriving DecidableEq

/-- The bit of a mantissa that is not written, because it is always one. -/
def Binary.hiddenBit : Nat := 0x10000000000000

def Binary.ofBits? (bits : UInt64) : Option Binary :=
  let n : Nat := bits.toNat
  let negative := 2048 ≤ n / hiddenBit
  let field : Nat := n / hiddenBit % 2048
  let fraction : Nat := n % hiddenBit
  if field = 2047 then none
  else if field = 0 then some ⟨negative, fraction, -1074, false⟩
  else some ⟨negative, hiddenBit + fraction, (field : Int) - 1075, fraction = 0 && 1 < field⟩

def Binary.ofFloat? (x : Float) : Option Binary :=
  Binary.ofBits? x.toBits

def Binary.quotient (b : Binary) : Nat × Nat :=
  if 0 ≤ b.exponent then (b.mantissa <<< b.exponent.toNat, 1)
  else (b.mantissa, 1 <<< (-b.exponent).toNat)

def Binary.fixed (places : Nat) (b : Binary) : String :=
  let (num, den) := b.quotient
  let digits := pointed places (roundEven (num * Nat.pow 10 places) den)
  String.ofList (if b.negative then '-' :: digits else digits)

def fixed (places : Nat) (x : Float) : String :=
  match Binary.ofFloat? x with
  | some b => b.fixed places
  | none => if x.isNaN then "NaN" else if x < 0 then "-inf" else "inf"

def nearest? (digits : Nat) (exponent : Int) : Option Float :=
  let magnitude : Int := (Nat.toDigits 10 digits).length + exponent
  if digits = 0 ∨ magnitude < -400 then some 0
  else if 400 < magnitude then none
  else
    let x := if 0 ≤ exponent then Float.ofScientific digits false exponent.toNat
      else Float.ofScientific digits true (-exponent).toNat
    if x.isInf then none else some x

end Decimal

/-!
# Whole numbers
-/

inductive NumberError where
  | empty
  | digit
  | tooLarge
  | tooSmall
  deriving DecidableEq

def NumberError.message : NumberError -> String
  | .empty => "cannot parse integer from empty string"
  | .digit => "invalid digit found in string"
  | .tooLarge => "number too large to fit in target type"
  | .tooSmall => "number too small to fit in target type"

namespace Decimal

/-- The number spelled by digits, read from the left as long as it stays within a bound. -/
def bounded (bound : Nat) (beyond : NumberError) : (n : Nat) -> List Char -> Except NumberError Nat
  | n, [] => .ok n
  | n, c :: rest =>
      if !c.isDigit then .error .digit
      else
        let next := n * 10 + (c.toNat - 48)
        if next ≤ bound then bounded bound beyond next rest else .error beyond

def unsigned (word : String) : Except NumberError UInt64 :=
  let digits := match word.toList with
    | '+' :: c :: rest => c :: rest
    | digits => digits
  if digits = [] then .error .empty
  else (bounded (UInt64.size - 1) .tooLarge 0 digits).map .ofNat

def signed (word : String) : Except NumberError Int :=
  match word.toList with
  | [] => .error .empty
  | '-' :: c :: rest => (bounded (UInt64.size / 2) .tooSmall 0 (c :: rest)).map fun n => -(n : Int)
  | '+' :: c :: rest =>
      (bounded (UInt64.size / 2 - 1) .tooLarge 0 (c :: rest)).map fun n => (n : Int)
  | digits => (bounded (UInt64.size / 2 - 1) .tooLarge 0 digits).map fun n => (n : Int)

end Decimal
end FixtureProbe
