import FixtureProbe.Decimal.Basic

/-!
# The shortest decimal that reads back

A double is printed with as few digits as still single it out among all doubles, and among the
decimals of that length with the one nearest to it. The candidates of a length are the two points
next to the value on the decimal grid of that length.
-/

namespace FixtureProbe
namespace Decimal

/-!
# The search for the digits
-/

structure Scaled where
  digits : Nat
  exponent : Int
  deriving DecidableEq

/--
The reals that are read as the value, in quarters of its unit: the value is `4 * mantissa` of them,
and an end belongs to the interval when the mantissa is even.
-/
structure Interval where
  low : Nat
  value : Nat
  high : Nat
  closed : Bool

def Binary.interval (b : Binary) : Interval :=
  ⟨4 * b.mantissa - (if b.lowerHalf then 1 else 2), 4 * b.mantissa, 4 * b.mantissa + 2,
    b.mantissa % 2 = 0⟩

def Interval.holds (i : Interval) (num den : Nat) : Bool :=
  if i.closed then i.low * den ≤ num && num ≤ i.high * den
  else i.low * den < num && num < i.high * den

/-- The grid point nearer to the value among those of the two neighbours that read back. -/
def Interval.onGrid? (i : Interval) (gridNum gridDen : Nat) : Option Nat :=
  let below := i.value * gridDen / gridNum
  let above := below + 1
  let nearest := roundEven (i.value * gridDen) gridNum
  if i.holds (nearest * gridNum) gridDen then some nearest
  else if i.holds (below * gridNum) gridDen then some below
  else if i.holds (above * gridNum) gridDen then some above
  else none

/--
The coarsest grid with a point that reads back, tried from `10 ^ exponent` downwards. The unit of
the interval is `2 ^ unit`.
-/
def Interval.search (i : Interval) (unit : Int) : (fuel : Nat) -> (exponent : Int) -> Scaled
  | 0, exponent => ⟨0, exponent⟩
  | fuel + 1, exponent =>
      let gridNum := Nat.pow 10 exponent.toNat <<< (-unit).toNat
      let gridDen := Nat.pow 10 (-exponent).toNat <<< unit.toNat
      match i.onGrid? gridNum gridDen with
      | some 0 => i.search unit fuel (exponent - 1)
      | some digits => ⟨digits, exponent⟩
      | none => i.search unit fuel (exponent - 1)

/-- An exponent of ten that is at least the number of decimal digits of the value. -/
def Binary.magnitude (b : Binary) : Int :=
  let bits : Int := (Nat.log2 b.mantissa : Int) + 1 + b.exponent
  if 0 ≤ bits then bits * 30103 / 100000 + 1 else -((-bits) * 30102 / 100000) + 1

def Binary.shortest (b : Binary) : Scaled :=
  b.interval.search (b.exponent - 2) 24 b.magnitude

/-!
# Layout
-/

structure FloatFormat where
  /-- Values below `10 ^ positionalBelow` are written without an exponent. -/
  positionalBelow : Int
  /-- Values from `10 ^ positionalFrom` on are written without an exponent. -/
  positionalFrom : Int
  plusSign : Bool

def FloatFormat.exponentText (format : FloatFormat) (exponent : Int) : List Char :=
  if format.plusSign ∧ 0 ≤ exponent then '+' :: (toString exponent).toList
  else (toString exponent).toList

def FloatFormat.layout (format : FloatFormat) (d : Scaled) : List Char :=
  let digits := Nat.toDigits 10 d.digits
  let point : Int := digits.length + d.exponent
  if 0 ≤ d.exponent ∧ point ≤ format.positionalBelow then
    digits ++ List.replicate d.exponent.toNat '0' ++ ['.', '0']
  else if 0 < point ∧ point ≤ format.positionalBelow then
    digits.take point.toNat ++ '.' :: digits.drop point.toNat
  else if format.positionalFrom < point ∧ point ≤ 0 then
    '0' :: '.' :: List.replicate (-point).toNat '0' ++ digits
  else
    let mantissa := match digits with
      | first :: second :: rest => first :: '.' :: second :: rest
      | short => short
    mantissa ++ 'e' :: format.exponentText (point - 1)

def FloatFormat.text? (format : FloatFormat) (x : Float) : Option String :=
  (Binary.ofFloat? x).map fun b =>
    let sign := if b.negative then ['-'] else []
    let body := if b.mantissa = 0 then ['0', '.', '0'] else format.layout b.shortest
    String.ofList (sign ++ body)

def FloatFormat.withoutExponent : FloatFormat := ⟨400, -400, false⟩

/-- A double in its shortest digits and without an exponent, with a point in any case. -/
def positional (x : Float) : String :=
  match FloatFormat.withoutExponent.text? x with
  | some text => text
  | none => if x.isNaN then "NaN" else if x < 0 then "-inf" else "inf"

end Decimal
end FixtureProbe
