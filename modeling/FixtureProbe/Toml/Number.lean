import FixtureProbe.Decimal.Basic
import FixtureProbe.Text.Scan
import FixtureProbe.Toml.Failure

/-!
# Numbers

Whole numbers in four bases, and numbers with a point or an exponent. Underscores may stand between
two digits. Only zero itself begins with a zero, in front of a point and of an exponent too.
-/

namespace FixtureProbe
namespace Toml
namespace Number

open Scan (digitsValue)

/-!
# Digits
-/

/-- The digits that follow a digit, each of them behind an underscore or not. -/
def moreDigits (isDigit : Char -> Bool) : List Char -> Reading (List Char × List Char)
  | '_' :: c :: rest => do
      if isDigit c then
        let (digits, rest) ← moreDigits isDigit rest
        return (c :: digits, rest)
      else ((Reading.fail (c :: rest)).expecting ["digit"]).certain
  | ['_'] => ((Reading.fail []).expecting ["digit"]).certain
  | c :: rest => do
      if isDigit c then
        let (digits, rest) ← moreDigits isDigit rest
        return (c :: digits, rest)
      else return ([], c :: rest)
  | [] => .ok ([], [])

def someDigits (isDigit : Char -> Bool) (text : List Char) : Reading (List Char × List Char) := do
  match text with
  | [] => Reading.fail []
  | c :: rest =>
      if isDigit c then
        let (digits, rest) ← moreDigits isDigit rest
        return (c :: digits, rest)
      else Reading.fail text

def sign : List Char -> List Char × List Char
  | '+' :: rest => (['+'], rest)
  | '-' :: rest => (['-'], rest)
  | rest => ([], rest)

def readSigned (text : List Char) : Reading ((List Char × List Char) × List Char) := do
  let (sign, digits) := sign text
  let reading : Reading (List Char × List Char) := match digits with
    | '0' :: rest => .ok (['0'], rest)
    | _ => someDigits Char.isDigit digits
  let (digits, rest) ← reading.about "integer"
  return ((sign, digits), rest)

/-!
# Whole numbers
-/

def inBase (base : Nat) (digits : List Char) : Except Cause Int := do
  let n := digits.foldl (fun n c => n * base + (Bytes.hexValue? c).getD 0) 0
  if n < UInt64.size / 2 then return n else throw (.number .tooLarge)

/-- A number in another base, read from behind its first two characters. -/
def readInBase (base : Nat) (name : String) (text digits : List Char) :
    Reading (Int × List Char) :=
  let isDigit (c : Char) : Bool := (Bytes.hexValue? c).any (· < base)
  let reading := (someDigits isDigit digits).about (name ++ " integer")
  (Reading.check text reading (inBase base)).certain

def readInteger (text : List Char) : Reading (Int × List Char) := do
  match text with
  | '0' :: 'x' :: digits => readInBase 16 "hexadecimal" text digits
  | '0' :: 'o' :: digits => readInBase 8 "octal" text digits
  | '0' :: 'b' :: digits => readInBase 2 "binary" text digits
  | _ =>
      let ((sign, digits), rest) ← readSigned text
      match Decimal.signed (String.ofList (sign ++ digits)) with
      | .ok n => return (n, rest)
      | .error e => (Reading.failFor (.number e) text).certain

/-!
# Numbers with a point or an exponent
-/

def readFraction (text : List Char) : Reading (List Char × List Char) := do
  match text with
  | '.' :: rest => ((someDigits Char.isDigit rest).certain).expecting ["digit"]
  | _ => Reading.fail text

def readExponent (text : List Char) : Reading (Int × List Char) := do
  match text with
  | c :: rest =>
      if c = 'e' ∨ c = 'E' then
        let (sign, rest) := sign rest
        let (digits, rest) ← (someDigits Char.isDigit rest).certain
        let n : Int := digitsValue digits
        return (if sign = ['-'] then -n else n, rest)
      else Reading.fail text
  | [] => Reading.fail []

/-- What makes a number more than a whole one: an exponent, or a fraction and maybe an exponent. -/
def readTail (text : List Char) : Reading ((List Char × Int) × List Char) :=
  let alone : Reading ((List Char × Int) × List Char) := do
    let (exponent, rest) ← readExponent text
    return (([], exponent), rest)
  alone.orElse fun _ => do
    let (fraction, rest) ← readFraction text
    let (exponent, rest) ← Reading.optional rest (readExponent rest)
    return ((fraction, exponent.getD 0), rest)

def infinity : Float :=
  Float.ofScientific 1 false 400

/-- The double nearest to a number; of those beyond all doubles only negative ones are admitted. -/
def readPointed (text : List Char) : Reading (Float × List Char) := do
  let ((sign, whole), rest) ← readSigned text
  let ((fraction, exponent), rest) ← readTail rest
  let digits := digitsValue (whole ++ fraction)
  match Decimal.nearest? digits (exponent - fraction.length), sign with
  | some x, ['-'] => return (-x, rest)
  | some x, _ => return (x, rest)
  | none, ['-'] => return (-infinity, rest)
  | none, _ => (Reading.fail text).certain

def readSpecial (text : List Char) : Reading (Float × List Char) := do
  let (sign, name) := sign text
  let signed (x : Float) := if sign = ['-'] then -x else x
  match name with
  | 'i' :: 'n' :: 'f' :: rest => return (signed infinity, rest)
  | 'n' :: 'a' :: 'n' :: rest => return (signed (0 / 0), rest)
  | _ => Reading.fail name

def readFloat (text : List Char) : Reading (Float × List Char) :=
  ((readPointed text).orElse fun _ => readSpecial text).about "floating-point number"

end Number
end Toml
end FixtureProbe
