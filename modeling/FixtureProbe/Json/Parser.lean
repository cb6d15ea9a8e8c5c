import FixtureProbe.Json.Basic
import FixtureProbe.Text.Scan

/-!
# Reading JSON

A strict reader: no comments, no trailing commas, no control characters in strings, no halves of
surrogate pairs, no numbers beyond the doubles, and at most 127 arrays and objects around a value.
Every reader takes the text that is left and returns what it read with the rest.
-/

namespace FixtureProbe
namespace Json

open Scan (expect? digitsValue)

def skipBlanks : List Char -> List Char
  | [] => []
  | c :: rest => if c = ' ' || c = '\n' || c = '\t' || c = '\r' then skipBlanks rest else c :: rest

/-!
# Numbers
-/

/-- Whole numbers below 64 bits keep their value; a negative one beyond its range is a double. -/
def wholeNumber (negative : Bool) (n : Nat) : JsonNumber :=
  if !negative then .natural n
  else if 0 < n ∧ n ≤ UInt64.size / 2 then .negative n
  else .double (-(UInt64.ofNat n).toFloat)

def powerOfTen (exponent : Nat) : Float :=
  Float.ofScientific 1 false exponent

def greatestPower : Nat := 308

/--
A double times a power of ten: one product or quotient of doubles, after quotients by the greatest
power as long as the exponent is beyond it. `none` if the result is beyond all doubles.
-/
def scaled? (x : Float) (exponent : Int) : Option Float :=
  if 0 ≤ exponent then
    if x == 0 then some x
    else if exponent ≤ greatestPower then
      let y := x * powerOfTen exponent.toNat
      if y.isInf then none else some y
    else none
  else if -greatestPower ≤ exponent then some (x / powerOfTen (-exponent).toNat)
  else if x == 0 then some x
  else scaled? (x / powerOfTen greatestPower) (exponent + greatestPower)
termination_by (-exponent).toNat
decreasing_by
  simp only [greatestPower] at *
  omega

def extend : (n : Nat) -> List Char -> Nat × List Char
  | n, [] => (n, [])
  | n, c :: rest =>
      let next := n * 10 + (c.toNat - 48)
      if next < UInt64.size then extend next rest else (n, c :: rest)

/-- The exponents that are counted; greater ones are beyond all doubles. -/
def exponentBound : Nat := UInt32.size / 2

/--
The double spelled by digits before and after a point, and by an exponent. Only the digits that fit
64 bits count; those left out before the point still raise the exponent.
-/
def double? (whole fraction : List Char) (exponent : Int) : Option Float :=
  let (n, leftOut) := extend 0 whole
  let (n, unread) := extend n fraction
  if exponentBound ≤ exponent.natAbs then
    if n = 0 ∨ exponent < 0 then some 0 else none
  else
    let read := fraction.length - unread.length
    scaled? (UInt64.ofNat n).toFloat (leftOut.length - read + exponent)

def readExponent (text : List Char) : Option (Option Int × List Char) :=
  match text with
  | [] => some (none, [])
  | e :: rest =>
      if e = 'e' ∨ e = 'E' then
        let (negative, rest) := match rest with
          | '+' :: rest => (false, rest)
          | '-' :: rest => (true, rest)
          | rest => (false, rest)
        let digits := rest.takeWhile Char.isDigit
        if digits = [] then none
        else
          let value : Int := digitsValue digits
          some (some (if negative then -value else value), rest.dropWhile Char.isDigit)
      else some (none, text)

def readFraction (text : List Char) : Option (Option (List Char) × List Char) :=
  match text with
  | '.' :: rest =>
      let digits := rest.takeWhile Char.isDigit
      if digits = [] then none else some (some digits, rest.dropWhile Char.isDigit)
  | _ => some (none, text)

def readNumber (text : List Char) : Option (JsonNumber × List Char) := do
  let (negative, text) := match text with
    | '-' :: rest => (true, rest)
    | _ => (false, text)
  let whole := text.takeWhile Char.isDigit
  let text := text.dropWhile Char.isDigit
  guard (whole ≠ [] ∧ (whole.head? = some '0' -> whole.length = 1))
  let (fraction, text) ← readFraction text
  let (exponent, text) ← readExponent text
  let n := digitsValue whole
  if fraction.isNone ∧ exponent.isNone ∧ n < UInt64.size then
    return (wholeNumber negative n, text)
  else
    let x ← double? whole (fraction.getD []) (exponent.getD 0)
    return (.double (if negative then -x else x), text)

/-!
# Strings
-/

/-- The character after `\u`: one unit, or a pair of surrogates. -/
def readUnicode (text : List Char) : Option (Char × List Char) := do
  let (unit, rest) ← Scan.readHex 4 text
  if 0xD800 ≤ unit ∧ unit < 0xDC00 then
    let rest ← expect? ['\\', 'u'] rest
    let (low, rest) ← Scan.readHex 4 rest
    guard (0xDC00 ≤ low ∧ low < 0xE000)
    return (Char.ofNat (0x10000 + (unit - 0xD800) * 0x400 + (low - 0xDC00)), rest)
  else
    guard (¬ (0xDC00 ≤ unit ∧ unit < 0xE000))
    return (Char.ofNat unit, rest)

def readEscape : List Char -> Option (Char × List Char)
  | '"' :: rest => some ('"', rest)
  | '\\' :: rest => some ('\\', rest)
  | '/' :: rest => some ('/', rest)
  | 'b' :: rest => some ('\x08', rest)
  | 'f' :: rest => some ('\x0c', rest)
  | 'n' :: rest => some ('\n', rest)
  | 'r' :: rest => some ('\r', rest)
  | 't' :: rest => some ('\t', rest)
  | 'u' :: rest => readUnicode rest
  | _ => none

/-- The characters up to the closing quote. Each step uses up text, so its length is fuel enough. -/
def readChars : (fuel : Nat) -> List Char -> Option (List Char × List Char)
  | 0, _ => none
  | fuel + 1, text =>
      match text with
      | [] => none
      | '"' :: rest => some ([], rest)
      | '\\' :: rest => do
          let (c, rest) ← readEscape rest
          let (chars, rest) ← readChars fuel rest
          return (c :: chars, rest)
      | c :: rest => do
          guard (0x20 ≤ c.toNat)
          let (chars, rest) ← readChars fuel rest
          return (c :: chars, rest)

def readString (text : List Char) : Option (String × List Char) := do
  let (chars, rest) ← readChars (text.length + 1) text
  return (String.ofList chars, rest)

/-!
# Values
-/

/--
Items with commas between them, up to the closing bracket. Each item uses up text, so the length of
the text is fuel enough.
-/
def readItems (close : Char) (item : List Char -> Option (α × List Char)) :
    (fuel : Nat) -> List Char -> Option (List α × List Char)
  | 0, _ => none
  | fuel + 1, text => do
      let (first, rest) ← item text
      match skipBlanks rest with
      | ',' :: rest =>
          let (others, rest) ← readItems close item fuel rest
          return (first :: others, rest)
      | c :: rest => if c = close then some ([first], rest) else none
      | [] => none

def readList (close : Char) (item : List Char -> Option (α × List Char)) (text : List Char) :
    Option (List α × List Char) :=
  match skipBlanks text with
  | c :: rest => if c = close then some ([], rest) else readItems close item (text.length + 1) text
  | [] => none

def readMember (value : List Char -> Option (α × List Char)) (text : List Char) :
    Option ((String × α) × List Char) :=
  match skipBlanks text with
  | '"' :: rest => do
      let (name, rest) ← readString rest
      let rest ← expect? [':'] (skipBlanks rest)
      let (v, rest) ← value rest
      return ((name, v), rest)
  | _ => none

def readValue : (depth : Nat) -> List Char -> Option (Json × List Char)
  | depth, text =>
      match skipBlanks text with
      | 'n' :: rest => do return (.null, ← expect? ['u', 'l', 'l'] rest)
      | 't' :: rest => do return (.bool true, ← expect? ['r', 'u', 'e'] rest)
      | 'f' :: rest => do return (.bool false, ← expect? ['a', 'l', 's', 'e'] rest)
      | '"' :: rest => do
          let (s, rest) ← readString rest
          return (.string s, rest)
      | '[' :: rest =>
          match depth with
          | 0 => none
          | depth + 1 => do
              let (items, rest) ← readList ']' (readValue depth) rest
              return (.array items, rest)
      | '\x7b' :: rest =>
          match depth with
          | 0 => none
          | depth + 1 => do
              let (members, rest) ← readList '\x7d' (readMember (readValue depth)) rest
              return (.object members, rest)
      | rest => do
          let (n, rest) ← readNumber rest
          return (.number n, rest)

def maxDepth : Nat := 127

def parse? (text : String) : Option Json := do
  let (value, rest) ← readValue maxDepth text.toList
  guard (skipBlanks rest = [])
  return value

end Json
end FixtureProbe
