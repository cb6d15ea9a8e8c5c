import FixtureProbe.Bytes

/-!
# Reading text from the left

The small steps that the readers of the different formats share. A step takes the text that is left
and returns what it read, if anything, with the rest.
-/

namespace FixtureProbe
namespace Scan

def expect? : (expected text : List Char) -> Option (List Char)
  | [], text => some text
  | _ :: _, [] => none
  | e :: expected, c :: text => if e = c then expect? expected text else none

def digitsValue (digits : List Char) : Nat :=
  digits.foldl (fun n c => n * 10 + (c.toNat - 48)) 0

def hexNumber? (digits : List Char) : Option Nat := do
  let values ← digits.mapM Bytes.hexValue?
  return values.foldl (fun n d => n * 16 + d) 0

def readHex (count : Nat) (text : List Char) : Option (Nat × List Char) := do
  let digits := text.take count
  guard (digits.length = count)
  return (← hexNumber? digits, text.drop count)

/-- What is left of a text behind a number of bytes; `none` if they end inside a character. -/
def dropBytes? : (bytes : Nat) -> List Char -> Option (List Char)
  | 0, text => some text
  | _ + 1, [] => none
  | bytes + 1, c :: rest =>
      if c.utf8Size ≤ bytes + 1 then dropBytes? (bytes + 1 - c.utf8Size) rest else none

def takeBytes? (bytes : Nat) (text : List Char) : Option (List Char) := do
  let rest ← dropBytes? bytes text
  return text.take (text.length - rest.length)

end Scan
end FixtureProbe
