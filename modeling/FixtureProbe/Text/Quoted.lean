import FixtureProbe.Bytes
import FixtureProbe.Text.Unprintable
import FixtureProbe.Text.GraphemeExtend

/-!
# Quoted text

How a text is shown inside a diagnostic: between double quotes, with short escapes for the common
controls, and by number wherever the character itself would not be seen or would not stand alone.
-/

namespace FixtureProbe
namespace Quoted

def byNumber (c : Char) : List Char :=
  ['\\', 'u', '\x7b'] ++ Nat.toDigits 16 c.toNat ++ ['\x7d']

def escape (c : Char) : List Char :=
  if c = '\x00' then ['\\', '0']
  else if c = '\t' then ['\\', 't']
  else if c = '\r' then ['\\', 'r']
  else if c = '\n' then ['\\', 'n']
  else if c = '\\' then ['\\', '\\']
  else if c = '"' then ['\\', '"']
  else if ' ' ≤ c ∧ c ≤ '~' then [c]
  else if isGraphemeExtend c || isUnprintable c then byNumber c
  else [c]

def quote (text : String) : String :=
  String.ofList (['"'] ++ text.toList.flatMap escape ++ ['"'])

/-- The quoted form of a path, in which apostrophes are escaped as well. -/
def quotePath (path : String) : String :=
  let shown (c : Char) := if c = '\'' then ['\\', '\''] else escape c
  String.ofList (['"'] ++ path.toList.flatMap shown ++ ['"'])

end Quoted
end FixtureProbe
