import FixtureProbe.Bytes
import FixtureProbe.Decimal.Shortest
import FixtureProbe.Json.Basic

/-!
# Writing JSON

Two layouts of the same text: on one line without blanks, and over several lines with an
indentation of two blanks for each level. Text outside ASCII is written as it is.
-/

namespace FixtureProbe
namespace Json

/-- Numbers between `1e-5` and `1e16` are written without an exponent; all exponents have a sign. -/
def floatFormat : Decimal.FloatFormat := ⟨16, -5, true⟩

/-- The text of a number. A double that is not finite has no JSON text and is written as null. -/
def numberText : JsonNumber -> String
  | .natural n => toString n
  | .negative n => "-" ++ toString n
  | .double x => (floatFormat.text? x).getD "null"

def escapeChar (c : Char) : List Char :=
  if c = '"' then ['\\', '"']
  else if c = '\\' then ['\\', '\\']
  else if c = '\n' then ['\\', 'n']
  else if c = '\r' then ['\\', 'r']
  else if c = '\t' then ['\\', 't']
  else if c = '\x08' then ['\\', 'b']
  else if c = '\x0c' then ['\\', 'f']
  else if c.toNat < 0x20 then
    ['\\', 'u', '0', '0', Bytes.hexDigit (c.toNat / 16), Bytes.hexDigit (c.toNat % 16)]
  else [c]

def stringText (s : String) : String :=
  String.ofList (['"'] ++ s.toList.flatMap escapeChar ++ ['"'])

/-!
# On one line
-/

mutual

def compact : Json -> String
  | .null => "null"
  | .bool b => if b then "true" else "false"
  | .number n => numberText n
  | .string s => stringText s
  | .array items => "[" ++ String.intercalate "," (compactItems items) ++ "]"
  | .object members => "\x7b" ++ String.intercalate "," (compactMembers members) ++ "\x7d"

def compactItems : List Json -> List String
  | [] => []
  | item :: items => compact item :: compactItems items

def compactMembers : List (String × Json) -> List String
  | [] => []
  | (name, value) :: members =>
      (stringText name ++ ":" ++ compact value) :: compactMembers members

end

/-!
# Over several lines
-/

def newLine (level : Nat) : String :=
  "\n" ++ String.ofList (List.replicate (2 * level) ' ')

def bracketed (opening closing : String) (level : Nat) (texts : List String) : String :=
  match texts with
  | [] => opening ++ closing
  | texts =>
      opening ++ newLine (level + 1) ++ String.intercalate ("," ++ newLine (level + 1)) texts ++
        newLine level ++ closing

mutual

/-- The text over several lines, its first line standing at the given level. -/
def prettyAt (level : Nat) : Json -> String
  | .null => "null"
  | .bool b => if b then "true" else "false"
  | .number n => numberText n
  | .string s => stringText s
  | .array items => bracketed "[" "]" level (prettyItems (level + 1) items)
  | .object members => bracketed "\x7b" "\x7d" level (prettyMembers (level + 1) members)

def prettyItems (level : Nat) : List Json -> List String
  | [] => []
  | item :: items => prettyAt level item :: prettyItems level items

def prettyMembers (level : Nat) : List (String × Json) -> List String
  | [] => []
  | (name, value) :: members =>
      (stringText name ++ ": " ++ prettyAt level value) :: prettyMembers level members

end

def pretty (value : Json) : String :=
  prettyAt 0 value

end Json
end FixtureProbe
