import FixtureProbe.Decimal.Basic
import FixtureProbe.Toml.Basic

/-!
# Why a text is not TOML

A reader that fails tells from where on it could make nothing of the text, what it was reading and
what it could have gone on with. A failure is final once the text can no longer mean anything else;
until then another reader may still be tried.
-/

namespace FixtureProbe
namespace Toml

/-!
# Causes
-/

inductive Cause where
  /-- A key that is there already, with the path of the table in which it stands, where told. -/
  | repeated (key : String) (table : Option (List String))
  /-- A path that leads through a value that is no table. -/
  | noTable (path : List String) (kind : String)
  | outOfRange
  | tooDeep
  | number (error : NumberError)
  deriving DecidableEq

namespace Cause

def isNameChar (c : Char) : Bool :=
  c.isAlphanum || c = '-' || c = '_'

def escaped (c : Char) : List Char :=
  match c with
  | '\x08' => ['\\', 'b']
  | '\t' => ['\\', 't']
  | '\n' => ['\\', 'n']
  | '\x0c' => ['\\', 'f']
  | '\r' => ['\\', 'r']
  | '"' => ['\\', '"']
  | '\\' => ['\\', '\\']
  | c =>
      if c.toNat < 0x20 ∨ c.toNat = 0x7F then
        let digits := (Nat.toDigits 16 c.toNat).map Char.toUpper
        '\\' :: 'u' :: List.replicate (4 - digits.length) '0' ++ digits
      else [c]

/-- A name as a key is written: without quotes if it can be, else without escapes if it can be. -/
def keyText (name : String) : String :=
  let chars := name.toList
  let plain := chars.all fun c => escaped c = [c]
  if chars ≠ [] ∧ chars.all isNameChar then name
  else if plain then "\"" ++ name ++ "\""
  else if chars.all (fun c => escaped c = [c] ∨ c = '"' ∨ c = '\\') ∧ ¬ chars.contains '\'' then
    "'" ++ name ++ "'"
  else "\"" ++ String.ofList (chars.flatMap escaped) ++ "\""

def pathText (path : List String) : String :=
  String.intercalate "." (path.map keyText)

def message : Cause -> String
  | .repeated key none => "duplicate key `" ++ key ++ "`"
  | .repeated key (some []) => "duplicate key `" ++ key ++ "` in document root"
  | .repeated key (some path) => "duplicate key `" ++ key ++ "` in table `" ++ pathText path ++ "`"
  | .noTable path kind =>
      "dotted key `" ++ pathText path ++ "` attempted to extend non-table type (" ++ kind ++ ")"
  | .outOfRange => "value is out of range"
  | .tooDeep => "recursion limit exceeded"
  | .number error => error.message

end Cause

/-!
# Failures
-/

structure Failure where
  /-- What is left of the text where the reader failed. -/
  left : List Char
  subject : Option String := none
  expected : List String := []
  cause : Option Cause := none
  /-- Whether no other reader may be tried. -/
  isFinal : Bool := false

abbrev Reading := Except Failure

namespace Failure

def message (failure : Failure) : String :=
  let expected :=
    if failure.expected = [] then []
    else ["expected " ++ String.intercalate ", " failure.expected]
  String.intercalate "\n"
    ((failure.subject.map ("invalid " ++ ·)).toList ++ expected ++
      (failure.cause.map Cause.message).toList)

def toFinal (failure : Failure) : Failure :=
  { failure with isFinal := true }

/-- Says what is invalid, unless something within it is already known to be. -/
def about (subject : String) (failure : Failure) : Failure :=
  { failure with subject := failure.subject <|> some subject }

def expecting (things : List String) (failure : Failure) : Failure :=
  { failure with expected := failure.expected ++ things }

end Failure

/-!
# Readings
-/

namespace Reading

def fail (left : List Char) : Reading α :=
  .error { left }

def failFor (cause : Cause) (left : List Char) : Reading α :=
  .error { left, cause := some cause }

def certain (reading : Reading α) : Reading α :=
  reading.mapError Failure.toFinal

def about (subject : String) (reading : Reading α) : Reading α :=
  reading.mapError (Failure.about subject)

def expecting (things : List String) (reading : Reading α) : Reading α :=
  reading.mapError (Failure.expecting things)

/-- Another reading if the first one has failed and the failure is not final. -/
def orElse (reading : Reading α) (other : Unit -> Reading α) : Reading α :=
  match reading with
  | .error failure => if failure.isFinal then .error failure else other ()
  | .ok result => .ok result

def optional (text : List Char) (reading : Reading (α × List Char)) :
    Reading (Option α × List Char) :=
  orElse (reading.map fun (a, rest) => (some a, rest)) fun _ => .ok (none, text)

def skipOptional (text : List Char) (reading : Reading (List Char)) : Reading (List Char) :=
  reading.orElse fun _ => .ok text

/-- A check of what has been read; if it fails, it fails where the reading began. -/
def check (text : List Char) (reading : Reading (α × List Char)) (f : α -> Except Cause β) :
    Reading (β × List Char) := do
  let (a, rest) ← reading
  match f a with
  | .ok b => return (b, rest)
  | .error cause => failFor cause text

def expect (expected : List Char) (text : List Char) : Reading (List Char) :=
  if expected.isPrefixOf text then .ok (text.drop expected.length) else fail text

end Reading

end Toml
end FixtureProbe
