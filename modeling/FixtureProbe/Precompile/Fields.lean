import FixtureProbe.Abi.Function
import FixtureProbe.Precompile.Record

/-!
# Records from decoded values

The values of an answer are read field by field in wire order. Reading stops at the first field
whose value has the wrong kind or does not fit, and the failure names that field.
-/

namespace FixtureProbe

/-!
# Failures
-/

inductive ReadError where
  | codec (error : Abi.CodecError)
  | fieldCount (expected actual : Nat)
  | fieldKind (field expected : String) (actual : Option Abi.Token)
  | fieldTooLarge (field : String)
  | notList (actual : Option Abi.Token)
  | itemKind (actual : Abi.Token)
  | itemTooLarge

def ReadError.message : ReadError -> String
  | .codec error => "decode: " ++ error.message
  | .fieldCount expected actual =>
      "expected " ++ toString expected ++ " fields, got " ++ toString actual
  | .fieldKind field expected actual =>
      "field '" ++ field ++ "': expected " ++ expected ++ ", got " ++ Abi.Token.optionText actual
  | .fieldTooLarge field => "field '" ++ field ++ "': value exceeds u64"
  | .notList actual => "expected uint256[], got " ++ Abi.Token.optionText actual
  | .itemKind actual => "expected uint, got " ++ actual.text
  | .itemTooLarge => "match id exceeds u64"

/-!
# Fields in wire order
-/

abbrev FieldReader := StateT (List Abi.Token) (Except ReadError)

namespace FieldReader

def next : FieldReader (Option Abi.Token) :=
  modifyGet fun tokens => (tokens.head?, tokens.tail)

def uint (field : String) : FieldReader UInt64 := do
  match ← next with
  | some (.uint value) =>
      match value.toUInt64? with
      | some n => return n
      | none => throw (.fieldTooLarge field)
  | other => throw (.fieldKind field "uint" other)

def string (field : String) : FieldReader String := do
  match ← next with
  | some (.string s) => return s
  | other => throw (.fieldKind field "string" other)

def bool (field : String) : FieldReader Bool := do
  match ← next with
  | some (.bool b) => return b
  | other => throw (.fieldKind field "bool" other)

def fixture : FieldReader Match := do
  let id ← uint "id"
  let leagueId ← uint "leagueId"
  let name ← string "name"
  let time ← string "time"
  let homeId ← uint "homeId"
  let awayId ← uint "awayId"
  let homeScore ← uint "homeScore"
  let awayScore ← uint "awayScore"
  let homeName ← string "homeName"
  let awayName ← string "awayName"
  let started ← bool "started"
  let finished ← bool "finished"
  let cancelled ← bool "cancelled"
  return {
    id, leagueId, name, time, homeId, homeName, homeScore, awayId, awayName, awayScore,
    started, finished, cancelled }

def league : FieldReader League := do
  let id ← uint "id"
  let name ← string "name"
  let groupName ← string "groupName"
  return { id, name, groupName }

def team : FieldReader Team := do
  let id ← uint "id"
  let name ← string "name"
  return { id, name }

end FieldReader

/-!
# Answers
-/

namespace Fields

/-- A record may come as one tuple or as separate values: a sole tuple is opened once. -/
def unwrap : List Abi.Token -> List Abi.Token
  | [.tuple items] => items
  | tokens => tokens

def read (count : Nat) (reader : FieldReader α) (tokens : List Abi.Token) : Except ReadError α :=
  let fields := unwrap tokens
  if fields.length = count then (·.1) <$> reader.run fields
  else .error (.fieldCount count fields.length)

def item : Abi.Token -> Except ReadError UInt64
  | .uint value =>
      match value.toUInt64? with
      | some n => .ok n
      | none => .error .itemTooLarge
  | other => .error (.itemKind other)

def ids : List Abi.Token -> Except ReadError (List UInt64)
  | .array items :: _ => items.mapM item
  | tokens => .error (.notList tokens.head?)

end Fields

end FixtureProbe
