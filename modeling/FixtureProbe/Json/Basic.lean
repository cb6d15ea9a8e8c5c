/-!
# JSON values

Objects keep their members in the order in which they were written, and keep repeated names, so
that a reader can decide for itself what a repetition means.
-/

namespace FixtureProbe

/-- A number of a JSON text: a whole number that fits its range, or a double. -/
inductive JsonNumber where
  | natural (n : Nat)
  | negative (n : Nat)
  | double (x : Float)

inductive Json where
  | null
  | bool (b : Bool)
  | number (n : JsonNumber)
  | string (s : String)
  | array (items : List Json)
  | object (members : List (String × Json))

namespace Json

def nat (n : Nat) : Json :=
  .number (.natural n)

def uint64 (n : UInt64) : Json :=
  .nat n.toNat

def ofOption (f : α -> Json) : Option α -> Json
  | some a => f a
  | none => .null

def list (f : α -> Json) (items : List α) : Json :=
  .array (items.map f)

def values (name : String) (members : List (String × Json)) : List Json :=
  (members.filter (·.1 = name)).map (·.2)

end Json

end FixtureProbe
