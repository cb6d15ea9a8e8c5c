import FixtureProbe.Abi.Function
import FixtureProbe.Json.Parser

/-!
# Interface descriptions

A contract describes itself by a JSON array with an entry for each function, constructor, event and
error. All entries must be well formed, but only the functions are kept: sorted by name, and
functions of one name in the order of the text.
-/

namespace FixtureProbe
namespace Abi

namespace Description

/-!
# Fields of an entry
-/

abbrev Members := List (String × Json)

def optional? (members : Members) (name : String) : Option (Option Json) :=
  match Json.values name members with
  | [] => some none
  | [value] => some (some value)
  | _ => none

def required? (members : Members) (name : String) : Option Json := do
  (← optional? members name)

def asString? : Json -> Option String
  | .string s => some s
  | _ => none

def asBool? : Json -> Option Bool
  | .bool b => some b
  | _ => none

def asArray? : Json -> Option (List Json)
  | .array items => some items
  | _ => none

/-- The name of an entry, which ends before the first parenthesis. -/
def baseName (name : String) : String :=
  String.ofList (name.toList.takeWhile (· ≠ '('))

/-!
# Parameters
-/

/--
A parameter type with the components of its tuple. Components are asked for where the type holds a
tuple, and otherwise only checked for being well formed.
-/
def withComponents? (type : ParamType) (components : Option (List ParamType)) :
    Option ParamType :=
  if type.holdsTuple then do type.extendTuple? (← components) else some type

structure ParamRules where
  nameRequired : Bool
  /-- The parameter of an event may say whether it is indexed, but it names no other type. -/
  ofEvent : Bool

def componentRules : ParamRules := ⟨false, false⟩

/--
The type of a parameter. Components nest as deeply as the JSON value does, so the depth of a
description bounds the levels.
-/
def paramType? : (levels : Nat) -> ParamRules -> Json -> Option ParamType
  | 0, _, _ => none
  | levels + 1, rules, .object members => do
      let name ← optional? members "name"
      guard (!rules.nameRequired || name.isSome)
      if let some name := name then
        let _ ← asString? name
      let type ← ParamType.ofText? (← asString? (← required? members "type"))
      if rules.ofEvent then
        if let some indexed := ← optional? members "indexed" then
          let _ ← asBool? indexed
      else if let some internal := ← optional? members "internalType" then
        let _ ← asString? internal
      let components ← match ← optional? members "components" with
        | none => pure none
        | some value => do
            let types ← (← asArray? value).mapM (paramType? levels componentRules)
            pure (some types)
      withComponents? type components
  | _, _, _ => none

def paramTypes? (rules : ParamRules) (value : Json) : Option (List ParamType) := do
  (← asArray? value).mapM (paramType? (Json.maxDepth + 1) rules)

def paramRules : ParamRules := ⟨true, false⟩

def eventRules : ParamRules := ⟨true, true⟩

/-!
# Entries
-/

/-- The kinds of mutability, given by name or as an object with the name for its only member. -/
def isMutability : Json -> Bool
  | .string s => s ∈ ["pure", "view", "nonpayable", "payable"]
  | .object [(s, .null)] | .object [(s, .object [])] =>
      s ∈ ["pure", "view", "nonpayable", "payable"]
  | _ => false

def isOptionalBool : Json -> Bool
  | .bool _ | .null => true
  | _ => false

def function? (members : Members) : Option Function := do
  let name ← asString? (← required? members "name")
  let inputs ← paramTypes? paramRules (← required? members "inputs")
  let outputs ← paramTypes? paramRules (← required? members "outputs")
  guard ((← optional? members "constant").all isOptionalBool)
  guard ((← optional? members "stateMutability").all isMutability)
  return ⟨baseName name, inputs, outputs⟩

def checkEntry? (kind : String) (members : Members) : Option Unit :=
  if kind = "constructor" then do
    let _ ← paramTypes? paramRules (← required? members "inputs")
  else if kind = "event" then do
    let _ ← asString? (← required? members "name")
    let _ ← paramTypes? eventRules (← required? members "inputs")
    let _ ← asBool? (← required? members "anonymous")
  else if kind = "error" then do
    let _ ← asString? (← required? members "name")
    let _ ← paramTypes? paramRules (← required? members "inputs")
  else if kind = "fallback" ∨ kind = "receive" then some ()
  else none

/-- The fields of an entry written as an array, in their order, and how many must be there. -/
def positions (kind : String) : List String × Nat :=
  if kind = "function" then (["name", "inputs", "outputs", "constant", "stateMutability"], 4)
  else if kind = "constructor" then (["inputs"], 1)
  else if kind = "event" then (["name", "inputs", "anonymous"], 3)
  else if kind = "error" then (["name", "inputs"], 2)
  else ([], 0)

def entry? : Json -> Option (String × Members)
  | .object members => do
      return (← asString? (← required? members "type"), members)
  | .array (kind :: items) => do
      let kind ← asString? kind
      let (names, least) := positions kind
      guard (least ≤ items.length ∧ items.length ≤ names.length)
      return (kind, names.zip items)
  | _ => none

/-- The function of an entry, if it is one; the outer `none` stands for a malformed entry. -/
def entryFunction? (value : Json) : Option (Option Function) := do
  let (kind, members) ← entry? value
  if kind = "function" then return some (← function? members)
  else
    checkEntry? kind members
    return none

/-!
# The whole description
-/

def nameLe (f g : Function) : Bool :=
  f.name ≤ g.name

/-- Functions sorted by name; sorting keeps the order of functions with the same name. -/
def sortByName (functions : List Function) : List Function :=
  functions.mergeSort nameLe

def functions? (value : Json) : Option (List Function) := do
  let entries ← (← asArray? value).mapM entryFunction?
  return entries.filterMap id

end Description

end Abi
end FixtureProbe
