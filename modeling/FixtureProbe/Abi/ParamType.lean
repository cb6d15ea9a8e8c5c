import FixtureProbe.Text.Scan

/-!
# Parameter types

The types of contract parameters, their written form, and the reader of that form. The reader is
generous where the probe has no use for the type: an unknown name is a user-defined enumeration,
which travels as an eight-bit number.
-/

namespace FixtureProbe
namespace Abi

inductive ParamType where
  | address
  | bytes
  | bool
  | string
  | int (bits : Nat)
  | uint (bits : Nat)
  | fixedBytes (size : Nat)
  | array (element : ParamType)
  | fixedArray (element : ParamType) (size : Nat)
  | tuple (components : List ParamType)

namespace ParamType

/-!
# Written form
-/

mutual

def text : ParamType -> String
  | .address => "address"
  | .bytes => "bytes"
  | .bool => "bool"
  | .string => "string"
  | .int bits => "int" ++ toString bits
  | .uint bits => "uint" ++ toString bits
  | .fixedBytes size => "bytes" ++ toString size
  | .array element => element.text ++ "[]"
  | .fixedArray element size => element.text ++ "[" ++ toString size ++ "]"
  | .tuple components => "(" ++ String.intercalate "," (texts components) ++ ")"

def texts : List ParamType -> List String
  | [] => []
  | type :: types => type.text :: texts types

end

def listText (types : List ParamType) : String :=
  "(" ++ String.intercalate "," (texts types) ++ ")"

/-!
# Equality
-/

mutual

def same : ParamType -> ParamType -> Bool
  | .address, .address | .bytes, .bytes | .bool, .bool | .string, .string => true
  | .int bits, .int bits' | .uint bits, .uint bits' => bits = bits'
  | .fixedBytes size, .fixedBytes size' => size = size'
  | .array element, .array element' => same element element'
  | .fixedArray element size, .fixedArray element' size' => same element element' && size = size'
  | .tuple components, .tuple components' => sameAll components components'
  | _, _ => false

def sameAll : List ParamType -> List ParamType -> Bool
  | [], [] => true
  | type :: types, type' :: types' => same type type' && sameAll types types'
  | _, _ => false

end

mutual

theorem same_iff : (a b : ParamType) -> (same a b = true ↔ a = b)
  | .array element, b => by
      cases b with
      | array element' => rw [same, same_iff element element', array.injEq]
      | _ => simp [same]
  | .fixedArray element size, b => by
      cases b with
      | fixedArray element' size' =>
          rw [same, Bool.and_eq_true, same_iff element element', decide_eq_true_eq,
            fixedArray.injEq]
      | _ => simp [same]
  | .tuple components, b => by
      cases b with
      | tuple components' => rw [same, sameAll_iff components components', tuple.injEq]
      | _ => simp [same]
  | .address, b | .bytes, b | .bool, b | .string, b => by
      cases b with
      | _ => simp [same]
  | .int _, b | .uint _, b | .fixedBytes _, b => by
      cases b with
      | _ => simp [same]

theorem sameAll_iff : (as bs : List ParamType) -> (sameAll as bs = true ↔ as = bs)
  | [], [] => by simp [sameAll]
  | [], _ :: _ | _ :: _, [] => by simp [sameAll]
  | a :: as, b :: bs => by
      rw [sameAll, Bool.and_eq_true, same_iff a b, sameAll_iff as bs, List.cons.injEq]

end

instance : DecidableEq ParamType := fun a b =>
  decidable_of_iff (same a b = true) (same_iff a b)

/-!
# Shape
-/

mutual

def isDynamic : ParamType -> Bool
  | .bytes | .string | .array _ => true
  | .fixedArray element _ => element.isDynamic
  | .tuple components => anyDynamic components
  | .address | .bool | .int _ | .uint _ | .fixedBytes _ => false

def anyDynamic : List ParamType -> Bool
  | [] => false
  | type :: types => type.isDynamic || anyDynamic types

end

/-- Whether the type has a value that takes no bytes at all by its own declaration. -/
def allowsEmptyData : ParamType -> Bool
  | .fixedBytes size => size = 0
  | .fixedArray _ size => size = 0
  | _ => false

/-- Adds components to the tuple inside any number of arrays; `none` if there is no tuple. -/
def extendTuple? (more : List ParamType) : ParamType -> Option ParamType
  | .tuple components => some (.tuple (components ++ more))
  | .array element => (element.extendTuple? more).map .array
  | .fixedArray element size => (element.extendTuple? more).map (.fixedArray · size)
  | _ => none

def holdsTuple : ParamType -> Bool
  | .tuple _ => true
  | .array element => element.holdsTuple
  | .fixedArray element _ => element.holdsTuple
  | _ => false

/-!
# Reading
-/

def readSize? (text : List Char) : Option Nat :=
  let digits := match text with
    | '+' :: rest => rest
    | _ => text
  if digits = [] ∨ ¬ digits.all Char.isDigit then none
  else
    let n := Scan.digitsValue digits
    if n < UInt64.size then some n else none

def after? (beginning : String) (text : List Char) : Option (List Char) :=
  Scan.expect? beginning.toList text

def readPlain? (text : List Char) : Option ParamType :=
  if text = "address".toList then some .address
  else if text = "bytes".toList then some .bytes
  else if text = "bool".toList then some .bool
  else if text = "string".toList then some .string
  else if text = "int".toList then some (.int 256)
  else if text = "uint".toList then some (.uint 256)
  else if text = "tuple".toList then some (.tuple [])
  else match after? "int" text, after? "uint" text, after? "bytes" text with
    | some size, _, _ => (readSize? size).map .int
    | _, some size, _ => (readSize? size).map .uint
    | _, _, some size => (readSize? size).map .fixedBytes
    | none, none, none => some (.uint 8)

/--
The item of a list between two places. Places count characters and items are cut by bytes, which is
the same as long as names are in ASCII.
-/
def item? (text : List Char) (start stop : Nat) : Option (List Char) := do
  Scan.takeBytes? (stop - start) (← Scan.dropBytes? start text)

def arrayOf? (element : ParamType) (size : List Char) : Option ParamType :=
  if size = [] then some (.array element) else (readSize? size).map element.fixedArray

def readBrackets : (fuel : Nat) -> ParamType -> List Char -> Option (ParamType × Nat)
  | fuel + 1, element, '[' :: rest => do
      let size := rest.takeWhile (· ≠ ']')
      let (type, taken) ← readBrackets fuel (← arrayOf? element size) (rest.drop (size.length + 1))
      return (type, taken + size.length + 2)
  | _, element, _ => some (element, 0)

structure ListState where
  opened : Nat := 0
  start : Nat := 1
  /-- The types of the list itself, the last one first. -/
  types : List ParamType := []
  /-- The types of the tuples inside it that are still open: the innermost first, each reversed. -/
  inner : List (List ParamType) := []

namespace ListState

def enter (state : ListState) (place : Nat) : ListState :=
  if state.opened = 0 then { state with opened := 1 }
  else
    { state with
      opened := state.opened + 1
      start := place + 1
      inner := List.replicate (state.opened - state.inner.length) [] ++ state.inner }

def add? (state : ListState) (type : ParamType) : Option ListState :=
  if state.opened ≤ 1 then some { state with types := type :: state.types }
  else
    match state.inner.reverse.drop (state.opened - 2) with
    | [] => none
    | types :: deeper =>
        let outer := state.inner.reverse.take (state.opened - 2)
        some { state with inner := (outer ++ (type :: types) :: deeper).reverse }

/-- Tuples one inside the other: a type ends the first one, which ends the second one, and so on. -/
def close (type : ParamType) : List (List ParamType) -> ParamType
  | [] => type
  | types :: outer => close (.tuple (type :: types).reverse) outer

/--
Passes a closing parenthesis with an item in front of it. Inside the list it ends all the tuples
that are open, the innermost of which may be the element of arrays.
-/
def leave? (state : ListState) (type : ParamType) (place : Nat) (rest : List Char) :
    Option ListState :=
  match state.opened, state.inner with
  | 1, _ => some { state with opened := 0, start := place + 1, types := type :: state.types }
  | opened + 2, types :: outer => do
      guard (state.inner.length = opened + 1)
      let innermost : ParamType := .tuple (type :: types).reverse
      let (type, taken) ← readBrackets rest.length innermost rest
      return {
        opened := opened + 1
        start := place + 1 + taken
        types := close type outer :: state.types
        inner := [] }
  | _, _ => none

end ListState

def readItem? (read : List Char -> Option ParamType) (text : List Char) (state : ListState)
    (place : Nat) : Option (Option ParamType) := do
  match ← item? text state.start place with
  | [] => return none
  | item => return some (← read item)

/--
Reads a list of types between parentheses, from a place on, with a reader of its items. Items that
are empty do not count, and neither does a tuple that ends with one.
-/
def readList (read : List Char -> Option ParamType) (text : List Char) :
    (state : ListState) -> (place : Nat) -> List Char -> Option ParamType
  | state, _, [] => some (.tuple state.types.reverse)
  | state, place, c :: rest => do
      let passed : ListState := { state with start := place + 1 }
      if c = '(' then readList read text (state.enter place) (place + 1) rest
      else if c = ')' then
        guard (state.opened ≠ 0)
        match ← readItem? read text state place with
        | none => readList read text { passed with opened := state.opened - 1 } (place + 1) rest
        | some type => readList read text (← state.leave? type place rest) (place + 1) rest
      else if c = ',' then
        match ← readItem? read text state place with
        | none => readList read text passed (place + 1) rest
        | some type => readList read text (← passed.add? type) (place + 1) rest
      else readList read text state (place + 1) rest

/-- Reads a type. Every level of nesting uses up text, so its length bounds the levels. -/
def read : (levels : Nat) -> List Char -> Option ParamType
  | 0, _ => none
  | levels + 1, text =>
      match text.reverse with
      | ')' :: _ =>
          if text.head? = some '(' then readList (read levels) text {} 0 text else none
      | ']' :: reversed => do
          let size := (reversed.takeWhile (· ≠ '[')).reverse
          guard (size.length + 2 ≤ text.length)
          let length := text.length - (size.length + 2)
          arrayOf? (← read levels (← Scan.takeBytes? length text)) size
      | _ => readPlain? text

def ofText? (text : String) : Option ParamType :=
  read (text.length + 1) text.toList

end ParamType

end Abi
end FixtureProbe
