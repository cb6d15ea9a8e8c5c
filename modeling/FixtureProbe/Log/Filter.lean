import FixtureProbe.Decimal.Basic
import FixtureProbe.Log.Record
import FixtureProbe.Text.Alphanumeric
import FixtureProbe.Text.Space

/-!
# Which records are written

A filter is a list of directives. Each admits records up to a level, either from everywhere or from
the parts whose name begins in a given way, and either all of them or those with a given value; the
most specific directive that speaks about a record decides.

A filter is written as directives with commas between them. A directive is a level, the beginning of
a target, or both as in `target=level`. Between the target and the level there may be a span in
brackets, with a field in braces: `target[span{field=value}]=level`. The records of the probe lie
outside every span, so what is said about a span by its name or by the value of a field admits
nothing.
-/

namespace FixtureProbe
namespace Log

/-- A directive: records of the named part, up to a level; no level admits none. -/
structure Directive where
  /-- The beginning of the target; empty for every target. -/
  target : String
  field : Option String
  level : Option Level

namespace Directive

def upTo (target : String) (level : Level) : Directive :=
  ⟨target, none, some level⟩

def concerns (directive : Directive) (record : Record) : Bool :=
  directive.target.toList.isPrefixOf record.target.toList &&
    directive.field.all fun name => name = "message" || (record.values.map (·.1)).contains name

/--
Whether one directive is more specific than another: its target is longer, or it names a value and
the other does not. Of two that name different values, the later name counts as more specific.
-/
def isNarrower (directive other : Directive) : Bool :=
  let size := directive.target.utf8ByteSize
  let otherSize := other.target.utf8ByteSize
  otherSize < size || (size = otherSize &&
    match directive.field, other.field with
    | some _, none => true
    | some name, some otherName => otherName < name
    | none, _ => false)

end Directive

abbrev Filter := List Directive

namespace Filter

/-!
# Reading a directive
-/

/-- The level with a given name or number; the outer `none` is for other texts. -/
def level? (text : String) : Option (Option Level) :=
  let name := match Decimal.unsigned text with
    | .ok n => toString n
    | .error _ => text.toLower
  if name = "off" ∨ name = "0" then some none
  else if name = "error" ∨ name = "1" then some (some .error)
  else if name = "warn" ∨ name = "2" then some (some .warn)
  else if name = "info" ∨ name = "3" then some (some .info)
  else if name = "debug" ∨ name = "4" then some (some .debug)
  else if name = "trace" ∨ name = "5" then some (some .trace)
  else none

def isStart (c : Char) : Bool :=
  isAlphanumeric c || c = '-' || c = ':' || c = '_'

structure SpanPart where
  name : Option String
  field : Option String
  hasValue : Bool

/-- A piece of a filter: where it begins to be read, and how its parts are cut. -/
structure Piece where
  /-- The piece without the blanks around it, which tells where the parts end. -/
  shape : List Char
  /-- The piece as it is given, from which the parts are cut at the same places. -/
  given : List Char

namespace Piece

def distance (piece : Piece) (place : Nat) (stops : Char -> Bool) : Nat :=
  ((piece.shape.drop place).takeWhile (!stops ·)).length

def cut (piece : Piece) (first behind : Nat) : String :=
  String.ofList ((piece.given.take behind).drop first)

/-- The level from a place to the end; none at all stands for every level. -/
def levelFrom (piece : Piece) (place : Nat) : Option (Option Level) :=
  match piece.given.drop place with
  | [] => some (some .trace)
  | text => level? (String.ofList text)

def levelBehind (piece : Piece) (place : Nat) : Option (Option Level) :=
  match piece.shape.drop place with
  | [] => some (some .trace)
  | '=' :: _ => piece.levelFrom (place + 1)
  | _ => none

def span? (piece : Piece) (place : Nat) : Option (SpanPart × Nat) :=
  let nameEnd := place + piece.distance place (fun c => c = ']' || c = '\x7b')
  let name := piece.cut place nameEnd
  match piece.shape.drop nameEnd with
  | ']' :: _ => some (⟨some name, none, false⟩, nameEnd + 1)
  | '\x7b' :: _ =>
      let fieldStart := nameEnd + 1
      let fieldEnd := fieldStart + piece.distance fieldStart (· = '\x7d')
      let field := piece.cut fieldStart fieldEnd
      match piece.shape.drop fieldEnd with
      | '\x7d' :: ']' :: _ =>
          if field = "" then none
          else
            let fieldName := field.toList.takeWhile (· ≠ '=')
            some (⟨if name = "" then none else some name, some (String.ofList fieldName),
              field.toList.contains '='⟩, fieldEnd + 2)
      | _ => none
  | _ => none

def withSpan (target : String) (span : SpanPart) (level : Option Level) : Option Directive :=
  if span.name.isSome || span.hasValue then none else some ⟨target, span.field, level⟩

def readSpan? (piece : Piece) (target : String) (place : Nat) : Option (Option Directive) := do
  let (span, place) ← piece.span? place
  return withSpan target span (← piece.levelBehind place)

/-- Reads a directive; the inner `none` is for one that admits no records of the probe. -/
def directive? (piece : Piece) : Option (Option Directive) :=
  match piece.shape with
  | [] => none
  | '[' :: _ => piece.readSpan? "" 1
  | c :: _ =>
      if !isStart c then none
      else
        let targetEnd := piece.distance 0 fun c => c = '=' || c = '['
        let target := piece.cut 0 targetEnd
        match piece.shape.drop targetEnd with
        | '=' :: _ => do return some ⟨target, none, ← piece.levelFrom (targetEnd + 1)⟩
        | '[' :: _ => piece.readSpan? target (targetEnd + 1)
        | _ =>
            let word := String.ofList piece.given
            match level? word with
            | some level => some (some ⟨"", none, level⟩)
            | none => some (some (.upTo word .trace))

end Piece

def parse? (text : String) : Option Filter := do
  let pieces := (text.toList.splitOn ',').filter (· ≠ [])
  if pieces = [] then return [.upTo "" .error]
  else
    let directives ← pieces.mapM fun piece => Piece.directive? ⟨trimmed piece, piece⟩
    return directives.filterMap id

def quiet : Filter :=
  [.upTo "" .warn]

/-!
# Admitting records
-/

def matching (filter : Filter) (record : Record) : Filter :=
  filter.filter (·.concerns record)

/-- Of two directives the more specific one, and of equally specific ones the later. -/
def narrower (best : Option Directive) (directive : Directive) : Option Directive :=
  match best with
  | none => some directive
  | some other => if other.isNarrower directive then best else some directive

def admits (filter : Filter) (record : Record) : Bool :=
  match (filter.matching record).foldl narrower none with
  | some ⟨_, _, some level⟩ => record.level.rank ≤ level.rank
  | _ => false

end Filter

end Log
end FixtureProbe
