import FixtureProbe.Toml.Parser

/-!
# Places in a document

Where the entries of a document stand, and the line that shows a place to a reader.
-/

namespace FixtureProbe
namespace Toml

/-!
# Entries
-/

namespace Document

/-- The names that the keys of a document begin with, with places: first those before headers. -/
def firstNames (document : Document) : List (Statement × Name) :=
  let isPair : Statement -> Bool
    | .pair .. => true
    | _ => false
  let (before, behind) := document.statements.span isPair
  (before ++ behind.filter (!isPair ·)).filterMap fun statement =>
    statement.names.head?.map (statement, ·)

def isHeaderOf (key : String) : Statement -> Bool
  | .header [name] _ => name.text = key
  | _ => false

/-- Where the key of an entry stands; a header of its own counts more than what came before it. -/
def keySpan? (document : Document) (key : String) : Option Span :=
  let found := document.firstNames.filter (·.2.text = key)
  let own := found.find? fun (statement, _) => isHeaderOf key statement
  (own <|> found.head?).map (·.2.span)

def extendOver (span : Span) : List Statement -> Span
  | .pair _ placed :: rest => extendOver { span with stop := placed.span.stop } rest
  | _ => span

def tableSpans (key : String) : List Statement -> List Span
  | [] => []
  | .header [name] span :: rest | .element [name] span :: rest =>
      if name.text = key then extendOver span rest :: tableSpans key rest else tableSpans key rest
  | _ :: rest => tableSpans key rest

/-- Where the value of an entry stands; one that is only implied stands where its key does. -/
def valueSpan? (document : Document) (key : String) : Option Span :=
  let pair := document.firstNames.findSome? fun
    | (.pair [name] placed, _) => if name.text = key then some placed.span else none
    | _ => none
  let spans := tableSpans key document.statements
  let tables := match spans.head?, spans.getLast? with
    | some first, some last => some ⟨first.start, last.stop⟩
    | _, _ => none
  pair <|> tables <|> document.keySpan? key

end Document

/-!
# Lines
-/

def byteCount (text : List Char) : Nat :=
  (text.map Char.utf8Size).foldr (· + ·) 0

def lastLine (text : List Char) : List Char :=
  (text.reverse.takeWhile (· ≠ '\n')).reverse

/--
The number of the line and of the column, both from zero on, of a place behind one text and in front
of another. In front of a character outside ASCII bytes are counted instead of characters. The end
of a text counts as one place behind its last character, even if that one is a line break.
-/
def lineAndColumn (before after : List Char) : Nat × Nat :=
  match after with
  | c :: _ =>
      let line := lastLine before
      (before.count '\n', if c.utf8Size = 1 then line.length else byteCount line)
  | [] =>
      if before = [] then (0, 0)
      else (before.dropLast.count '\n', (lastLine before.dropLast).length + 1)

def blanks (count : Nat) : String :=
  String.ofList (List.replicate count ' ')

def excerpt (document : String) (span : Span) (message : String) : String :=
  let text := document.toList
  let before := text.take (text.length - span.start.length)
  let (line, column) := lineAndColumn before span.start
  let number := toString (line + 1)
  let content := (text.splitOn '\n').getD line []
  let length := min (byteCount span.start - byteCount span.stop) (byteCount content - column)
  let gutter := blanks (number.length + 1) ++ "|"
  let marks := String.ofList (List.replicate (max 1 length) '^')
  "TOML parse error at line " ++ number ++ ", column " ++ toString (column + 1) ++ "\n" ++
    gutter ++ "\n" ++ number ++ " | " ++ String.ofList content ++ "\n" ++
    gutter ++ blanks (column + 1) ++ marks ++ "\n" ++ message ++ "\n"

def Failure.excerpt (document : String) (failure : Failure) : String :=
  Toml.excerpt document ⟨failure.left, failure.left.drop 1⟩ failure.message

end Toml
end FixtureProbe
