import FixtureProbe.Toml.DateTime
import FixtureProbe.Toml.Number
import FixtureProbe.Toml.Strings
import FixtureProbe.Toml.Table

/-!
# Reading TOML

A document is read statement by statement, one to a line, and each statement extends the table that
those before it have made. Values may be nested to a fixed depth, and keys may have no more names
than that. Every reader takes the text that is left and returns what it read with the rest.
-/

namespace FixtureProbe
namespace Toml

open Strings (isTextChar lineBreak? skipBlanks)

/-- The number of arrays and tables that may stand around a value, and of names in a key. -/
def maxDepth : Nat := 79

/-- A part of a text, by the text from its beginning on and by the text behind it. -/
structure Span where
  start : List Char
  stop : List Char

/-!
# Keys
-/

structure Name where
  text : String
  span : Span

def pathAndKey (names : List Name) : List String × String :=
  let texts := names.map (·.text)
  (texts.dropLast, texts.getLast?.getD "")

def readName (text : List Char) : Reading (Name × List Char) := do
  let plain := text.takeWhile Cause.isNameChar
  let (name, rest) ← match text with
    | '"' :: _ | '\'' :: _ => Strings.readLine text
    | _ =>
        if plain = [] then Reading.fail text
        else pure (String.ofList plain, text.drop plain.length)
  return (⟨name, ⟨text, rest⟩⟩, rest)

/-- Names with points in front of them; a point without a name behind it is left in the text. -/
def readMoreNames : (fuel : Nat) -> List Char -> Reading (List Name × List Char)
  | fuel + 1, '.' :: text => do
      match ← Reading.optional text (readName (skipBlanks text)) with
      | (none, _) => return ([], '.' :: text)
      | (some name, rest) =>
          let (names, rest) ← readMoreNames fuel (skipBlanks rest)
          return (name :: names, rest)
  | _, text => .ok ([], text)

def readKey (text : List Char) : Reading (List Name × List Char) := do
  let reading : Reading (List Name × List Char) := do
    let (first, rest) ← readName (skipBlanks text)
    let (names, rest) ← readMoreNames rest.length (skipBlanks rest)
    return (first :: names, rest)
  let (names, rest) ← reading.about "key"
  if maxDepth < names.length then Reading.failFor .tooDeep text else return (names, rest)

structure Placed (α : Type) where
  value : α
  span : Span

/-- A key, an equals sign and a value. Behind the key nothing else can follow. -/
def readPair (value : List Char -> Reading (α × List Char)) (text : List Char) :
    Reading ((List Name × Placed α) × List Char) := do
  let (names, rest) ← readKey text
  let reading : Reading (Placed α × List Char) := do
    let rest ← (Reading.expect ['='] rest).expecting ["`.`", "`=`"]
    let text := skipBlanks rest
    let (v, rest) ← value text
    return (⟨v, ⟨text, rest⟩⟩, rest)
  let (placed, rest) ← reading.certain
  return ((names, placed), rest)

/-!
# Values
-/

/--
The rest after blanks, line breaks and comments. A comment must end with a line break, and a return
must be followed by one. Each line uses up text, so its length is fuel enough.
-/
def skipLines : (fuel : Nat) -> List Char -> Reading (List Char)
  | 0, text => .ok text
  | fuel + 1, text =>
      let text := skipBlanks text
      let afterBreak (text : List Char) : Reading (List Char) :=
        match lineBreak? text with
        | some rest => skipLines fuel rest
        | none => Reading.fail text
      match text with
      | '#' :: rest => afterBreak (rest.dropWhile isTextChar)
      | '\n' :: _ | '\r' :: _ => afterBreak text
      | _ => .ok text

def readItem (value : List Char -> Reading (α × List Char)) (text : List Char) :
    Reading (α × List Char) := do
  let text ← skipLines text.length text
  let (item, rest) ← value text
  return (item, ← skipLines rest.length rest)

/-- Readings with commas between them, none or more; a comma at the end is left in the text. -/
def readSeparated (item : List Char -> Reading (α × List Char)) :
    (fuel : Nat) -> List Char -> Reading (List α × List Char)
  | 0, text => .ok ([], text)
  | fuel + 1, text => do
      match ← Reading.optional text (item text) with
      | (none, _) => return ([], text)
      | (some first, rest) =>
          match rest with
          | ',' :: behind =>
              match ← readSeparated item fuel behind with
              | ([], _) => return ([first], rest)
              | (others, rest) => return (first :: others, rest)
          | _ => return ([first], rest)

/-- An array, read from behind its opening bracket; a comma may follow its last item. -/
def readArray (value : List Char -> Reading (α × List Char)) (text : List Char) :
    Reading (List α × List Char) := do
  match text with
  | ']' :: rest => return ([], rest)
  | _ =>
      let (items, rest) ← readSeparated (readItem value) (text.length + 1) text
      let rest := match items, rest with
        | _ :: _, ',' :: rest => rest
        | _, rest => rest
      let rest ← skipLines rest.length rest
      let rest ← ((Reading.expect [']'] rest).about "array").expecting ["`]`"]
      return (items, rest)

def readEntry (value : List Char -> Reading (Toml × List Char)) (text : List Char) :
    Reading (((List String × String) × Toml) × List Char) := do
  let ((names, placed), rest) ← readPair value text
  return ((pathAndKey names, placed.value), skipBlanks rest)

/-- A table, read from behind its opening brace, all on one line and without a comma at the end. -/
def readInlineTable (value : List Char -> Reading (Toml × List Char)) (text : List Char) :
    Reading (Table × List Char) := do
  let pairs := do
    let (pairs, rest) ← readSeparated (readEntry value) (text.length + 1) text
    return (pairs, skipBlanks rest)
  let (entries, rest) ← Reading.check text pairs Table.ofPairs
  let rest ← ((Reading.expect ['\x7d'] rest).about "inline table").expecting ["`\x7d`"]
  return (entries, rest)

/-- What a value could have been that begins like none. -/
def asString (reading : Reading α) : Reading α :=
  (reading.about "string").expecting ["`\"`", "`'`"]

def readWord (word : String) (value : Toml) (text : List Char) : Reading (Toml × List Char) := do
  return (value, ← asString (Reading.expect word.toList text))

def readNumeric (text : List Char) : Reading (Toml × List Char) :=
  let dateTime : Reading (Toml × List Char) := do return (.dateTime, ← DateTime.read text)
  dateTime.orElse fun _ =>
    let float : Reading (Toml × List Char) := do
      let (x, rest) ← Number.readFloat text
      return (.float x, rest)
    float.orElse fun _ => do
      let (n, rest) ← Number.readInteger text
      return (.integer n, rest)

def readScalar (text : List Char) : Reading (Toml × List Char) :=
  match text with
  | [] => Reading.fail []
  | 't' :: _ => (readWord "true" (.boolean true) text).certain
  | 'f' :: _ => (readWord "false" (.boolean false) text).certain
  | 'i' :: _ => readWord "inf" (.float Number.infinity) text
  | 'n' :: _ => readWord "nan" (.float (0 / 0)) text
  | '_' :: _ => do
      let (n, rest) ← (Number.readInteger text).expecting ["leading digit"]
      return (.integer n, rest)
  | '.' :: _ => do
      let (x, rest) ← (Number.readFloat text).expecting ["leading digit"]
      return (.float x, rest)
  | c :: _ =>
      if c = '+' ∨ c = '-' ∨ c.isDigit then readNumeric text else asString (Reading.fail text)

def readValue : (depth : Nat) -> List Char -> Reading (Toml × List Char)
  | depth, text =>
      match text with
      | '"' :: _ | '\'' :: _ => do
          let (s, rest) ← Strings.read text
          return (.string s, rest)
      | '[' :: rest =>
          match depth with
          | 0 => (Reading.failFor .tooDeep text).certain
          | depth + 1 => do
              let (items, rest) ← (readArray (readValue depth) rest).certain
              return (.array items, rest)
      | '\x7b' :: rest =>
          match depth with
          | 0 => (Reading.failFor .tooDeep text).certain
          | depth + 1 => do
              let (entries, rest) ← (readInlineTable (readValue depth) rest).certain
              return (.table .inline entries, rest)
      | _ => readScalar text

/-!
# Statements
-/

inductive Statement where
  | pair (names : List Name) (value : Placed Toml)
  /-- The header of a table; its part of the text includes the end of the line. -/
  | header (names : List Name) (span : Span)
  | element (names : List Name) (span : Span)

def Statement.names : Statement -> List Name
  | .pair names _ | .header names _ | .element names _ => names

def endLine (text : List Char) : Reading (List Char) :=
  let text := skipBlanks text
  let text := match text with
    | '#' :: rest => rest.dropWhile isTextChar
    | _ => text
  match text, lineBreak? text with
  | [], _ => .ok []
  | _, some rest => .ok rest
  | _, none => Reading.fail text

def endStatement (text : List Char) : Reading (List Char) :=
  (endLine text).expecting ["newline", "`#`"]

def readHeader (opening closing : List Char) (text : List Char) :
    Reading (List Name × List Char) := do
  let (names, rest) ← readKey (text.drop opening.length)
  let rest ← (Reading.expect closing rest).expecting
    ["`.`", "`" ++ String.ofList closing ++ "`"]
  return (names, ← endStatement rest)

structure Extension where
  statement : Statement
  table : Table
  /-- The path of the table to which the next pairs belong. -/
  current : List String

def extendByHeader (table : Table) (text : List Char) : Reading (Extension × List Char) := do
  let isElement := ['[', '['].isPrefixOf text
  let reading := match text with
    | [_] => Reading.fail text
    | _ => if isElement then readHeader ['[', '['] [']', ']'] text else readHeader ['['] [']'] text
  let reading : Reading (Extension × List Char) := do
    let (names, rest) ← reading
    let (path, key) := pathAndKey names
    let span : Span := ⟨text, rest⟩
    let (statement, extended) :=
      if isElement then (Statement.element names span, Table.addElementHeader path key table)
      else (Statement.header names span, Table.addHeader path key table)
    let extend (extended : Table) : Extension := ⟨statement, extended, path ++ [key]⟩
    Reading.check text (pure ((), rest)) fun _ => extended.map extend
  reading.about "table header"

def extendByPair (table : Table) (current : List String) (text : List Char) :
    Reading (Extension × List Char) := do
  let ((names, placed), rest) ← readPair (readValue maxDepth) text
  let rest ← endStatement rest
  let (path, key) := pathAndKey names
  let extend (extended : Table) : Extension := ⟨.pair names placed, extended, current⟩
  Reading.check text (pure ((), rest)) fun _ =>
    (Table.addPair current path key placed.value table).map extend

/-!
# Documents
-/

structure Document where
  statements : List Statement
  table : Table

/--
All statements of a text, for a table with the header `current` last. Each line uses up text, so the
length of the text is fuel enough.
-/
def readStatements : (fuel : Nat) -> Table -> (current : List String) -> List Char ->
    Reading Document
  | 0, _, _, text => Reading.fail text
  | fuel + 1, entries, current, text => do
      let text := skipBlanks text
      let more (reading : Reading (Extension × List Char)) : Reading Document := do
        let (extension, rest) ← reading
        let document ← readStatements fuel extension.table extension.current rest
        return { document with statements := extension.statement :: document.statements }
      match text with
      | [] => return ⟨[], entries⟩
      | '#' :: _ => readStatements fuel entries current (← endLine text)
      | '\n' :: _ | '\r' :: _ =>
          match lineBreak? text with
          | some rest => readStatements fuel entries current rest
          | none => Reading.fail text
      | '[' :: _ => more (extendByHeader entries text)
      | _ => more (extendByPair entries current text)

def parse (document : String) : Reading Document :=
  let text := match document.toList with
    | '\uFEFF' :: rest => rest
    | text => text
  readStatements (text.length + 1) [] [] text

end Toml
end FixtureProbe
