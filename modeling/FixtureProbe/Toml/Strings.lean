import FixtureProbe.Text.Scan
import FixtureProbe.Toml.Failure

/-!
# Quoted text

Text stands between double quotes, with escapes, or between single quotes, without. Either may stand
between three quotes instead of one; then it may run over several lines, a line break right behind
the opening quotes is dropped, and up to two quotes may stand right before the closing ones.
-/

namespace FixtureProbe
namespace Toml
namespace Strings

/-- Whether a character may stand in text and comments: no controls but the tab. -/
def isTextChar (c : Char) : Bool :=
  c = '\t' || (0x20 ≤ c.toNat && c.toNat ≠ 0x7F)

def unclosed (subject : String) (text : List Char) : Reading α :=
  (Reading.fail text).about subject |>.certain

/-!
# Escapes
-/

def readNumbered (count : Nat) (text : List Char) : Reading (Char × List Char) :=
  let reading := match Scan.readHex count text with
    | none => Reading.fail text
    | some (n, rest) =>
        if n.isValidChar then .ok (Char.ofNat n, rest) else Reading.failFor .outOfRange text
  (reading.about ("unicode " ++ toString count ++ "-digit hex code")).certain

/-- The characters that stand for themselves or for a control behind a backslash. -/
def escapes : List (Char × Char) :=
  [('b', '\x08'), ('f', '\x0c'), ('n', '\n'), ('r', '\r'), ('t', '\t'), ('\\', '\\'), ('"', '"')]

def escapeNames : List String :=
  ["b", "f", "n", "r", "t", "u", "U", "\\", "\""].map fun name => "`" ++ name ++ "`"

def readEscape : List Char -> Reading (Char × List Char)
  | [] => Reading.fail []
  | 'u' :: rest => readNumbered 4 rest
  | 'U' :: rest => readNumbered 8 rest
  | c :: rest =>
      match escapes.lookup c with
      | some meant => .ok (meant, rest)
      | none =>
          ((Reading.fail rest).about "escape sequence" |>.expecting escapeNames).certain

/-!
# On one line

Each step of a reader uses up text, so the length of the text is fuel enough.
-/

def readEscaped : (fuel : Nat) -> List Char -> Reading (List Char × List Char)
  | 0, text => unclosed "basic string" text
  | fuel + 1, text =>
      match text with
      | '"' :: rest => .ok ([], rest)
      | '\\' :: c :: rest => do
          let (c, rest) ← readEscape (c :: rest)
          let (chars, rest) ← readEscaped fuel rest
          return (c :: chars, rest)
      | c :: rest => do
          if c = '\\' ∨ ¬ isTextChar c then unclosed "basic string" text
          else
            let (chars, rest) ← readEscaped fuel rest
            return (c :: chars, rest)
      | [] => unclosed "basic string" []

def readLiteral : List Char -> Reading (List Char × List Char)
  | [] => unclosed "literal string" []
  | '\'' :: rest => .ok ([], rest)
  | c :: rest => do
      if !isTextChar c then unclosed "literal string" (c :: rest)
      else
        let (chars, rest) ← readLiteral rest
        return (c :: chars, rest)

/-!
# Over several lines
-/

def lineBreak? : List Char -> Option (List Char)
  | '\n' :: rest => some rest
  | '\r' :: '\n' :: rest => some rest
  | _ => none

def skipBlanks : List Char -> List Char
  | [] => []
  | c :: rest => if c = ' ' || c = '\t' then skipBlanks rest else c :: rest

def skipSpace : List Char -> List Char
  | '\r' :: '\n' :: rest => skipSpace rest
  | c :: rest => if c = ' ' || c = '\t' || c = '\n' then skipSpace rest else c :: rest
  | [] => []

/-- The end of a text between three quotes: up to two quotes may stand before the closing ones. -/
def closing? (quote : Char) : List Char -> Option (List Char × List Char)
  | a :: b :: c :: d :: e :: rest =>
      if [a, b, c, d, e].all (· = quote) then some ([quote, quote], rest)
      else if [a, b, c, d].all (· = quote) then some ([quote], e :: rest)
      else if [a, b, c].all (· = quote) then some ([], d :: e :: rest)
      else none
  | [a, b, c, d] =>
      if [a, b, c, d].all (· = quote) then some ([quote], [])
      else if [a, b, c].all (· = quote) then some ([], [d])
      else none
  | [a, b, c] => if [a, b, c].all (· = quote) then some ([], []) else none
  | _ => none

/-- The rest after a backslash that joins the text before it to the next text on a later line. -/
def joined? (text : List Char) : Option (List Char) := do
  let rest ← lineBreak? (skipBlanks text)
  return skipSpace rest

def hasEscapes (quote : Char) : Bool :=
  quote = '"'

def hasContent (quote : Char) (text : List Char) : Bool :=
  match text with
  | [] => false
  | c :: rest =>
      if c = '\\' && hasEscapes quote then !rest.isEmpty
      else (lineBreak? text).isSome || (isTextChar c && c ≠ quote)

def blockSubject (quote : Char) : String :=
  if hasEscapes quote then "multiline basic string" else "multiline literal string"

def readLines (quote : Char) : (fuel : Nat) -> List Char -> Reading (List Char × List Char)
  | 0, text => unclosed (blockSubject quote) text
  | fuel + 1, text =>
      match closing? quote text with
      | some ending => .ok ending
      | none =>
          let quotes := text.takeWhile (· = quote)
          let behind := text.drop quotes.length
          if !hasContent quote behind then unclosed (blockSubject quote) text
          else match quotes, behind with
          | _ :: _, _ => do
              let (chars, rest) ← readLines quote fuel behind
              return (quotes ++ chars, rest)
          | [], c :: rest =>
              if c = '\\' && hasEscapes quote then
                match joined? rest with
                | some rest => readLines quote fuel rest
                | none => do
                    let (c, rest) ← readEscape rest
                    let (chars, rest) ← readLines quote fuel rest
                    return (c :: chars, rest)
              else
                match lineBreak? behind with
                | some rest => do
                    let (chars, rest) ← readLines quote fuel rest
                    return ('\n' :: chars, rest)
                | none => do
                    let (chars, rest) ← readLines quote fuel rest
                    return (c :: chars, rest)
          | [], [] => unclosed (blockSubject quote) text

def readBlock (quote : Char) (text : List Char) : Reading (String × List Char) := do
  let text := (lineBreak? text).getD text
  let (chars, rest) ← (readLines quote (text.length + 1) text).about (blockSubject quote)
  return (String.ofList chars, rest)

/-!
# Either way
-/

def readLine : List Char -> Reading (String × List Char)
  | '"' :: rest => do
      let (chars, rest) ← readEscaped (rest.length + 1) rest
      return (String.ofList chars, rest)
  | '\'' :: rest => do
      let (chars, rest) ← readLiteral rest
      return (String.ofList chars, rest)
  | text => Reading.fail text

def read : List Char -> Reading (String × List Char)
  | '"' :: '"' :: '"' :: rest => readBlock '"' rest
  | '\'' :: '\'' :: '\'' :: rest => readBlock '\'' rest
  | text => readLine text

end Strings
end Toml
end FixtureProbe
