import FixtureProbe.Text.Composition
import FixtureProbe.Text.Direction
import FixtureProbe.Text.Joining
import FixtureProbe.Url.Domain.Replacement
import FixtureProbe.Url.Punycode

/-!
# Domain names

A domain name is brought to one form, in lower-case ASCII: every character is replaced by its plain
form, marks are put together with their letters, and labels that still hold characters outside ASCII
are spelled in ASCII. Names with characters that may not stand in a name are refused, and so are
names that would be read in two ways because of their marks, joiners or writing directions.
-/

namespace FixtureProbe
namespace Domain

/-!
# Characters
-/

def reserved : List Char :=
  ['%', '#', '/', ':', '<', '>', '?', '@', '[', '\\', ']', '^', '|']

def isForbidden (c : Char) : Bool :=
  c.toNat ≤ 0x20 || c.toNat = 0x7F || reserved.contains c

def nonJoiner : Char := '\u200c'

def joiner : Char := '\u200d'

def joins (ways : List Joining) : List Char -> Bool
  | [] => false
  | c :: rest =>
      ways.contains (Joining.ofChar c) || (Joining.ofChar c = .transparent && joins ways rest)

/--
Whether a joiner may stand between two texts, the first of which is given from its end: behind a
sign that takes the vowel from a letter, or, if it keeps letters apart, between letters that would
be joined.
-/
def joinerFits (c : Char) (before after : List Char) : Bool :=
  before.head?.any (combiningClass · = CombiningClass.vowelKiller) ||
    (c = nonJoiner && joins [.next, .both] before && joins [.previous, .both] after)

def joinersFit (before : List Char) : List Char -> Bool
  | [] => true
  | c :: rest =>
      ((c ≠ nonJoiner && c ≠ joiner) || joinerFits c before rest) && joinersFit (c :: before) rest

/-!
# Labels
-/

/-- How labels begin that spell other characters in ASCII. -/
def mark : List Char := ['x', 'n', '-', '-']

def isPlain (text : List Char) : Bool :=
  text.all (·.toNat < 0x80)

def longestLabel : Nat := 1000

def longestSpelling : Nat := 2000

/-- Whether a label may stand in a name, as far as it can be told from the label alone. -/
def isLabel (label : List Char) : Bool :=
  !label.any isForbidden && !label.head?.any isMark && joinersFit [] label &&
    (isPlain label || label.length ≤ longestLabel)

def isStable (text : List Char) : Bool :=
  text.all (fun c => replacement? c = some [c]) && Composition.composed text = text

def spelled? (spelling : List Char) : Option (List Char) := do
  guard (isPlain spelling && spelling.getLast?.any (· ≠ '-') && spelling.length ≤ longestSpelling)
  let label ← Punycode.decode? spelling
  guard (isStable label)
  return label

def label? (label : List Char) : Option (List Char) := do
  let label ← if mark.isPrefixOf label then spelled? (label.drop mark.length) else some label
  guard (isLabel label)
  return label

def plainLabel (label : List Char) : List Char :=
  if isPlain label then label else mark ++ Punycode.encode label

/-!
# Writing directions
-/

/-- Whether the last direction is one of some, marks at the end apart, and those before it too. -/
def endsWell (last others : List Direction) (directions : List Direction) : Bool :=
  match directions.reverse.dropWhile (· = .mark) with
  | [] => true
  | d :: before => last.contains d && before.all others.contains

/-- Whether a label can be read in one way only within a name that holds both directions. -/
def isReadable (label : List Char) : Bool :=
  match label.map Direction.ofChar with
  | [] => true
  | .left :: rest => endsWell [.left, .digit] [.left, .digit, .neutral, .mark] rest
  | .right :: rest =>
      endsWell [.right, .digit, .arabicDigit] [.right, .digit, .arabicDigit, .neutral, .mark]
        rest && !(rest.contains .digit && rest.contains .arabicDigit)
  | _ => false

def runsLeft (text : List Char) : Bool :=
  text.any fun c => Direction.ofChar c = .right || Direction.ofChar c = .arabicDigit

/-!
# Names
-/

def ascii? (name : List Char) : Option (List Char) := do
  let plain := Composition.composed (← name.mapM replacement?).flatten
  let labels ← (plain.splitOn '.').mapM label?
  guard (!labels.any runsLeft || labels.all isReadable)
  return ['.'].intercalate (labels.map plainLabel)

end Domain
end FixtureProbe
