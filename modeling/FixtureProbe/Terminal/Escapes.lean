/-!
# Control sequences

Text may hold sequences that give orders to a terminal. Where they would not be understood they are
left out, together with all other controls; blanks and line breaks stay.
-/

namespace FixtureProbe
namespace Terminal

inductive Sequence where
  | outside
  /-- Behind an escape, and behind the signs that may follow it. -/
  | escape (signs : Bool)
  /-- Within a sequence of numbers, which a letter ends. -/
  | numbers
  /-- Within a title, which a bell ends. -/
  | title
  /-- Within a text for the terminal that only another sequence ends. -/
  | message

namespace Sequence

def afterEscape (signs : Bool) (c : Char) : Sequence :=
  if 0x20 ≤ c.toNat ∧ c.toNat < 0x30 then .escape true
  else if signs then .outside
  else if c = '[' then .numbers
  else if c = ']' then .title
  else if c = 'P' ∨ c = 'X' ∨ c = '^' ∨ c = '_' then .message
  else .outside

/-- Whether a control is carried out even within a sequence, and is a blank. -/
def isBlank (c : Char) : Bool :=
  c = '\t' || c = '\n' || c = '\r' || c = '\x0c'

def isPlain (c : Char) : Bool :=
  0x20 ≤ c.toNat && c.toNat ≠ 0x7F

/-- Takes a character: where the text stands behind it, and whether it is shown. -/
def step (place : Sequence) (c : Char) : Sequence × Bool :=
  if c = '\x1b' then (.escape false, false)
  else if c = '\x18' ∨ c = '\x1a' then (.outside, false)
  else if 0x80 ≤ c.toNat then (.outside, true)
  else match place with
    | .outside => (.outside, isPlain c || isBlank c)
    | .escape signs =>
        if isBlank c then (.outside, true)
        else if isPlain c then (afterEscape signs c, false)
        else (.escape signs, false)
    | .numbers =>
        if isBlank c then (.outside, true)
        else if 0x40 ≤ c.toNat ∧ c.toNat < 0x7F then (.outside, false)
        else (.numbers, false)
    | .title => (if c = '\x07' then .outside else .title, false)
    | .message => (.message, false)

end Sequence

def shown (place : Sequence) : List Char -> List Char
  | [] => []
  | c :: rest =>
      let (place, isShown) := place.step c
      if isShown then c :: shown place rest else shown place rest

def withoutEscapes (text : String) : String :=
  String.ofList (shown .outside text.toList)

end Terminal
end FixtureProbe
