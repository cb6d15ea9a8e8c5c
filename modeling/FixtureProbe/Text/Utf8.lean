import FixtureProbe.Bytes

/-!
# Text from bytes

Names come from the chain as bytes that should be UTF-8 and need not be. Reading is lossy: each
maximal part that cannot be completed to a character becomes one replacement character. A reader
that stands between two characters, or inside one, is a small machine; reading is a run of it.
-/

namespace FixtureProbe
namespace Utf8

def encode (text : String) : Bytes :=
  text.toList.flatMap String.utf8EncodeChar

def replacement : Char := '\uFFFD'

/-!
# The reading machine
-/

/-- Where a reader stands: between characters, or before `left` more bytes of one. -/
inductive State where
  | between
  /-- The next byte must lie between `low` and `high`; `value` collects the bits read so far. -/
  | inside (left : Nat) (low high : UInt8) (value : Nat)

/--
Reads a byte between two characters. The bounds on the second byte shut out overlong forms,
surrogates and values above the last character.
-/
def begin (b : UInt8) : List Char × State :=
  if b < 0x80 then ([Char.ofNat b.toNat], .between)
  else if b < 0xC2 then ([replacement], .between)
  else if b < 0xE0 then ([], .inside 1 0x80 0xBF (b.toNat - 0xC0))
  else if b = 0xE0 then ([], .inside 2 0xA0 0xBF 0)
  else if b = 0xED then ([], .inside 2 0x80 0x9F 0xD)
  else if b < 0xF0 then ([], .inside 2 0x80 0xBF (b.toNat - 0xE0))
  else if b = 0xF0 then ([], .inside 3 0x90 0xBF 0)
  else if b < 0xF4 then ([], .inside 3 0x80 0xBF (b.toNat - 0xF0))
  else if b = 0xF4 then ([], .inside 3 0x80 0x8F 4)
  else ([replacement], .between)

def step : State -> UInt8 -> List Char × State
  | .between, b => begin b
  | .inside left low high value, b =>
      if low ≤ b ∧ b ≤ high then
        let value := value * 64 + (b.toNat - 0x80)
        if left ≤ 1 then ([Char.ofNat value], .between)
        else ([], .inside (left - 1) 0x80 0xBF value)
      else
        let (chars, state) := begin b
        (replacement :: chars, state)

def finish : State -> List Char
  | .between => []
  | .inside .. => [replacement]

def readFrom : State -> Bytes -> List Char
  | state, [] => finish state
  | state, b :: rest => (step state b).1 ++ readFrom (step state b).2 rest

/-- Reads a text, with a replacement character for every maximal part that is not UTF-8. -/
def decodeLossy (bytes : Bytes) : String :=
  String.ofList (readFrom .between bytes)

end Utf8
end FixtureProbe
