import FixtureProbe.Abi.Token
import FixtureProbe.Text.Utf8

/-!
# Encoding values

The standard encoding: a head with one entry for each value, then the tails. A static value stands
in the head itself; for a dynamic value the head holds the offset of its tail.
-/

namespace FixtureProbe
namespace Abi

def natWord (n : Nat) : Bytes :=
  Bytes.ofNat 32 n

/-- One value of a sequence: its bytes, and whether they go to the tail. -/
structure Part where
  dynamic : Bool
  bytes : Bytes

namespace Part

def headSize (part : Part) : Nat :=
  if part.dynamic then 32 else part.bytes.length

def tailSize (part : Part) : Nat :=
  if part.dynamic then part.bytes.length else 0

/-- The heads of a sequence whose first tail stands at `tail`. -/
def heads : (tail : Nat) -> List Part -> Bytes
  | _, [] => []
  | tail, part :: parts =>
      (if part.dynamic then natWord tail else part.bytes) ++ heads (tail + part.tailSize) parts

def tails : List Part -> Bytes
  | [] => []
  | part :: parts => (if part.dynamic then part.bytes else []) ++ tails parts

def headsSize (parts : List Part) : Nat :=
  parts.foldr (fun part size => part.headSize + size) 0

def sequence (parts : List Part) : Bytes :=
  heads (headsSize parts) parts ++ tails parts

end Part

namespace Token

mutual

def isDynamic : Token -> Bool
  | .bytes _ | .string _ | .array _ => true
  | .fixedArray items | .tuple items => anyDynamic items
  | .address _ | .uint _ | .int _ | .bool _ | .fixedBytes _ => false

def anyDynamic : List Token -> Bool
  | [] => false
  | token :: tokens => token.isDynamic || anyDynamic tokens

end

def encodeByteString (bytes : Bytes) : Bytes :=
  natWord bytes.length ++ Bytes.padRight bytes

mutual

def encode : Token -> Bytes
  | .address value => value.toWord.toBytes
  | .uint value | .int value => value.toBytes
  | .bool value => natWord (if value then 1 else 0)
  | .fixedBytes value => Bytes.padRight value
  | .bytes value => encodeByteString value
  | .string value => encodeByteString (Utf8.encode value)
  | .array items => natWord items.length ++ Part.sequence (parts items)
  | .fixedArray items | .tuple items => Part.sequence (parts items)

def parts : List Token -> List Part
  | [] => []
  | token :: tokens => ⟨token.isDynamic, token.encode⟩ :: parts tokens

end

end Token

def encode (tokens : List Token) : Bytes :=
  Part.sequence (Token.parts tokens)

end Abi
end FixtureProbe
