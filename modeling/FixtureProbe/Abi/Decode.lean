import FixtureProbe.Abi.Token
import FixtureProbe.Text.Utf8

/-!
# Decoding values

Values are decoded from the front of the data; what follows them is passed over. Dynamic values are
followed through their offsets, which may point anywhere inside the data, so tails may overlap, be
unpadded, and stand in any order.
-/

namespace FixtureProbe
namespace Abi

inductive CodecError where
  | emptyData
  /-- The data ends too early, or a word is not what its position asks for. -/
  | invalidData
  deriving DecidableEq

def CodecError.message : CodecError -> String
  | .emptyData =>
      "Invalid name: please ensure the contract and method you're calling exist! failed to " ++
      "decode empty bytes. if you're using jsonrpc this is likely due to jsonrpc returning " ++
      "`0x` in case contract or method don't exist"
  | .invalidData => "Invalid data"

namespace Decode

/-!
# Words
-/

def window (data : Bytes) (offset count : Nat) : Except CodecError Bytes :=
  match Bytes.slice? data offset count with
  | some bytes => .ok bytes
  | none => .error .invalidData

def word (data : Bytes) (offset : Nat) : Except CodecError Word := do
  return Word.ofBytes (← window data offset 32)

/-- The word at an offset, used as an offset or a length: it must be below `2 ^ 32`. -/
def size (data : Bytes) (offset : Nat) : Except CodecError Nat := do
  let n := (← word data offset).toNat
  if n < UInt32.size then return n else .error .invalidData

/-- The truth value at an offset: true is one, and any other single byte is false. -/
def bool (data : Bytes) (offset : Nat) : Except CodecError Bool := do
  let n := (← word data offset).toNat
  if n < UInt8.size then return n = 1 else .error .invalidData

def byteString (data : Bytes) (offset : Nat) : Except CodecError Bytes := do
  let start ← size data offset
  let length ← size data start
  window data (start + 32) length

/-!
# Values
-/

/-- A decoder of one value: the value at an offset, and the offset of what follows it. -/
abbrev Reader := (offset : Nat) -> Except CodecError (Token × Nat)

def repeated (reader : Reader) : (count : Nat) -> (offset : Nat) ->
    Except CodecError (List Token × Nat)
  | 0, offset => .ok ([], offset)
  | count + 1, offset => do
      let (token, offset) ← reader offset
      let (tokens, offset) ← repeated reader count offset
      return (token :: tokens, offset)

/--
The data and the offset at which the parts of a composite value stand: in place when the value is
static, otherwise at the start of what the offset word points to.
-/
def enter (dynamic : Bool) (data : Bytes) (offset : Nat) : Except CodecError (Bytes × Nat) :=
  if dynamic then do
    let start ← size data offset
    if start ≤ data.length then return (data.drop start, 0) else .error .invalidData
  else
    .ok (data, offset)

mutual

def value : ParamType -> (data : Bytes) -> Reader
  | .address, data, offset => do
      return (.address (Address.ofWord (← word data offset)), offset + 32)
  | .uint _, data, offset => do return (.uint (← word data offset), offset + 32)
  | .int _, data, offset => do return (.int (← word data offset), offset + 32)
  | .bool, data, offset => do return (.bool (← bool data offset), offset + 32)
  | .fixedBytes size, data, offset => do
      return (.fixedBytes (← window data offset size), offset + 32)
  | .bytes, data, offset => do return (.bytes (← byteString data offset), offset + 32)
  | .string, data, offset => do
      return (.string (Utf8.decodeLossy (← byteString data offset)), offset + 32)
  | .array element, data, offset => do
      let start ← size data offset
      let length ← size data start
      let (items, _) ← repeated (value element (data.drop (start + 32))) length 0
      return (.array items, offset + 32)
  | .fixedArray element size, data, offset => do
      let (inner, start) ← enter element.isDynamic data offset
      let (items, next) ← repeated (value element inner) size start
      return (.fixedArray items, if element.isDynamic then offset + 32 else next)
  | .tuple components, data, offset => do
      let dynamic := ParamType.anyDynamic components
      let (inner, start) ← enter dynamic data offset
      let (items, next) ← values components inner start
      return (.tuple items, if dynamic then offset + 32 else next)

def values : List ParamType -> (data : Bytes) -> (offset : Nat) ->
    Except CodecError (List Token × Nat)
  | [], _, offset => .ok ([], offset)
  | type :: types, data, offset => do
      let (token, offset) ← value type data offset
      let (tokens, offset) ← values types data offset
      return (token :: tokens, offset)

end

end Decode

/--
Decodes values of the given types. Data without a single byte is refused unless each type declares
that it takes no bytes.
-/
def decode (types : List ParamType) (data : Bytes) : Except CodecError (List Token) :=
  if data = [] ∧ ¬ types.all ParamType.allowsEmptyData then .error .emptyData
  else do
    let (tokens, _) ← Decode.values types data 0
    return tokens

end Abi
end FixtureProbe
