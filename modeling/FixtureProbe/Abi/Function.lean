import FixtureProbe.Abi.Decode
import FixtureProbe.Abi.Encode
import FixtureProbe.Chain.Keccak

/-!
# Contract functions

A function is known by its name and the types of its inputs; the first four bytes of the digest of
that signature select it in call data.
-/

namespace FixtureProbe
namespace Abi

structure Function where
  name : String
  inputs : List ParamType
  outputs : List ParamType
  deriving DecidableEq

namespace Function

/-- The name with the input types: what the selector is the digest of. -/
def call (f : Function) : String :=
  f.name ++ ParamType.listText f.inputs

/-- The name with the input types and, when there are any, the output types. -/
def signature (f : Function) : String :=
  if f.outputs.isEmpty then f.call else f.call ++ ":" ++ ParamType.listText f.outputs

def selector (f : Function) : Bytes :=
  (Keccak.digest (Utf8.encode f.call)).take 4

def encodeInput (f : Function) (arguments : List Token) : Except CodecError Bytes :=
  if Token.haveTypes arguments f.inputs then .ok (f.selector ++ encode arguments)
  else .error .invalidData

def decodeInput (f : Function) (data : Bytes) : Except CodecError (List Token) :=
  decode f.inputs data

def decodeOutput (f : Function) (data : Bytes) : Except CodecError (List Token) :=
  decode f.outputs data

end Function

end Abi
end FixtureProbe
