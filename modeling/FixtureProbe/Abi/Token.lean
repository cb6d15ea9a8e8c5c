import FixtureProbe.Abi.ParamType
import FixtureProbe.Chain.Address
import FixtureProbe.Text.Quoted

/-!
# Values of parameters

A token is a value together with the kind of its type, as it is found in call data. Diagnostics
show tokens in full.
-/

namespace FixtureProbe
namespace Abi

inductive Token where
  | address (value : Address)
  | uint (value : Word)
  | int (value : Word)
  | bool (value : Bool)
  | fixedBytes (value : Bytes)
  | bytes (value : Bytes)
  | string (value : String)
  | array (items : List Token)
  | fixedArray (items : List Token)
  | tuple (items : List Token)

namespace Token

/-!
# Types
-/

mutual

/-- Whether a token is a value of a type. The width of a number is not looked at. -/
def hasType : Token -> ParamType -> Bool
  | .address _, .address => true
  | .uint _, .uint _ => true
  | .int _, .int _ => true
  | .bool _, .bool => true
  | .fixedBytes value, .fixedBytes size => value.length ≤ size
  | .bytes _, .bytes => true
  | .string _, .string => true
  | .array items, .array element => allHaveType items element
  | .fixedArray items, .fixedArray element size =>
      items.length = size && allHaveType items element
  | .tuple items, .tuple components => haveTypes items components
  | _, _ => false

def allHaveType : List Token -> ParamType -> Bool
  | [], _ => true
  | token :: tokens, type => token.hasType type && allHaveType tokens type

def haveTypes : List Token -> List ParamType -> Bool
  | [], [] => true
  | token :: tokens, type :: types => token.hasType type && haveTypes tokens types
  | _, _ => false

end

/-!
# Shown in diagnostics
-/

def named (name value : String) : String :=
  name ++ "(" ++ value ++ ")"

def listed (texts : List String) : String :=
  "[" ++ String.intercalate ", " texts ++ "]"

def bytesText (bytes : Bytes) : String :=
  listed (bytes.map fun b => toString b.toNat)

mutual

def text : Token -> String
  | .address value => named "Address" value.text
  | .uint value => named "Uint" (toString value.toNat)
  | .int value => named "Int" (toString value.toNat)
  | .bool value => named "Bool" (if value then "true" else "false")
  | .fixedBytes value => named "FixedBytes" (bytesText value)
  | .bytes value => named "Bytes" (bytesText value)
  | .string value => named "String" (Quoted.quote value)
  | .array items => named "Array" (listed (texts items))
  | .fixedArray items => named "FixedArray" (listed (texts items))
  | .tuple items => named "Tuple" (listed (texts items))

def texts : List Token -> List String
  | [] => []
  | token :: tokens => token.text :: texts tokens

end

def optionText : Option Token -> String
  | some token => named "Some" token.text
  | none => "None"

end Token

end Abi
end FixtureProbe
