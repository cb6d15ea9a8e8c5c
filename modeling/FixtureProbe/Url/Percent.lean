import FixtureProbe.Text.Utf8

/-!
# Percent encoding

A character that may not stand for itself is written as its bytes, each as a percent sign and two
upper-case digits. Which characters those are depends on the part of the URL; controls and
characters outside ASCII are always among them.
-/

namespace FixtureProbe
namespace Percent

def digit (n : Nat) : Char :=
  (Bytes.hexDigit n).toUpper

def escapeByte (b : UInt8) : List Char :=
  ['%', digit (b.toNat / 16), digit (b.toNat % 16)]

def isAlwaysEscaped (c : Char) : Bool :=
  c.toNat < 0x20 || 0x7E < c.toNat

def encode (escaped : List Char) (text : List Char) : List Char :=
  text.flatMap fun c =>
    if isAlwaysEscaped c || escaped.contains c then
      (String.utf8EncodeChar c).flatMap escapeByte
    else [c]

def inFragment : List Char := [' ', '"', '<', '>', '`']

def inPath : List Char := inFragment ++ ['#', '?', '\x7b', '\x7d']

def inUserInfo : List Char := inPath ++ ['/', ':', ';', '=', '@', '[', '\\', ']', '^', '|']

def inQuery : List Char := [' ', '"', '#', '<', '>']

/-- The bytes of a text in which each percent sign before two digits stands for one byte. -/
def decode : List Char -> Bytes
  | [] => []
  | '%' :: a :: b :: rest =>
      match Bytes.hexValue? a, Bytes.hexValue? b with
      | some high, some low => (high * 16 + low).toUInt8 :: decode rest
      | _, _ => 0x25 :: decode (a :: b :: rest)
  | c :: rest => String.utf8EncodeChar c ++ decode rest
termination_by text => text.length

end Percent
end FixtureProbe
