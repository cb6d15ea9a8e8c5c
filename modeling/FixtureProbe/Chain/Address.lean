import FixtureProbe.Chain.Word

/-!
# Account addresses

An address has twenty bytes. It is written in full wherever the probe reports it, and abbreviated
in log lines.
-/

namespace FixtureProbe

structure Address where
  value : BitVec 160
  deriving DecidableEq

namespace Address

def ofWord (w : Word) : Address :=
  ⟨BitVec.ofNat 160 w.toNat⟩

def toBytes (a : Address) : Bytes :=
  Bytes.ofNat 20 a.value.toNat

def toWord (a : Address) : Word :=
  BitVec.ofNat 256 a.value.toNat

@[simp]
theorem ofWord_toWord (a : Address) : ofWord (toWord a) = a := by
  have h : a.value.toNat < 2 ^ 160 := a.value.isLt
  cases a with
  | mk value =>
      simp only [ofWord, toWord, Address.mk.injEq]
      apply BitVec.eq_of_toNat_eq
      simp only [BitVec.toNat_ofNat] at h ⊢
      omega

def text (a : Address) : String :=
  a.toBytes.toHex

def abbreviated (a : Address) : String :=
  Bytes.toHex (a.toBytes.take 2) ++ "…" ++ String.ofList (Bytes.hexDigits (a.toBytes.drop 18))

instance : ToString Address := ⟨text⟩

def isBlank (c : Char) : Bool :=
  c = ' ' || c = '\t' || c = '\n' || c = '\r'

/--
Reads an address: one optional `0x`, then digits with blanks anywhere among them. Forty digits are
needed; a single digit more, which is half a byte, is passed over.
-/
def parse? (text : String) : Option Address := do
  let digits := (Bytes.dropHexMark text.toList).filter (!isBlank ·)
  if digits.length = 40 ∨ digits.length = 41 then
    let values ← digits.mapM Bytes.hexValue?
    return ⟨BitVec.ofNat 160 ((values.take 40).foldl (fun n d => n * 16 + d) 0)⟩
  else
    none

/-- The address at which the chain answers the calls of the precompile. -/
def precompile : Address :=
  ⟨0x807⟩

end Address

end FixtureProbe
