import FixtureProbe.Bytes
import FixtureProbe.Decimal.Basic

/-!
# Words of 256 bits

The chain computes with words of 256 bits; the probe reports ids of 64 bits. This module reads and
writes words, narrows them with a check, and spells them as quantities and as ether.
-/

namespace FixtureProbe

abbrev Word := BitVec 256

namespace Word

def ofBytes (bytes : Bytes) : Word :=
  BitVec.ofNat 256 bytes.toNat

def toBytes (w : Word) : Bytes :=
  Bytes.ofNat 32 w.toNat

def ofUInt64 (n : UInt64) : Word :=
  BitVec.ofNat 256 n.toNat

def toUInt64? (w : Word) : Option UInt64 :=
  if w.toNat < UInt64.size then some (UInt64.ofNat w.toNat) else none

def low64 (w : Word) : UInt64 :=
  UInt64.ofNat w.toNat

@[simp]
theorem length_toBytes (w : Word) : (toBytes w).length = 32 := by
  simp [toBytes]

@[simp]
theorem ofBytes_toBytes (w : Word) : ofBytes (toBytes w) = w := by
  apply BitVec.eq_of_toNat_eq
  have hw : w.toNat < 2 ^ 256 := w.isLt
  rw [ofBytes, toBytes, Bytes.toNat_ofNat, BitVec.toNat_ofNat, Nat.pow_eq]
  omega

theorem toBytes_ofBytes {bytes : Bytes} (h : bytes.length = 32) :
    toBytes (ofBytes bytes) = bytes := by
  have hlt := Bytes.toNat_lt bytes
  rw [h, Nat.pow_eq] at hlt
  have hvalue : (ofBytes bytes).toNat = bytes.toNat := by
    rw [ofBytes, BitVec.toNat_ofNat]
    omega
  rw [toBytes, hvalue, Bytes.ofNat_toNat h]

@[simp]
theorem toNat_ofUInt64 (n : UInt64) : (ofUInt64 n).toNat = n.toNat := by
  have hn : n.toNat < 2 ^ 64 := n.toNat_lt
  rw [ofUInt64, BitVec.toNat_ofNat]
  omega

theorem toUInt64?_eq_some_iff {w : Word} {n : UInt64} :
    toUInt64? w = some n ↔ w.toNat = n.toNat := by
  have hn : n.toNat < 2 ^ 64 := n.toNat_lt
  constructor
  · intro h
    unfold toUInt64? at h
    split at h
    · next hlt =>
      have hsize : UInt64.size = 18446744073709551616 := rfl
      cases h
      rw [UInt64.toNat_ofNat']
      omega
    · cases h
  · intro h
    have hlt : w.toNat < UInt64.size := h ▸ n.toNat_lt
    rw [toUInt64?, if_pos hlt, h, UInt64.ofNat_toNat]

@[simp]
theorem toUInt64?_ofUInt64 (n : UInt64) : toUInt64? (ofUInt64 n) = some n :=
  toUInt64?_eq_some_iff.2 (toNat_ofUInt64 n)

theorem eq_ofUInt64_of_toUInt64? {w : Word} {n : UInt64} (h : toUInt64? w = some n) :
    w = ofUInt64 n := by
  apply BitVec.eq_of_toNat_eq
  rw [toNat_ofUInt64, toUInt64?_eq_some_iff.1 h]

theorem toUInt64?_eq_none_iff {w : Word} : toUInt64? w = none ↔ UInt64.size ≤ w.toNat := by
  unfold toUInt64?
  split
  · next hlt => simp [hlt]
  · next hge => simpa using hge

theorem toNat_low64 (w : Word) : (low64 w).toNat = w.toNat % UInt64.size := by
  rw [low64, UInt64.toNat_ofNat']

theorem toNat_low64_eq_iff {w : Word} : (low64 w).toNat = w.toNat ↔ w.toNat < UInt64.size := by
  rw [toNat_low64]
  exact Nat.mod_eq_iff_lt (by decide)

/-!
# Text
-/

def hexNat (n : Nat) : String :=
  String.ofList (Nat.toDigits 16 n)

def quantity (w : Word) : String :=
  "0x" ++ hexNat w.toNat

/-- A balance in ether, of which it counts the last of eighteen decimal places. -/
def ether (w : Word) : String :=
  String.ofList (Decimal.pointed 18 w.toNat)

end Word

end FixtureProbe
