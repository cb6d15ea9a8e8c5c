/-!
# Byte strings

The wire speaks in byte strings. This module holds the numbers they spell (most significant byte
first), the windows that a decoder looks through, and their hexadecimal text.

The main statements say that `ofNat` has exactly the width asked for, that `toNat` undoes it up to
that width, and that hexadecimal text is read back as the bytes that it was made of.
-/

namespace FixtureProbe

abbrev Bytes := List UInt8

namespace Bytes

/-!
# Numbers
-/

/-- The number spelled by a byte string, most significant byte first. -/
def toNat (bytes : Bytes) : Nat :=
  bytes.foldl (fun n b => n * 256 + b.toNat) 0

def ofNat : (width n : Nat) -> Bytes
  | 0, _ => []
  | width + 1, n => ofNat width (n / 256) ++ [n.toUInt8]

@[simp]
theorem length_ofNat (width n : Nat) : (ofNat width n).length = width := by
  induction width generalizing n with
  | zero => rfl
  | succ width ih => simp [ofNat, ih]

@[simp]
theorem toNat_nil : toNat [] = 0 :=
  rfl

theorem toNat_concat (bytes : Bytes) (b : UInt8) :
    toNat (bytes ++ [b]) = toNat bytes * 256 + b.toNat := by
  simp [toNat, List.foldl_append]

theorem toNat_ofNat (width n : Nat) : toNat (ofNat width n) = n % Nat.pow 256 width := by
  induction width generalizing n with
  | zero => simp [ofNat, Nat.mod_one]
  | succ width ih =>
      have hdigit : n.toUInt8.toNat = n % 256 := by
        simp
      have hpow : Nat.pow 256 (width + 1) = 256 * Nat.pow 256 width := Nat.mul_comm _ _
      rw [ofNat, toNat_concat, ih, hdigit, hpow, Nat.mod_mul]
      omega

theorem ofNat_toNat {width : Nat} {bytes : Bytes} (h : bytes.length = width) :
    ofNat width (toNat bytes) = bytes := by
  induction width generalizing bytes with
  | zero => rw [List.eq_nil_of_length_eq_zero h, ofNat]
  | succ width ih =>
      rcases List.eq_nil_or_concat bytes with rfl | ⟨front, last, rfl⟩
      · cases h
      · have hfront : front.length = width := by
          simpa using h
        have hlast : last.toNat < 256 := last.toNat_lt
        have hdiv : (toNat front * 256 + last.toNat) / 256 = toNat front := by
          omega
        have hmod : (toNat front * 256 + last.toNat).toUInt8 = last := by
          apply UInt8.toNat_inj.mp
          simp only [UInt8.toNat_ofNat', Nat.toUInt8_eq]
          omega
        rw [List.concat_eq_append, toNat_concat, ofNat, hdiv, ih hfront, hmod]

theorem toNat_lt (bytes : Bytes) : toNat bytes < Nat.pow 256 bytes.length := by
  have hpos : 0 < Nat.pow 256 bytes.length := Nat.pow_pos (by decide)
  have hmod := toNat_ofNat bytes.length (toNat bytes)
  rw [ofNat_toNat rfl] at hmod
  rw [hmod]
  exact Nat.mod_lt _ hpos

/-!
# Windows
-/

def slice? (data : Bytes) (offset count : Nat) : Option Bytes :=
  if offset + count ≤ data.length then some ((data.drop offset).take count) else none

theorem length_of_slice? {data window : Bytes} {offset count : Nat}
    (h : slice? data offset count = some window) : window.length = count := by
  unfold slice? at h
  split at h
  · cases h
    simp
    omega
  · cases h

theorem slice?_append {data window : Bytes} {offset count : Nat} (suffix : Bytes)
    (h : slice? data offset count = some window) :
    slice? (data ++ suffix) offset count = some window := by
  unfold slice? at h ⊢
  split at h
  · next hle =>
    cases h
    have hlen : offset + count ≤ (data ++ suffix).length := by
      simp
      omega
    rw [if_pos hlen, List.drop_append_of_le_length (by omega), List.take_append_of_le_length]
    simp
    omega
  · cases h

/-- Fills up with zero bytes on the right to the next multiple of 32. -/
def padRight (bytes : Bytes) : Bytes :=
  bytes ++ List.replicate ((32 - bytes.length % 32) % 32) 0

/-!
# Hexadecimal text
-/

def hexDigit (n : Nat) : Char :=
  if n < 10 then Char.ofNat (48 + n) else Char.ofNat (87 + n)

def hexValue? (c : Char) : Option Nat :=
  if '0' ≤ c ∧ c ≤ '9' then some (c.toNat - 48)
  else if 'a' ≤ c ∧ c ≤ 'f' then some (c.toNat - 87)
  else if 'A' ≤ c ∧ c ≤ 'F' then some (c.toNat - 55)
  else none

def hexDigits (bytes : Bytes) : List Char :=
  bytes.flatMap fun b => [hexDigit (b.toNat / 16), hexDigit (b.toNat % 16)]

def toHex (bytes : Bytes) : String :=
  String.ofList ('0' :: 'x' :: hexDigits bytes)

def ofHexDigits? : List Char -> Option Bytes
  | [] => some []
  | [_] => none
  | high :: low :: rest => do
      let high ← hexValue? high
      let low ← hexValue? low
      let rest ← ofHexDigits? rest
      return (high * 16 + low).toUInt8 :: rest

def dropHexMark : List Char -> List Char
  | '0' :: 'x' :: rest => rest
  | digits => digits

def ofHex? (text : String) : Option Bytes :=
  ofHexDigits? (dropHexMark text.toList)

theorem hexValue?_hexDigit {n : Nat} (h : n < 16) : hexValue? (hexDigit n) = some n := by
  have hall : forall n : Fin 16, hexValue? (hexDigit n) = some n.val := by
    decide
  exact hall ⟨n, h⟩

theorem hexDigits_cons (b : UInt8) (bytes : Bytes) :
    hexDigits (b :: bytes) =
      hexDigit (b.toNat / 16) :: hexDigit (b.toNat % 16) :: hexDigits bytes :=
  rfl

theorem ofHexDigits?_hexDigits (bytes : Bytes) : ofHexDigits? (hexDigits bytes) = some bytes := by
  induction bytes with
  | nil => rfl
  | cons b bytes ih =>
      have hlt := b.toNat_lt
      have hhigh : hexValue? (hexDigit (b.toNat / 16)) = some (b.toNat / 16) :=
        hexValue?_hexDigit (by omega)
      have hlow : hexValue? (hexDigit (b.toNat % 16)) = some (b.toNat % 16) :=
        hexValue?_hexDigit (by omega)
      have hbyte : (b.toNat / 16 * 16 + b.toNat % 16).toUInt8 = b := by
        rw [Nat.div_add_mod']
        exact UInt8.ofNat_toNat
      rw [hexDigits_cons, ofHexDigits?, hhigh, hlow, ih]
      exact congrArg (fun b => some (b :: bytes)) hbyte

theorem ofHex?_toHex (bytes : Bytes) : ofHex? (toHex bytes) = some bytes := by
  rw [ofHex?, toHex, String.toList_ofList]
  exact ofHexDigits?_hexDigits bytes

end Bytes

end FixtureProbe
