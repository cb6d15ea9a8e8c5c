import FixtureProbe.Text.Utf8
import Mathlib.Tactic.IntervalCases

/-!
# Text survives its bytes

Reading is lossy only on bytes that are no text. The bytes of a character take the machine from the
place between characters back to it, and out comes that character; so a text is read back unchanged.
Texts keep their order as well: they are sorted by their bytes as they are by their characters.
-/

namespace FixtureProbe
namespace Utf8

/-!
# Leading bytes

What the machine does with a byte is said in numbers, so that the rest is arithmetic.
-/

theorem toNat_byte {n : Nat} (h : n < 256) : (UInt8.ofNat n).toNat = n :=
  UInt8.toNat_ofNat_of_lt' h

theorem step_between_one {n : Nat} (h : n < 0x80) :
    step .between (UInt8.ofNat n) = ([Char.ofNat n], .between) := by
  have hn := toNat_byte (show n < 256 by omega)
  simp only [step, begin, UInt8.lt_iff_toNat_lt, UInt8.reduceToNat, hn]
  rw [if_pos h]

theorem step_between_two {lead : Nat} (hlow : 2 ≤ lead) (hhigh : lead < 0x20) :
    step .between (UInt8.ofNat (lead + 0xC0)) = ([], .inside 1 0x80 0xBF lead) := by
  have hn := toNat_byte (show lead + 0xC0 < 256 by omega)
  simp only [step, begin, UInt8.lt_iff_toNat_lt, UInt8.reduceToNat, hn]
  rw [if_neg (by omega), if_neg (by omega), if_pos (by omega), Nat.add_sub_cancel]

/-- The bounds of the second of three bytes, by the bits of the leading byte. -/
def secondOfThree (lead : Nat) : UInt8 × UInt8 :=
  if lead = 0 then (0xA0, 0xBF) else if lead = 0xD then (0x80, 0x9F) else (0x80, 0xBF)

theorem step_between_three {lead : Nat} (h : lead < 0x10) :
    step .between (UInt8.ofNat (lead + 0xE0)) =
      ([], .inside 2 (secondOfThree lead).1 (secondOfThree lead).2 lead) := by
  interval_cases lead <;> rfl

/-- The bounds of the second of four bytes, by the bits of the leading byte. -/
def secondOfFour (lead : Nat) : UInt8 × UInt8 :=
  if lead = 0 then (0x90, 0xBF) else if lead = 4 then (0x80, 0x8F) else (0x80, 0xBF)

theorem step_between_four {lead : Nat} (h : lead < 5) :
    step .between (UInt8.ofNat (lead + 0xF0)) =
      ([], .inside 3 (secondOfFour lead).1 (secondOfFour lead).2 lead) := by
  interval_cases lead <;> rfl

/-!
# Bytes inside a character

A byte within its bounds adds six bits to the value, and the last one completes the character.
-/

theorem step_inside {left value bits : Nat} {low high : UInt8} (hbits : bits < 64)
    (hlow : low.toNat ≤ bits + 0x80) (hhigh : bits + 0x80 ≤ high.toNat) :
    step (.inside left low high value) (UInt8.ofNat (bits + 0x80)) =
      if left ≤ 1 then ([Char.ofNat (value * 64 + bits)], .between)
      else ([], .inside (left - 1) 0x80 0xBF (value * 64 + bits)) := by
  have hn := toNat_byte (show bits + 0x80 < 256 by omega)
  simp only [step, UInt8.le_iff_toNat_le, hn]
  rw [if_pos ⟨hlow, hhigh⟩, Nat.add_sub_cancel]

theorem readFrom_last {value bits : Nat} (hbits : bits < 64) (rest : Bytes) :
    readFrom (.inside 1 0x80 0xBF value) (UInt8.ofNat (bits + 0x80) :: rest) =
      Char.ofNat (value * 64 + bits) :: readFrom .between rest := by
  have hlow : (0x80 : UInt8).toNat ≤ bits + 0x80 := Nat.le_add_left _ _
  have hhigh : bits + 0x80 ≤ (0xBF : UInt8).toNat := by
    simp
    omega
  rw [readFrom, step_inside hbits hlow hhigh]
  rfl

theorem readFrom_second {left value bits : Nat} {low high : UInt8} (hbits : bits < 64)
    (hlow : low.toNat ≤ bits + 0x80) (hhigh : bits + 0x80 ≤ high.toNat) (rest : Bytes) :
    readFrom (.inside (left + 2) low high value) (UInt8.ofNat (bits + 0x80) :: rest) =
      readFrom (.inside (left + 1) 0x80 0xBF (value * 64 + bits)) rest := by
  rw [readFrom, step_inside hbits hlow hhigh, if_neg (by omega)]
  rfl

theorem readFrom_more {left value bits : Nat} (hbits : bits < 64) (rest : Bytes) :
    readFrom (.inside (left + 2) 0x80 0xBF value) (UInt8.ofNat (bits + 0x80) :: rest) =
      readFrom (.inside (left + 1) 0x80 0xBF (value * 64 + bits)) rest := by
  apply readFrom_second hbits
  · exact Nat.le_add_left _ _
  · simp
    omega

/-!
# Characters and texts
-/

theorem readFrom_two {v : Nat} (hlow : 0x80 ≤ v) (hhigh : v < 0x800) (rest : Bytes) :
    readFrom .between
        (UInt8.ofNat (v / 64 % 0x20 + 0xC0) :: UInt8.ofNat (v % 0x40 + 0x80) :: rest) =
      Char.ofNat v :: readFrom .between rest := by
  rw [readFrom, step_between_two (by omega) (by omega), List.nil_append,
    readFrom_last (by omega)]
  have hvalue : v / 64 % 0x20 * 64 + v % 0x40 = v := by omega
  rw [hvalue]

theorem readFrom_three {v : Nat} (hlow : 0x800 ≤ v) (hhigh : v < 0x10000)
    (hvalid : v < 0xD800 ∨ 0xDFFF < v) (rest : Bytes) :
    readFrom .between
        (UInt8.ofNat (v / 4096 % 0x10 + 0xE0) :: UInt8.ofNat (v / 64 % 0x40 + 0x80) ::
          UInt8.ofNat (v % 0x40 + 0x80) :: rest) =
      Char.ofNat v :: readFrom .between rest := by
  have hbounds : (secondOfThree (v / 4096 % 0x10)).1.toNat ≤ v / 64 % 0x40 + 0x80 ∧
      v / 64 % 0x40 + 0x80 ≤ (secondOfThree (v / 4096 % 0x10)).2.toNat := by
    unfold secondOfThree
    split
    · simp
      omega
    · split <;> simp <;> omega
  rw [readFrom, step_between_three (by omega), List.nil_append,
    readFrom_second (by omega) hbounds.1 hbounds.2, readFrom_last (by omega)]
  have hvalue : (v / 4096 % 0x10 * 64 + v / 64 % 0x40) * 64 + v % 0x40 = v := by omega
  rw [hvalue]

theorem readFrom_four {v : Nat} (hlow : 0x10000 ≤ v) (hhigh : v < 0x110000) (rest : Bytes) :
    readFrom .between
        (UInt8.ofNat (v / 262144 % 0x08 + 0xF0) :: UInt8.ofNat (v / 4096 % 0x40 + 0x80) ::
          UInt8.ofNat (v / 64 % 0x40 + 0x80) :: UInt8.ofNat (v % 0x40 + 0x80) :: rest) =
      Char.ofNat v :: readFrom .between rest := by
  have hbounds : (secondOfFour (v / 262144 % 0x08)).1.toNat ≤ v / 4096 % 0x40 + 0x80 ∧
      v / 4096 % 0x40 + 0x80 ≤ (secondOfFour (v / 262144 % 0x08)).2.toNat := by
    unfold secondOfFour
    split
    · simp
      omega
    · split <;> simp <;> omega
  rw [readFrom, step_between_four (by omega), List.nil_append,
    readFrom_second (by omega) hbounds.1 hbounds.2, readFrom_more (by omega),
    readFrom_last (by omega)]
  have hvalue :
      ((v / 262144 % 0x08 * 64 + v / 4096 % 0x40) * 64 + v / 64 % 0x40) * 64 + v % 0x40 = v := by
    omega
  rw [hvalue]

/-- The bytes of a character are read as that character. -/
theorem readFrom_utf8EncodeChar (c : Char) (rest : Bytes) :
    readFrom .between (String.utf8EncodeChar c ++ rest) = c :: readFrom .between rest := by
  have hc : Char.ofNat c.val.toNat = c := Char.ofNat_toNat c
  have hvalid : c.val.toNat < 0xD800 ∨ 0xDFFF < c.val.toNat ∧ c.val.toNat < 0x110000 := c.valid
  fun_cases String.utf8EncodeChar c with
  | case1 v hone =>
      rw [List.singleton_append, readFrom, step_between_one (by omega), hc, List.singleton_append]
  | case2 v hone htwo =>
      simp only [List.cons_append, List.nil_append]
      rw [readFrom_two (by omega) (by omega), hc]
  | case3 v hone htwo hthree =>
      simp only [List.cons_append, List.nil_append]
      rw [readFrom_three (by omega) (by omega) (by omega), hc]
  | case4 v hone htwo hthree =>
      simp only [List.cons_append, List.nil_append]
      rw [readFrom_four (by omega) (by omega), hc]

theorem readFrom_encode (chars : List Char) :
    readFrom .between (chars.flatMap String.utf8EncodeChar) = chars := by
  induction chars with
  | nil => rfl
  | cons c rest ih => rw [List.flatMap_cons, readFrom_utf8EncodeChar, ih]

/-- A text is read back from its bytes. -/
@[simp]
theorem decodeLossy_encode (text : String) : decodeLossy (encode text) = text := by
  rw [decodeLossy, encode, readFrom_encode, String.ofList_toList]

/-!
# The order of texts

A character behind another one has a larger leading byte, or the same one and then a larger byte at the
first place where the two differ.
-/

theorem byte_cons_lt {m n : Nat} {rest rest' : Bytes} (hn : n < 256) (hle : m ≤ n)
    (h : m = n -> rest < rest') : UInt8.ofNat m :: rest < UInt8.ofNat n :: rest' := by
  rw [List.cons_lt_cons_iff, UInt8.lt_iff_toNat_lt, toNat_byte hn,
    toNat_byte (Nat.lt_of_le_of_lt hle hn)]
  rcases Nat.lt_or_eq_of_le hle with hlt | rfl
  · exact Or.inl hlt
  · exact Or.inr ⟨rfl, h rfl⟩

theorem byte_cons_lt_of_lt {m n : Nat} {rest rest' : Bytes} (hn : n < 256) (hlt : m < n) :
    UInt8.ofNat m :: rest < UInt8.ofNat n :: rest' :=
  byte_cons_lt hn (Nat.le_of_lt hlt) fun heq => absurd heq (Nat.ne_of_lt hlt)

theorem utf8EncodeChar_append_lt {c d : Char} (h : c < d) (rest rest' : Bytes) :
    String.utf8EncodeChar c ++ rest < String.utf8EncodeChar d ++ rest' := by
  have hlt : c.val.toNat < d.val.toNat := h
  have hvalid : d.val.toNat < 0xD800 ∨ 0xDFFF < d.val.toNat ∧ d.val.toNat < 0x110000 := d.valid
  fun_cases String.utf8EncodeChar c with
  | case1 v hone => fun_cases String.utf8EncodeChar d <;> exact byte_cons_lt_of_lt (by omega) (by omega)
  | case2 v hone htwo =>
      fun_cases String.utf8EncodeChar d with
      | case1 => omega
      | case2 =>
          exact byte_cons_lt (by omega) (by omega) fun _ =>
            byte_cons_lt_of_lt (by omega) (by omega)
      | case3 => exact byte_cons_lt_of_lt (by omega) (by omega)
      | case4 => exact byte_cons_lt_of_lt (by omega) (by omega)
  | case3 v hone htwo hthree =>
      fun_cases String.utf8EncodeChar d with
      | case1 => omega
      | case2 => omega
      | case3 =>
          exact byte_cons_lt (by omega) (by omega) fun _ =>
            byte_cons_lt (by omega) (by omega) fun _ =>
              byte_cons_lt_of_lt (by omega) (by omega)
      | case4 => exact byte_cons_lt_of_lt (by omega) (by omega)
  | case4 v hone htwo hthree =>
      fun_cases String.utf8EncodeChar d with
      | case1 => omega
      | case2 => omega
      | case3 => omega
      | case4 =>
          exact byte_cons_lt (by omega) (by omega) fun _ =>
            byte_cons_lt (by omega) (by omega) fun _ =>
              byte_cons_lt (by omega) (by omega) fun _ =>
                byte_cons_lt_of_lt (by omega) (by omega)

theorem flatMap_utf8EncodeChar_lt {chars chars' : List Char} (h : chars < chars') :
    chars.flatMap String.utf8EncodeChar < chars'.flatMap String.utf8EncodeChar := by
  induction h with
  | nil =>
      rename_i c rest
      rw [List.flatMap_nil, List.flatMap_cons]
      fun_cases String.utf8EncodeChar c <;> exact .nil
  | rel hlt =>
      rw [List.flatMap_cons, List.flatMap_cons]
      exact utf8EncodeChar_append_lt hlt _ _
  | cons hrest ih =>
      rw [List.flatMap_cons, List.flatMap_cons]
      exact List.append_left_lt ih

/-- Texts are in order exactly if their bytes are. -/
theorem encode_le_iff {s t : String} : encode s ≤ encode t ↔ s ≤ t := by
  constructor
  · intro hbytes hlt
    exact hbytes (flatMap_utf8EncodeChar_lt hlt)
  · intro hle hbytes
    by_cases hlt : s < t
    · exact List.lt_asymm hbytes (flatMap_utf8EncodeChar_lt hlt)
    · rw [String.le_antisymm hle hlt] at hbytes
      exact List.lt_irrefl _ hbytes

end Utf8
end FixtureProbe
