import FixtureProbe.Abi.Decode
import FixtureProbe.Abi.Encode
import FixtureProbe.Proofs.Sequence

/-!
# Where the bytes of an encoding stand

Decoding looks at data through windows, encoding builds data by joining parts. This module ties the
two together: what has been joined into the data stands at a place that can be computed, and a window
on that place shows it.
-/

namespace FixtureProbe
namespace Abi

/-!
# Bytes at a place
-/

/-- The bytes `bytes` stand at `offset` in `data`. -/
def Holds (data : Bytes) (offset : Nat) (bytes : Bytes) : Prop :=
  exists before after, data = before ++ bytes ++ after ∧ before.length = offset

namespace Holds

variable {data bytes more : Bytes} {offset : Nat}

theorem self (data : Bytes) : Holds data 0 data :=
  ⟨[], [], by simp⟩

theorem left (h : Holds data offset (bytes ++ more)) : Holds data offset bytes := by
  rcases h with ⟨before, after, hdata, hbefore⟩
  exists before, more ++ after
  constructor
  · simpa [List.append_assoc] using hdata
  · exact hbefore

theorem right (h : Holds data offset (bytes ++ more)) :
    Holds data (offset + bytes.length) more := by
  rcases h with ⟨before, after, hdata, hbefore⟩
  exists before ++ bytes, after
  constructor
  · simpa [List.append_assoc] using hdata
  · rw [List.length_append, hbefore]

theorem length_le (h : Holds data offset bytes) : offset + bytes.length ≤ data.length := by
  rcases h with ⟨before, after, hdata, hbefore⟩
  rw [hdata, List.length_append, List.length_append, hbefore]
  exact Nat.le_add_right _ _

/-- What stands behind the first `count` bytes still stands there when these are cut off. -/
theorem drop {count : Nat} (h : Holds data (count + offset) bytes) :
    Holds (data.drop count) offset bytes := by
  rcases h with ⟨before, after, hdata, hbefore⟩
  exists before.drop count, after
  constructor
  · rw [hdata, List.append_assoc, List.drop_append_of_le_length (by omega), List.append_assoc]
  · rw [List.length_drop, hbefore, Nat.add_sub_cancel_left]

/-- What stands at a place behind the first `count` bytes stands in the whole data as well. -/
theorem of_drop {count : Nat} (hcount : count ≤ data.length)
    (h : Holds (data.drop count) offset bytes) : Holds data (count + offset) bytes := by
  rcases h with ⟨before, after, hdata, hbefore⟩
  exists data.take count ++ before, after
  constructor
  · rw [List.append_assoc, List.append_assoc, ← List.append_assoc before, ← hdata,
      List.take_append_drop]
  · rw [List.length_append, List.length_take_of_le hcount, hbefore]

theorem window (h : Holds data offset bytes) :
    Decode.window data offset bytes.length = .ok bytes := by
  have hle := h.length_le
  rcases h with ⟨before, after, hdata, hbefore⟩
  have hslice : (data.drop offset).take bytes.length = bytes := by
    rw [hdata, ← hbefore, List.append_assoc, List.drop_left, List.take_left]
  rw [Decode.window, Bytes.slice?, if_pos hle, hslice]

/-- A window shows what stands there. -/
theorem of_window {count : Nat} (h : Decode.window data offset count = .ok bytes) :
    Holds data offset bytes ∧ bytes.length = count := by
  unfold Decode.window at h
  split at h
  · next found hslice =>
    cases h
    refine ⟨?_, Bytes.length_of_slice? hslice⟩
    unfold Bytes.slice? at hslice
    split at hslice
    · next hle =>
      cases hslice
      exists data.take offset, (data.drop offset).drop count
      constructor
      · rw [List.append_assoc, List.take_append_drop, List.take_append_drop]
      · exact List.length_take_of_le (by omega)
    · cases hslice
  · cases h

end Holds

/-!
# Words at a place
-/

@[simp]
theorem length_natWord (n : Nat) : (natWord n).length = 32 :=
  Bytes.length_ofNat 32 n

theorem ofBytes_natWord (n : Nat) : Word.ofBytes (natWord n) = BitVec.ofNat 256 n := by
  apply BitVec.eq_of_toNat_eq
  rw [Word.ofBytes, natWord, Bytes.toNat_ofNat, BitVec.toNat_ofNat, BitVec.toNat_ofNat, Nat.pow_eq]
  omega

namespace Holds

variable {data : Bytes} {offset : Nat}

theorem word {w : Word} (h : Holds data offset w.toBytes) : Decode.word data offset = .ok w := by
  have hwindow := h.window
  rw [Word.length_toBytes] at hwindow
  rw [Decode.word, hwindow]
  exact congrArg Except.ok (Word.ofBytes_toBytes w)

/-- A word that is read stands there. -/
theorem of_word {w : Word} (h : Decode.word data offset = .ok w) :
    Holds data offset w.toBytes := by
  rcases exists_of_bind h with ⟨bytes, hwindow, hword⟩
  cases hword
  rcases Holds.of_window hwindow with ⟨hholds, hlength⟩
  rw [Word.toBytes_ofBytes hlength]
  exact hholds

theorem natWord {n : Nat} (h : Holds data offset (natWord n)) :
    Decode.word data offset = .ok (BitVec.ofNat 256 n) := by
  have hwindow := h.window
  rw [length_natWord] at hwindow
  rw [Decode.word, hwindow]
  exact congrArg Except.ok (ofBytes_natWord n)

theorem size {n : Nat} (h : Holds data offset (Abi.natWord n)) (hn : n < UInt32.size) :
    Decode.size data offset = .ok n := by
  have hsize : UInt32.size = 4294967296 := rfl
  have htoNat : (BitVec.ofNat 256 n).toNat = n := by
    rw [BitVec.toNat_ofNat]
    omega
  rw [Decode.size, h.natWord]
  change (if (BitVec.ofNat 256 n).toNat < UInt32.size then _ else _) = _
  rw [htoNat, if_pos hn]
  rfl

/-- An offset or a length that is read stands there, and it is one that the decoder follows. -/
theorem of_size {n : Nat} (h : Decode.size data offset = .ok n) :
    Holds data offset (Abi.natWord n) ∧ n < UInt32.size := by
  rcases exists_of_bind h with ⟨w, hword, h⟩
  dsimp only at h
  split at h
  · next hlt =>
    cases h
    exact ⟨Holds.of_word hword, hlt⟩
  · cases h

theorem bool {b : Bool} (h : Holds data offset (Abi.natWord (if b then 1 else 0))) :
    Decode.bool data offset = .ok b := by
  rw [Decode.bool, h.natWord]
  cases b <;> rfl

/-- A byte string is found behind the offset that points to its length. -/
theorem byteString {bytes : Bytes} {start : Nat} (hoffset : Holds data offset (Abi.natWord start))
    (hstart : Holds data start (Token.encodeByteString bytes))
    (hsize : data.length < UInt32.size) : Decode.byteString data offset = .ok bytes := by
  have hend := hstart.length_le
  simp only [Token.encodeByteString, Bytes.padRight, List.length_append, length_natWord] at hend
  have hlength := hstart.left
  have hbytes := hstart.right.left
  rw [length_natWord] at hbytes
  rw [Decode.byteString, hoffset.size (by omega)]
  change (Decode.size data start >>= fun length => Decode.window data (start + 32) length) = _
  rw [hlength.size (by omega)]
  exact hbytes.window

end Holds

/-!
# Heads and tails
-/

namespace Part

@[simp]
theorem length_heads (tail : Nat) (parts : List Part) :
    (heads tail parts).length = headsSize parts := by
  induction parts generalizing tail with
  | nil => rfl
  | cons part parts ih =>
      rw [heads, List.length_append, ih]
      change _ = part.headSize + headsSize parts
      unfold headSize
      split <;> simp

/-- A part stands at `offset`: in place, or behind an offset word that leads to `tail`. -/
structure Placed (data : Bytes) (offset tail : Nat) (part : Part) : Prop where
  head : Holds data offset (if part.dynamic then natWord tail else part.bytes)
  body : Holds data tail (if part.dynamic then part.bytes else [])

/-- A sequence of parts has its heads at `offset` and its tails at `tail`. -/
structure AllPlaced (data : Bytes) (offset tail : Nat) (parts : List Part) : Prop where
  heads : Holds data offset (heads tail parts)
  tails : Holds data tail (tails parts)

namespace AllPlaced

variable {data : Bytes} {offset tail : Nat} {part : Part} {parts : List Part}

theorem first (h : AllPlaced data offset tail (part :: parts)) : part.Placed data offset tail :=
  ⟨h.heads.left, h.tails.left⟩

theorem others (h : AllPlaced data offset tail (part :: parts)) :
    AllPlaced data (offset + part.headSize) (tail + part.tailSize) parts := by
  have hhead : (if part.dynamic then natWord tail else part.bytes).length = part.headSize := by
    unfold headSize
    split <;> simp
  have htail : (if part.dynamic then part.bytes else []).length = part.tailSize := by
    unfold tailSize
    split <;> simp
  constructor
  · simpa [hhead] using h.heads.right
  · simpa [htail] using h.tails.right

/-- The offsets inside a sequence count from its own beginning. -/
theorem of_sequence (h : Holds data 0 (sequence parts)) :
    AllPlaced data 0 (headsSize parts) parts := by
  constructor
  · exact h.left
  · simpa using h.right

end AllPlaced

/-!
Static parts have no tails, so they can be read wherever their sequence stands.
-/

/-- No part of a sequence goes to the tail. -/
def AllStatic (parts : List Part) : Prop :=
  forall part, part ∈ parts -> part.dynamic = false

theorem heads_eq_of_allStatic {parts : List Part} (h : AllStatic parts) (tail tail' : Nat) :
    heads tail parts = heads tail' parts := by
  induction parts generalizing tail tail' with
  | nil => rfl
  | cons part parts ih =>
      have hpart : part.dynamic = false := h part List.mem_cons_self
      have hparts := ih (fun other hother => h other (List.mem_cons_of_mem part hother))
      simp only [heads, hpart, Bool.false_eq_true, if_false]
      rw [hparts (tail + part.tailSize) (tail' + part.tailSize)]

theorem tails_eq_nil_of_allStatic {parts : List Part} (h : AllStatic parts) :
    tails parts = [] := by
  induction parts with
  | nil => rfl
  | cons part parts ih =>
      have hpart : part.dynamic = false := h part List.mem_cons_self
      have hparts := ih (fun other hother => h other (List.mem_cons_of_mem part hother))
      simp [tails, hpart, hparts]

theorem AllPlaced.of_sequence_of_allStatic {data : Bytes} {offset : Nat} {parts : List Part}
    (hstatic : AllStatic parts) (h : Holds data offset (sequence parts)) :
    AllPlaced data offset (offset + headsSize parts) parts := by
  have hheads := h.left
  have htails := h.right
  rw [length_heads] at htails
  rw [heads_eq_of_allStatic hstatic _ (offset + headsSize parts)] at hheads
  exact ⟨hheads, htails⟩

end Part

end Abi
end FixtureProbe
