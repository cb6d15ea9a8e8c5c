import FixtureProbe.Proofs.Abi.Layout
import Mathlib.Data.List.Forall2

/-!
# What decoded values were read from

A value that has been decoded is of its type, and what it was read from stands in the data. One relation
says so for every type; whoever wants to know where a value comes from goes by its cases and never opens
the decoder. Numbers in particular are the words at their places, all 256 bits of them.
-/

namespace FixtureProbe
namespace Abi

/-!
# Numbers at a place
-/

/-- The number that 32 bytes spell from a place on, if the data reaches that far. -/
def wordAt? (data : Bytes) (place : Nat) : Option Nat :=
  (Bytes.slice? data place 32).map Bytes.toNat

section Words

variable {data bytes : Bytes} {place : Nat}

theorem Holds.wordAt?_eq (h : Holds data place bytes) (hlength : bytes.length = 32) :
    wordAt? data place = some bytes.toNat := by
  have hwindow := h.window
  rw [hlength, Decode.window] at hwindow
  split at hwindow
  · next found hslice =>
    cases hwindow
    rw [wordAt?, hslice, Option.map_some]
  · cases hwindow

theorem wordAt?_of_word {w : Word} (h : Holds data place w.toBytes) :
    wordAt? data place = some w.toNat := by
  have hw : w.toNat < 2 ^ 256 := w.isLt
  rw [h.wordAt?_eq (Word.length_toBytes w), Word.toBytes, Bytes.toNat_ofNat, Nat.pow_eq,
    Nat.mod_eq_of_lt (by omega)]

theorem wordAt?_of_size {n : Nat} (h : Decode.size data place = .ok n) :
    wordAt? data place = some n := by
  rcases Holds.of_size h with ⟨hholds, hlt⟩
  have hsize : UInt32.size = 4294967296 := rfl
  rw [hholds.wordAt?_eq (length_natWord n), natWord, Bytes.toNat_ofNat, Nat.pow_eq,
    Nat.mod_eq_of_lt (by omega)]

/-- A number behind the first `count` bytes is a number of the whole data. -/
theorem wordAt?_of_drop {count n : Nat} (h : wordAt? (data.drop count) place = some n) :
    wordAt? data (count + place) = some n := by
  rw [wordAt?, Option.map_eq_some_iff] at h ⊢
  rcases h with ⟨bytes, hslice, hbytes⟩
  refine ⟨bytes, ?_, hbytes⟩
  unfold Bytes.slice? at hslice ⊢
  split at hslice
  · next hle =>
    rw [List.length_drop] at hle
    rw [if_pos (by omega), ← List.drop_drop]
    exact hslice
  · cases hslice

/-- The numbers stand at the places, one for one. -/
abbrev Spells (data : Bytes) : (places numbers : List Nat) -> Prop :=
  List.Forall₂ fun place n => wordAt? data place = some n

namespace Spells

variable {places numbers : List Nat}

theorem of_drop {count : Nat} (h : Spells (data.drop count) places numbers) :
    Spells data (places.map (count + ·)) numbers := by
  induction h with
  | nil => exact .nil
  | cons hfirst _ ih => exact .cons (wordAt?_of_drop hfirst) ih

theorem mem_of_wordAt? {n : Nat} (h : Spells data places numbers) (hplace : place ∈ places)
    (hword : wordAt? data place = some n) : n ∈ numbers := by
  induction h with
  | nil => cases hplace
  | cons hfirst _ ih =>
      rcases List.mem_cons.mp hplace with rfl | hplace
      · rw [hfirst] at hword
        cases hword
        exact List.mem_cons_self
      · exact List.mem_cons_of_mem _ (ih hplace)

end Spells

end Words

namespace Decode

/-!
# One value
-/

/-- What there is in the data for a token that was read as a value of a type, and where reading went on. -/
inductive Found (data : Bytes) (offset : Nat) : ParamType -> Token -> (next : Nat) -> Prop where
  | address {w : Word} (h : Holds data offset w.toBytes) :
      Found data offset .address (.address (.ofWord w)) (offset + 32)
  | uint {w : Word} (bits : Nat) (h : Holds data offset w.toBytes) :
      Found data offset (.uint bits) (.uint w) (offset + 32)
  | int {w : Word} (bits : Nat) (h : Holds data offset w.toBytes) :
      Found data offset (.int bits) (.int w) (offset + 32)
  | bool {b : Bool} (h : Decode.bool data offset = .ok b) :
      Found data offset .bool (.bool b) (offset + 32)
  | fixedBytes {size : Nat} {bytes : Bytes} (h : window data offset size = .ok bytes) :
      Found data offset (.fixedBytes size) (.fixedBytes bytes) (offset + 32)
  | bytes {bytes : Bytes} (h : byteString data offset = .ok bytes) :
      Found data offset .bytes (.bytes bytes) (offset + 32)
  | string {bytes : Bytes} (h : byteString data offset = .ok bytes) :
      Found data offset .string (.string (Utf8.decodeLossy bytes)) (offset + 32)
  | array {element : ParamType} {items : List Token} {start length next : Nat}
      (hstart : size data offset = .ok start) (hlength : size data start = .ok length)
      (hitems : repeated (value element (data.drop (start + 32))) length 0 = .ok (items, next)) :
      Found data offset (.array element) (.array items) (offset + 32)
  | fixedArray {element : ParamType} {size : Nat} {items : List Token} {inner : Bytes}
      {start next : Nat} (henter : enter element.isDynamic data offset = .ok (inner, start))
      (hitems : repeated (value element inner) size start = .ok (items, next)) :
      Found data offset (.fixedArray element size) (.fixedArray items)
        (if element.isDynamic then offset + 32 else next)
  | tuple {components : List ParamType} {items : List Token} {inner : Bytes} {start next : Nat}
      (henter : enter (ParamType.anyDynamic components) data offset = .ok (inner, start))
      (hitems : values components inner start = .ok (items, next)) :
      Found data offset (.tuple components) (.tuple items)
        (if ParamType.anyDynamic components then offset + 32 else next)

section Inversion

variable {data : Bytes} {offset next : Nat} {token : Token} {tokens : List Token}
  {type : ParamType} {types : List ParamType}

theorem found_of_value (h : value type data offset = .ok (token, next)) :
    Found data offset type token next := by
  cases type with
  | address =>
      rw [value] at h
      rcases exists_of_bind h with ⟨w, hword, h⟩
      cases h
      exact .address (Holds.of_word hword)
  | uint bits =>
      rw [value] at h
      rcases exists_of_bind h with ⟨w, hword, h⟩
      cases h
      exact .uint bits (Holds.of_word hword)
  | int bits =>
      rw [value] at h
      rcases exists_of_bind h with ⟨w, hword, h⟩
      cases h
      exact .int bits (Holds.of_word hword)
  | bool =>
      rw [value] at h
      rcases exists_of_bind h with ⟨b, hbool, h⟩
      cases h
      exact .bool hbool
  | fixedBytes size =>
      rw [value] at h
      rcases exists_of_bind h with ⟨bytes, hwindow, h⟩
      cases h
      exact .fixedBytes hwindow
  | bytes =>
      rw [value] at h
      rcases exists_of_bind h with ⟨bytes, hbytes, h⟩
      cases h
      exact .bytes hbytes
  | string =>
      rw [value] at h
      rcases exists_of_bind h with ⟨bytes, hbytes, h⟩
      cases h
      exact .string hbytes
  | array element =>
      rw [value] at h
      rcases exists_of_bind h with ⟨start, hstart, h⟩
      rcases exists_of_bind h with ⟨length, hlength, h⟩
      rcases exists_of_bind h with ⟨items, hitems, h⟩
      cases h
      exact .array hstart hlength hitems
  | fixedArray element size =>
      rw [value] at h
      rcases exists_of_bind h with ⟨parts, henter, h⟩
      rcases exists_of_bind h with ⟨items, hitems, h⟩
      cases h
      exact .fixedArray henter hitems
  | tuple components =>
      rw [value] at h
      rcases exists_of_bind h with ⟨parts, henter, h⟩
      rcases exists_of_bind h with ⟨items, hitems, h⟩
      cases h
      exact .tuple henter hitems

/-!
# Values one after another
-/

theorem exists_of_values_cons (h : values (type :: types) data offset = .ok (tokens, next)) :
    exists token middle rest, tokens = token :: rest ∧ Found data offset type token middle ∧
      values types data middle = .ok (rest, next) := by
  rw [values] at h
  rcases exists_of_bind h with ⟨first, hfirst, h⟩
  rcases exists_of_bind h with ⟨others, hothers, h⟩
  cases h
  exact ⟨first.1, first.2, others.1, rfl, found_of_value hfirst, hothers⟩

theorem exists_of_repeated_succ {count : Nat}
    (h : repeated (value type data) (count + 1) offset = .ok (tokens, next)) :
    exists token middle rest, tokens = token :: rest ∧ Found data offset type token middle ∧
      repeated (value type data) count middle = .ok (rest, next) := by
  rw [repeated] at h
  rcases exists_of_bind h with ⟨first, hfirst, h⟩
  rcases exists_of_bind h with ⟨others, hothers, h⟩
  cases h
  exact ⟨first.1, first.2, others.1, rfl, found_of_value hfirst, hothers⟩

end Inversion

end Decode

theorem values_of_decode {types : List ParamType} {data : Bytes} {tokens : List Token}
    (h : decode types data = .ok tokens) :
    exists next, Decode.values types data 0 = .ok (tokens, next) := by
  unfold decode at h
  split at h
  · cases h
  · rcases exists_of_bind h with ⟨read, hread, h⟩
    cases h
    exact ⟨read.2, hread⟩

theorem found_of_decode {types : List ParamType} {data : Bytes} {token : Token}
    {rest : List Token} (h : decode types data = .ok (token :: rest)) :
    exists type others next, types = type :: others ∧ Decode.Found data 0 type token next := by
  rcases values_of_decode h with ⟨next, hvalues⟩
  cases types with
  | nil => cases hvalues
  | cons type others =>
      rcases Decode.exists_of_values_cons hvalues with ⟨first, middle, _, heq, hfound, -⟩
      cases heq
      exact ⟨type, others, middle, rfl, hfound⟩

end Abi
end FixtureProbe
