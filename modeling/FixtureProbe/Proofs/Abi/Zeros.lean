import FixtureProbe.Proofs.Abi.Found

/-!
# Data of zeros

Zeros are a value of every type: numbers are zero, offsets lead back to the beginning, and there the
lengths are zero too. So there is call data for any function, whatever inputs it declares.
-/

namespace FixtureProbe
namespace Abi

/-- Data without any other byte than zero. -/
def zeros (count : Nat) : Bytes :=
  List.replicate count 0

/-- A reading succeeds wherever `span` zeros follow, and it does not go on behind them. -/
def ReadsZeros {α : Type} (read : Bytes -> Nat -> Except CodecError (α × Nat)) (span : Nat) : Prop :=
  forall count offset, offset + span ≤ count ->
    exists a next, read (zeros count) offset = .ok (a, next) ∧ next ≤ offset + span

namespace Decode

/-!
# Words
-/

section Words

variable {count offset : Nat}

theorem window_zeros {size : Nat} (h : offset + size ≤ count) :
    window (zeros count) offset size = .ok (zeros size) := by
  have hslice : Bytes.slice? (zeros count) offset size = some (zeros size) := by
    rw [Bytes.slice?, if_pos (by rw [zeros, List.length_replicate]; exact h), zeros,
      List.drop_replicate, List.take_replicate, Nat.min_eq_left (by omega)]
    rfl
  rw [window, hslice]

theorem word_zeros (h : offset + 32 ≤ count) : word (zeros count) offset = .ok 0 := by
  rw [word, window_zeros h]
  rfl

theorem size_zeros (h : offset + 32 ≤ count) : size (zeros count) offset = .ok 0 := by
  rw [size, word_zeros h]
  rfl

theorem bool_zeros (h : offset + 32 ≤ count) : bool (zeros count) offset = .ok false := by
  rw [bool, word_zeros h]
  rfl

/-- The offset leads to the beginning, where the length is zero. -/
theorem byteString_zeros (h : offset + 32 ≤ count) : byteString (zeros count) offset = .ok [] := by
  rw [byteString, size_zeros h, ok_bind, size_zeros (by omega), ok_bind, window_zeros (by omega)]
  rfl

end Words

/-!
# Values
-/

/-- What stands in place, as a word does, is read where it stands. -/
theorem readsZeros_of_eq {α : Type} {read : Bytes -> Nat -> Except CodecError (α × Nat)}
    {span : Nat} {a : α} (hspan : 32 ≤ span)
    (h : forall count offset, offset + span ≤ count ->
      read (zeros count) offset = .ok (a, offset + 32)) : ReadsZeros read span :=
  fun count offset hle => ⟨a, offset + 32, h count offset hle, by omega⟩

theorem readsZeros_repeated {reader : Bytes -> Reader} {span : Nat} (h : ReadsZeros reader span)
    (size : Nat) : ReadsZeros (fun data offset => repeated (reader data) size offset)
      (size * span) := by
  induction size with
  | zero =>
      intro count offset _
      exact ⟨[], offset, rfl, by omega⟩
  | succ size ih =>
      intro count offset hle
      rw [Nat.succ_mul] at hle ⊢
      rcases h count offset (by omega) with ⟨token, middle, hfirst, hmiddle⟩
      rcases ih count middle (by omega) with ⟨tokens, next, hrest, hnext⟩
      refine ⟨token :: tokens, next, ?_, by omega⟩
      dsimp only at hrest ⊢
      rw [repeated, hfirst, ok_bind]
      dsimp only
      rw [hrest]
      rfl

/-- Parts behind an offset are read from the beginning, parts in place from where they stand. -/
theorem readsZeros_enter {α β : Type} {read : Bytes -> Nat -> Except CodecError (α × Nat)}
    {span : Nat} (h : ReadsZeros read span) (dynamic : Bool) (make : α -> β) :
    ReadsZeros (fun data offset => enter dynamic data offset >>= fun parts =>
      read parts.1 parts.2 >>= fun items =>
        .ok (make items.1, if dynamic then offset + 32 else items.2)) (32 + span) := by
  intro count offset hle
  cases dynamic with
  | false =>
      rcases h count offset (by omega) with ⟨a, next, hread, hnext⟩
      refine ⟨make a, next, ?_, by omega⟩
      change (read (zeros count) offset >>= fun items => .ok (make items.1, items.2)) = _
      rw [hread]
      rfl
  | true =>
      rcases h count 0 (by omega) with ⟨a, next, hread, -⟩
      refine ⟨make a, offset + 32, ?_, by omega⟩
      dsimp only
      rw [enter, if_pos rfl, size_zeros (by omega), ok_bind, if_pos (Nat.zero_le _)]
      change (read (zeros count) 0 >>= fun items => .ok (make items.1, offset + 32)) = _
      rw [hread]
      rfl

-- Types nest, so values and lists of values go hand in hand. How many zeros a type takes is left open:
-- what counts is that there is such a number.
mutual

theorem value_readsZeros (type : ParamType) : exists span, ReadsZeros (value type) span := by
  cases type with
  | address =>
      refine ⟨32, readsZeros_of_eq (a := .address (.ofWord 0)) (Nat.le_refl 32)
        fun count offset h => ?_⟩
      rw [value, word_zeros h]
      rfl
  | uint bits =>
      refine ⟨32, readsZeros_of_eq (a := .uint 0) (Nat.le_refl 32) fun count offset h => ?_⟩
      rw [value, word_zeros h]
      rfl
  | int bits =>
      refine ⟨32, readsZeros_of_eq (a := .int 0) (Nat.le_refl 32) fun count offset h => ?_⟩
      rw [value, word_zeros h]
      rfl
  | bool =>
      refine ⟨32, readsZeros_of_eq (a := .bool false) (Nat.le_refl 32) fun count offset h => ?_⟩
      rw [value, bool_zeros h]
      rfl
  | fixedBytes size =>
      refine ⟨32 + size, readsZeros_of_eq (a := .fixedBytes (zeros size)) (by omega)
        fun count offset h => ?_⟩
      rw [value, window_zeros (by omega)]
      rfl
  | bytes =>
      refine ⟨32, readsZeros_of_eq (a := .bytes []) (Nat.le_refl 32) fun count offset h => ?_⟩
      rw [value, byteString_zeros h]
      rfl
  | string =>
      refine ⟨32, readsZeros_of_eq (a := .string (Utf8.decodeLossy [])) (Nat.le_refl 32)
        fun count offset h => ?_⟩
      rw [value, byteString_zeros h]
      rfl
  | array element =>
      refine ⟨32, readsZeros_of_eq (a := .array []) (Nat.le_refl 32) fun count offset h => ?_⟩
      rw [value, size_zeros h, ok_bind, size_zeros (by omega)]
      rfl
  | fixedArray element size =>
      rcases value_readsZeros element with ⟨span, helement⟩
      have hitems := readsZeros_repeated helement size
      exact ⟨_, readsZeros_enter hitems element.isDynamic Token.fixedArray⟩
  | tuple components =>
      rcases values_readsZeros components with ⟨span, hcomponents⟩
      exact ⟨_, readsZeros_enter hcomponents (ParamType.anyDynamic components) Token.tuple⟩

theorem values_readsZeros (types : List ParamType) :
    exists span, ReadsZeros (values types) span := by
  cases types with
  | nil =>
      refine ⟨0, fun count offset _ => ?_⟩
      exact ⟨[], offset, rfl, Nat.le_refl _⟩
  | cons type types =>
      rcases value_readsZeros type with ⟨span, htype⟩
      rcases values_readsZeros types with ⟨others, htypes⟩
      refine ⟨span + others, fun count offset hle => ?_⟩
      rcases htype count offset (by omega) with ⟨token, middle, hfirst, hmiddle⟩
      rcases htypes count middle (by omega) with ⟨tokens, next, hrest, hnext⟩
      refine ⟨token :: tokens, next, ?_, by omega⟩
      rw [values, hfirst, ok_bind]
      dsimp only
      rw [hrest]
      rfl

end

end Decode

theorem exists_decode_zeros (types : List ParamType) :
    exists count tokens, decode types (zeros count) = .ok tokens := by
  rcases Decode.values_readsZeros types with ⟨span, hspan⟩
  rcases hspan (span + 1) 0 (by omega) with ⟨tokens, next, hread, -⟩
  refine ⟨span + 1, tokens, ?_⟩
  rw [decode, if_neg (fun hempty => List.cons_ne_nil _ _ hempty.1), hread]
  rfl

theorem eq_zero_of_holds_zeros {count offset : Nat} {w : Word}
    (h : Holds (zeros count) offset w.toBytes) : w = 0 := by
  have hle := h.length_le
  rw [Word.length_toBytes, zeros, List.length_replicate] at hle
  have hword := h.word
  rw [Decode.word_zeros hle] at hword
  cases hword
  rfl

end Abi
end FixtureProbe
