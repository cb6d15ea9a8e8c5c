import FixtureProbe.Abi.Decode

/-!
# Decoding data that goes on

A value is decoded from the bytes that it is made of, so a decoded value stays what it is when more
bytes follow the data. This is not a matter of course: offsets lead to any place in the data, lengths
repeat a reading any number of times, types that take no bytes are read behind the end, and data
without a byte is refused before it is read. Each of these only ever looks at bytes that are there.
-/

namespace FixtureProbe
namespace Abi

variable {ε ε' α β : Type}

/-- What is read from data is also read when more bytes follow the data. -/
def Persists (read : Bytes -> Except ε α) : Prop :=
  forall data suffix a, read data = .ok a -> read (data ++ suffix) = .ok a

namespace Persists

/-!
# Sequences
-/

protected theorem const (result : Except ε α) : Persists fun _ => result := by
  intro data suffix a h
  exact h

protected theorem bind {read : Bytes -> Except ε α} {next : α -> Bytes -> Except ε β}
    (h : Persists read) (hnext : forall a, Persists (next a)) :
    Persists fun data => read data >>= fun a => next a data := by
  intro data suffix b hb
  dsimp only at hb ⊢
  cases hread : read data with
  | error e =>
      rw [hread] at hb
      cases hb
  | ok a =>
      rw [hread] at hb
      rw [h data suffix a hread]
      exact hnext a data suffix b hb

theorem mapError {read : Bytes -> Except ε α} (h : Persists read) (f : ε -> ε') :
    Persists fun data => (read data).mapError f := by
  intro data suffix a ha
  dsimp only at ha ⊢
  cases hread : read data with
  | error e =>
      rw [hread] at ha
      cases ha
  | ok b =>
      rw [hread] at ha
      rw [h data suffix b hread]
      exact ha

/-- What is read behind a place persists, even where the data does not reach that far: then the
first bytes that follow fill the gap, and the others follow what is read. -/
theorem drop {read : Bytes -> Except ε α} (h : Persists read) (count : Nat) :
    Persists fun data => read (data.drop count) := by
  intro data suffix a ha
  dsimp only at ha ⊢
  rw [List.drop_append]
  exact h (data.drop count) (suffix.drop (count - data.length)) a ha

end Persists

namespace Decode

/-!
# Words
-/

theorem window_persists (offset count : Nat) : Persists (window · offset count) := by
  intro data suffix bytes h
  dsimp only [window] at h ⊢
  split at h
  · next found hslice =>
    rw [Bytes.slice?_append suffix hslice]
    exact h
  · cases h

theorem word_persists (offset : Nat) : Persists (word · offset) :=
  (window_persists offset 32).bind fun _ => .const _

theorem size_persists (offset : Nat) : Persists (size · offset) :=
  (word_persists offset).bind fun _ => .const _

theorem bool_persists (offset : Nat) : Persists (bool · offset) :=
  (word_persists offset).bind fun _ => .const _

theorem byteString_persists (offset : Nat) : Persists (byteString · offset) :=
  (size_persists offset).bind fun start =>
    (size_persists start).bind fun length => window_persists (start + 32) length

/-!
# Values
-/

theorem repeated_persists {reader : Bytes -> Reader}
    (h : forall offset, Persists (reader · offset)) (count offset : Nat) :
    Persists fun data => repeated (reader data) count offset := by
  induction count generalizing offset with
  | zero => exact .const _
  | succ count ih =>
      exact (h offset).bind fun first => (ih first.2).bind fun _ => .const _

/-- Parts in place are read in the data itself; parts behind an offset are read from there on, after
the offset has been found to lie inside the data. -/
theorem enter_persists {read : Bytes -> Nat -> Except CodecError α}
    (h : forall start, Persists (read · start)) (dynamic : Bool) (offset : Nat) :
    Persists fun data => enter dynamic data offset >>= fun parts => read parts.1 parts.2 := by
  cases dynamic with
  | false => exact h offset
  | true =>
      have hinside (start : Nat) : Persists fun data =>
          (if start ≤ data.length then .ok (data.drop start, 0) else .error .invalidData) >>=
            fun parts => read parts.1 parts.2 := by
        intro data suffix a ha
        dsimp only at ha ⊢
        by_cases hle : start ≤ data.length
        · have hle' : start ≤ (data ++ suffix).length := by
            rw [List.length_append]
            omega
          rw [if_pos hle] at ha
          rw [if_pos hle']
          exact (h 0).drop start data suffix a ha
        · rw [if_neg hle] at ha
          cases ha
      simp only [enter, if_true, bind_assoc]
      exact (size_persists offset).bind hinside

-- Types nest, so values and lists of values go hand in hand. Each case follows the reader of its type:
-- what a step reads persists, and so does what the next step makes of it.
mutual

theorem value_persists (type : ParamType) (offset : Nat) : Persists (value type · offset) := by
  cases type with
  | address => exact (word_persists offset).bind fun _ => .const _
  | uint bits => exact (word_persists offset).bind fun _ => .const _
  | int bits => exact (word_persists offset).bind fun _ => .const _
  | bool => exact (bool_persists offset).bind fun _ => .const _
  | fixedBytes size => exact (window_persists offset size).bind fun _ => .const _
  | bytes => exact (byteString_persists offset).bind fun _ => .const _
  | string => exact (byteString_persists offset).bind fun _ => .const _
  | array element =>
      have hitems (start length : Nat) : Persists fun data =>
          repeated (value element (data.drop (start + 32))) length 0 :=
        (repeated_persists (value_persists element) length 0).drop (start + 32)
      exact (size_persists offset).bind fun start =>
        (size_persists start).bind fun length => (hitems start length).bind fun _ => .const _
  | fixedArray element size =>
      have hitems (start : Nat) : Persists fun data =>
          repeated (value element data) size start >>= fun items =>
            .ok (Token.fixedArray items.1, if element.isDynamic then offset + 32 else items.2) :=
        (repeated_persists (value_persists element) size start).bind fun _ => .const _
      exact enter_persists hitems element.isDynamic offset
  | tuple components =>
      have hitems (start : Nat) : Persists fun data =>
          values components data start >>= fun items =>
            .ok (Token.tuple items.1,
              if ParamType.anyDynamic components then offset + 32 else items.2) :=
        (values_persists components start).bind fun _ => .const _
      exact enter_persists hitems (ParamType.anyDynamic components) offset

theorem values_persists (types : List ParamType) (offset : Nat) :
    Persists (values types · offset) := by
  cases types with
  | nil => exact .const _
  | cons type types =>
      exact (value_persists type offset).bind fun first =>
        (values_persists types first.2).bind fun _ => .const _

end

end Decode

/-- Data that goes on is no longer empty, and what was decoded from it is decoded again. -/
theorem decode_persists (types : List ParamType) : Persists (decode types) := by
  intro data suffix tokens h
  unfold decode at h ⊢
  split at h
  · cases h
  · next hdata =>
    have hextended : ¬ (data ++ suffix = [] ∧ ¬ types.all ParamType.allowsEmptyData) := by
      intro hempty
      exact hdata ⟨(List.append_eq_nil_iff.mp hempty.1).1, hempty.2⟩
    rw [if_neg hextended]
    exact (Decode.values_persists types 0).bind (fun _ => .const _) data suffix tokens h

end Abi
end FixtureProbe
