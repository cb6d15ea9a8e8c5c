import FixtureProbe.Proofs.Abi.Extension
import FixtureProbe.Proofs.Precompile.Records

/-!
# Answers and call data that go on

An interface may declare any types, nested as deeply as one likes, and a node may send any bytes. Still
no answer turns into a different record by losing its end or by gaining one, and no call data into a
different call: bytes that are added change nothing about what has been recognised, and where bytes are
missing the reading either fails or did not need them.
-/

namespace FixtureProbe

open Abi

variable {ε α : Type}

/-- A reading that goes by the front of the data: what the data is read as, it is still read as when
bytes are added behind it; when bytes are taken away behind it, it is read as the same or not at all. -/
structure GoesByFront (read : Bytes -> Except ε α) : Prop where
  extended : forall data suffix a, read data = .ok a -> read (data ++ suffix) = .ok a
  truncated : forall data front a, read data = .ok a -> front <+: data ->
    read front = .ok a ∨ exists e, read front = .error e

theorem Abi.Persists.goesByFront {read : Bytes -> Except ε α} (h : Persists read) :
    GoesByFront read where
  extended := h
  truncated := by
    rintro data front a hdata ⟨suffix, rfl⟩
    cases hfront : read front with
    | error e => exact Or.inr ⟨e, rfl⟩
    | ok b =>
        have hextended := h front suffix b hfront
        rw [hdata] at hextended
        exact Or.inl hextended.symm

namespace Interface

variable (interface : Interface)

/-!
# Answers
-/

/-- Whatever is made of the decoded values, it is made of the same values again. -/
theorem decodeAnswer_persists (op : Operation) (read : List Token -> Except ReadError α) :
    Persists (interface.decodeAnswer op read) := by
  have hdecoded := (decode_persists (interface.function op).outputs).mapError ReadError.codec
  rw [funext (interface.decodeAnswer_eq op read)]
  exact (hdecoded.bind fun tokens => .const (read tokens)).mapError _

/-!
# Call data
-/

theorem decodeArguments_persists (name : String) (f : Abi.Function) :
    Persists (decodeArguments name f) :=
  ((decode_persists f.inputs).mapError _).bind fun _ => .const _

/-- The selector stands in front of the arguments, so it selects the same function. -/
theorem decodeCall_persists : Persists interface.decodeCall := by
  intro data suffix op h
  rw [decodeCall_eq] at h ⊢
  split at h
  · cases h
  · next hlength =>
    have hextended : ¬ (data ++ suffix).length < 4 := by
      rw [List.length_append]
      omega
    have htake : (data ++ suffix).take 4 = data.take 4 :=
      List.take_append_of_le_length (by omega)
    have hdrop : (data ++ suffix).drop 4 = data.drop 4 ++ suffix :=
      List.drop_append_of_le_length (by omega)
    rw [if_neg hextended, htake, hdrop]
    split at h
    · next name f hfound =>
      exact (decodeArguments_persists name f).mapError _ (data.drop 4) suffix op h
    · cases h

/-- Whatever the interface declares, no decoder is led to a different result by the end of the data. -/
theorem decoders_goByFront (id : UInt64) :
    GoesByFront (interface.decodeMatch id) ∧
    GoesByFront (interface.decodeLeague id) ∧
    GoesByFront (interface.decodeTeam id) ∧
    GoesByFront interface.decodeUnfinished ∧
    GoesByFront interface.decodeCall :=
  ⟨(interface.decodeAnswer_persists _ _).goesByFront,
    (interface.decodeAnswer_persists _ _).goesByFront,
    (interface.decodeAnswer_persists _ _).goesByFront,
    (interface.decodeAnswer_persists _ _).goesByFront,
    interface.decodeCall_persists.goesByFront⟩

/-- The text of an answer may end in the middle of a word, and anything may stand behind it. -/
theorem decoders_goByFront_sample :
    let answer := natWord 32 ++ natWord 3 ++ natWord 64 ++ natWord 2 ++ Utf8.encode "FC"
    embedded.decodeTeam 3 answer = .ok ⟨3, "FC"⟩ ∧
    embedded.decodeTeam 3 (answer ++ [0, 7]) = .ok ⟨3, "FC"⟩ := by
  intro answer
  have h : embedded.decodeTeam 3 answer = .ok ⟨3, "FC"⟩ := by
    decide +kernel
  exact ⟨h, (decoders_goByFront embedded 3).2.2.1.extended answer [0, 7] _ h⟩

end Interface

end FixtureProbe
