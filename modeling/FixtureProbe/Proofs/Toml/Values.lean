import FixtureProbe.Proofs.Toml.Integers
import FixtureProbe.Proofs.Toml.Tables

/-!
# Values in their lines

A value is read where it stands, up to the end of its line. Texts between double quotes and whole
numbers are read as what they spell; of any other text it is only said here that it stands for at
most one value. Whatever is read as a value, it is no open table.
-/

namespace FixtureProbe
namespace Toml

open Strings (skipBlanks)

/-- How texts and whole numbers are spelled as values. -/
inductive Spells : Toml -> List Char -> Prop where
  | string {s : String} {cs : List Char} (h : SpellsChars s.toList cs) :
      Spells (.string s) ('"' :: (cs ++ ['"']))
  | integer {n : Int} {cs : List Char} (h : SpellsInteger n cs) : Spells (.integer n) cs

/-- A text that begins with something else than a blank. -/
def Begun (cs : List Char) : Prop :=
  exists c rest, cs = c :: rest ∧ c ≠ ' ' ∧ c ≠ '\t'

/-- A text that is read as a value, up to the end of the text. -/
structure ReadsAs (value : Toml) (cs : List Char) : Prop where
  begun : Begun cs
  reads : forall rest, Stops rest -> readValue maxDepth (cs ++ rest) = .ok (value, rest)

/-- A text that is read as a value, up to the end of the text, if it is read at all. -/
structure StandsFor (value : Toml) (cs : List Char) : Prop where
  begun : Begun cs
  unique : forall rest found left, Stops rest ->
    readValue maxDepth (cs ++ rest) = .ok (found, left) -> found = value ∧ left = rest

theorem Begun.solid_append {cs : List Char} (h : Begun cs) (rest : List Char) :
    Solid (cs ++ rest) := by
  rcases h with ⟨c, cs, rfl, hc⟩
  rintro d ⟨⟩
  exact hc

theorem ReadsAs.standsFor {value : Toml} {cs : List Char} (h : ReadsAs value cs) :
    StandsFor value cs := by
  refine ⟨h.begun, ?_⟩
  intro rest found left hrest hread
  rw [h.reads rest hrest] at hread
  cases hread
  exact ⟨rfl, rfl⟩

/-!
# Values that are spelled
-/

theorem readsAs_string {s : String} {cs : List Char} (h : SpellsChars s.toList cs) :
    ReadsAs (.string s) ('"' :: (cs ++ ['"'])) := by
  refine ⟨⟨'"', _, rfl, by decide⟩, ?_⟩
  intro rest hrest
  have hquote : rest.head? ≠ some '"' := by
    intro hhead
    have hmem := hrest '"' hhead
    simp [stops] at hmem
  have hread := Strings.read_spelled h hquote
  rw [List.cons_append] at hread
  rw [List.cons_append, List.append_assoc, List.singleton_append, readValue]
  dsimp only
  rw [hread]
  rfl

theorem SpellsInteger.begun {n : Int} {cs : List Char} (h : SpellsInteger n cs) : Begun cs := by
  rcases h.cons_cases with ⟨c, cs, rfl, hc⟩
  refine ⟨c, cs, rfl, ?_, ?_⟩
  · rintro rfl
    rcases hc with hc | hc | hc <;> cases hc
  · rintro rfl
    rcases hc with hc | hc | hc <;> cases hc

theorem readsAs_integer {n : Int} {cs : List Char} (h : SpellsInteger n cs) (hn : InRange n) :
    ReadsAs (.integer n) cs := by
  refine ⟨h.begun, ?_⟩
  intro rest hrest
  rw [readValue_integer h hrest, (Number.readInteger_spelled h hrest).inRange hn]
  rfl

theorem standsFor_integer {n : Int} {cs : List Char} (h : SpellsInteger n cs) :
    StandsFor (.integer n) cs := by
  by_cases hn : InRange n
  · exact (readsAs_integer h hn).standsFor
  · refine ⟨h.begun, ?_⟩
    intro rest found left hrest hread
    rcases (Number.readInteger_spelled h hrest).beyond hn with ⟨failure, hfails⟩
    rw [readValue_integer h hrest, hfails] at hread
    cases hread

theorem Spells.standsFor {value : Toml} {cs : List Char} (h : Spells value cs) :
    StandsFor value cs := by
  cases h with
  | string h => exact (readsAs_string h).standsFor
  | integer h => exact standsFor_integer h

/-!
# Values that are read
-/

theorem ok_or_of_orElse {α : Type} {reading : Reading α} {other : Unit -> Reading α} {a : α}
    (h : reading.orElse other = .ok a) : reading = .ok a ∨ other () = .ok a := by
  unfold Reading.orElse at h
  split at h
  · split_ifs at h
    exact Or.inr h
  · exact Or.inl h

/-- A value that is made of something that is read. -/
theorem isClosed_of_made {α : Type} {reading : Reading (α × List Char)} {make : α -> Toml}
    {value : Toml} {rest : List Char}
    (h : (do let (a, rest) ← reading; return (make a, rest) : Reading (Toml × List Char)) =
      .ok (value, rest)) (hmake : forall a, (make a).IsClosed) : value.IsClosed := by
  rcases exists_of_bind h with ⟨⟨a, behind⟩, -, hvalue⟩
  cases hvalue
  exact hmake a

theorem isClosed_of_readWord {word : String} {meant value : Toml} {text rest : List Char}
    (h : readWord word meant text = .ok (value, rest)) (hmeant : meant.IsClosed) :
    value.IsClosed := by
  rcases exists_of_bind h with ⟨behind, -, hvalue⟩
  cases hvalue
  exact hmeant

theorem isClosed_of_readNumeric {value : Toml} {text rest : List Char}
    (h : readNumeric text = .ok (value, rest)) : value.IsClosed := by
  unfold readNumeric at h
  dsimp only at h
  rcases ok_or_of_orElse h with h | h
  · rcases exists_of_bind h with ⟨behind, -, hvalue⟩
    cases hvalue
    trivial
  · rcases ok_or_of_orElse h with h | h
    · exact isClosed_of_made h fun _ => trivial
    · exact isClosed_of_made h fun _ => trivial

theorem isClosed_of_readScalar {value : Toml} {text rest : List Char}
    (h : readScalar text = .ok (value, rest)) : value.IsClosed := by
  unfold readScalar at h
  split at h
  · cases h
  · exact isClosed_of_readWord (eq_ok_of_mapError h) trivial
  · exact isClosed_of_readWord (eq_ok_of_mapError h) trivial
  · exact isClosed_of_readWord h trivial
  · exact isClosed_of_readWord h trivial
  · exact isClosed_of_made h fun _ => trivial
  · exact isClosed_of_made h fun _ => trivial
  · split_ifs at h
    · exact isClosed_of_readNumeric h
    · cases h

/-- Tables that are read as values are written between braces. -/
theorem isClosed_of_readValue {depth : Nat} {value : Toml} {text rest : List Char}
    (h : readValue depth text = .ok (value, rest)) : value.IsClosed := by
  unfold readValue at h
  split at h
  · exact isClosed_of_made h fun _ => trivial
  · exact isClosed_of_made h fun _ => trivial
  · split at h
    · cases h
    · exact isClosed_of_made h fun _ => trivial
  · split at h
    · cases h
    · exact isClosed_of_made h fun _ => trivial
  · exact isClosed_of_readScalar h

end Toml
end FixtureProbe
