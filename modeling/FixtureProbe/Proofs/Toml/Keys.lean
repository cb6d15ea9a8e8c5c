import FixtureProbe.Proofs.Sequence
import FixtureProbe.Proofs.Toml.Line

/-!
# Keys

A name in a key is written without quotes, if it can be, or between quotes of either kind. It is read
back in front of everything that is no part of a name, and it is the first name of every key that it
begins.
-/

namespace FixtureProbe
namespace Toml

open Strings (skipBlanks)

/-- How a name in a key is spelled. -/
inductive SpellsName : String -> List Char -> Prop where
  | bare {cs : List Char} (hne : cs ≠ [])
      (h : forall c, c ∈ cs -> c.isAlphanum = true ∨ c = '-' ∨ c = '_') :
      SpellsName (String.ofList cs) cs
  | basic {s : String} {cs : List Char} (h : SpellsChars s.toList cs) :
      SpellsName s ('"' :: (cs ++ ['"']))
  | literal {cs : List Char} (h : forall c, c ∈ cs -> IsText c ∧ c ≠ '\'') :
      SpellsName (String.ofList cs) ('\'' :: (cs ++ ['\'']))

/-- A text that goes on with no part of a name without quotes. -/
def EndsName (rest : List Char) : Prop :=
  forall c, rest.head? = some c -> Cause.isNameChar c = false

theorem spellsName_toList {key : String} (hne : key.toList ≠ [])
    (h : forall c, c ∈ key.toList -> c.isAlphanum = true ∨ c = '-' ∨ c = '_') :
    SpellsName key key.toList := by
  have hspells := SpellsName.bare hne h
  rwa [String.ofList_toList] at hspells

theorem SpellsName.cons_cases {key : String} {name : List Char} (h : SpellsName key name) :
    exists c cs, name = c :: cs ∧ (c = '"' ∨ c = '\'' ∨ Cause.isNameChar c = true) := by
  cases h with
  | bare hne h =>
      cases name with
      | nil => exact absurd rfl hne
      | cons c cs =>
          have hc := h c List.mem_cons_self
          exact ⟨c, cs, rfl, Or.inr (Or.inr (by simpa [Cause.isNameChar, or_assoc] using hc))⟩
  | basic => exact ⟨'"', _, rfl, Or.inl rfl⟩
  | literal => exact ⟨'\'', _, rfl, Or.inr (Or.inl rfl)⟩

theorem SpellsName.solid_append {key : String} {name : List Char} (h : SpellsName key name)
    (rest : List Char) : Solid (name ++ rest) := by
  rcases h.cons_cases with ⟨c, cs, rfl, hc⟩
  rintro d ⟨⟩
  constructor
  · rintro rfl
    rcases hc with hc | hc | hc <;> cases hc
  · rintro rfl
    rcases hc with hc | hc | hc <;> cases hc

theorem readName_quoted {quote : Char} (h : quote = '"' ∨ quote = '\'') (text : List Char) :
    readName (quote :: text) = (do
      let (name, rest) ← Strings.readLine (quote :: text)
      return (⟨name, ⟨quote :: text, rest⟩⟩, rest)) := by
  rcases h with rfl | rfl <;> rfl

theorem readName_bare {c : Char} {cs rest : List Char}
    (h : forall d, d ∈ c :: cs -> Cause.isNameChar d = true) (hrest : EndsName rest) :
    readName (c :: cs ++ rest) =
      .ok (⟨String.ofList (c :: cs), ⟨c :: cs ++ rest, rest⟩⟩, rest) := by
  have hplain : (c :: cs ++ rest).takeWhile Cause.isNameChar = c :: cs := by
    rw [List.takeWhile_append_of_pos h]
    cases rest with
    | nil => simp
    | cons d rest => simp [hrest d rfl]
  have hc := h c List.mem_cons_self
  unfold readName
  dsimp only
  rw [hplain]
  split
  · next heq =>
    cases heq
    cases hc
  · next heq =>
    cases heq
    cases hc
  · rw [if_neg (List.cons_ne_nil c cs), List.drop_left]
    rfl

/-- A name is read back with its place. -/
theorem readName_append {key : String} {name rest : List Char} (h : SpellsName key name)
    (hrest : EndsName rest) : readName (name ++ rest) = .ok (⟨key, ⟨name ++ rest, rest⟩⟩, rest) := by
  cases h with
  | bare hne h =>
      cases name with
      | nil => exact absurd rfl hne
      | cons c cs =>
          refine readName_bare ?_ hrest
          intro d hd
          simpa [Cause.isNameChar, or_assoc] using h d hd
  | @basic _ cs h =>
      have hread := Strings.readLine_spelled h rest
      rw [List.cons_append] at hread
      rw [List.cons_append, List.append_assoc, List.singleton_append, readName_quoted (Or.inl rfl),
        hread]
      rfl
  | @literal cs h =>
      have hread : Strings.readLine ('\'' :: (cs ++ '\'' :: rest)) = .ok (String.ofList cs, rest) := by
        rw [Strings.readLine, Strings.readLiteral_append h]
        rfl
      rw [List.cons_append, List.append_assoc, List.singleton_append, readName_quoted (Or.inr rfl),
        hread]
      rfl

/-!
# Keys that are read
-/

theorem endsName_append {blanks : List Char} {mark : Char} (h : Blanks blanks)
    (hmark : Cause.isNameChar mark = false) (rest : List Char) :
    EndsName (blanks ++ mark :: rest) := by
  cases blanks with
  | nil =>
      rintro c ⟨⟩
      exact hmark
  | cons c blanks =>
      rintro d ⟨⟩
      rcases h c List.mem_cons_self with rfl | rfl <;> rfl

theorem readMoreNames_equals (fuel : Nat) (rest : List Char) :
    readMoreNames fuel ('=' :: rest) = .ok ([], '=' :: rest) := by
  cases fuel <;> rfl

/-- A key with a single name. -/
theorem readKey_single {key : String} {left name before : List Char} (hleft : Blanks left)
    (hname : SpellsName key name) (hbefore : Blanks before) (rest : List Char) :
    readKey (left ++ (name ++ (before ++ '=' :: rest))) =
      .ok ([⟨key, ⟨name ++ (before ++ '=' :: rest), before ++ '=' :: rest⟩⟩], '=' :: rest) := by
  have hends : EndsName (before ++ '=' :: rest) := endsName_append hbefore rfl rest
  have hsolid : Solid ('=' :: rest) := by
    rintro c ⟨⟩
    decide
  unfold readKey
  dsimp only
  rw [skipBlanks_append hleft (hname.solid_append _), readName_append hname hends, ok_bind]
  dsimp only
  rw [skipBlanks_append hbefore hsolid, readMoreNames_equals]
  rfl

/-- Whatever else is in a key, its first name is the one that stands first in the text. -/
theorem first_of_readKey {key : String} {left name rest behind : List Char} {names : List Name}
    (hleft : Blanks left) (hname : SpellsName key name) (hrest : EndsName rest)
    (h : readKey (left ++ (name ++ rest)) = .ok (names, behind)) :
    exists first others, names = first :: others ∧ first.text = key := by
  unfold readKey at h
  dsimp only at h
  rw [skipBlanks_append hleft (hname.solid_append _), readName_append hname hrest, ok_bind] at h
  rcases exists_of_bind h with ⟨⟨found, left⟩, hreading, h⟩
  rcases exists_of_bind (eq_ok_of_mapError hreading) with ⟨⟨others, left'⟩, -, hfound⟩
  cases hfound
  dsimp only at h
  split_ifs at h
  · cases h
  · cases h
    exact ⟨_, others, rfl, rfl⟩

end Toml
end FixtureProbe
