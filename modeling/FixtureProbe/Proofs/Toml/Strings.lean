import FixtureProbe.Toml.Strings
import Mathlib.Tactic.Common

/-!
# Texts between double quotes

Between double quotes most characters stand for themselves, any character may be escaped, and
quotes, backslashes and controls must be. Whatever is spelled by these rules is read back, and every
text can be spelled by them.
-/

namespace FixtureProbe
namespace Toml

/-!
# Spelling
-/

/-- A character that can stand for itself in texts and comments: no control but the tab. -/
def IsText (c : Char) : Prop :=
  c = '\t' ∨ 0x20 ≤ c.toNat ∧ c.toNat ≠ 0x7F

/-- The letters behind a backslash, with the characters for which they stand. -/
def shortEscapes : List (Char × Char) :=
  [('b', '\x08'), ('t', '\t'), ('n', '\n'), ('f', '\x0c'), ('r', '\r'), ('"', '"'), ('\\', '\\')]

/-- How a character is spelled between double quotes. -/
inductive SpellsChar : Char -> List Char -> Prop where
  | plain {c : Char} (htext : IsText c) (hquote : c ≠ '"') (hbackslash : c ≠ '\\') :
      SpellsChar c [c]
  | short {c letter : Char} (h : (letter, c) ∈ shortEscapes) : SpellsChar c ['\\', letter]
  | four {c : Char} {digits : List Char} (hlength : digits.length = 4)
      (hvalue : Scan.hexNumber? digits = some c.toNat) : SpellsChar c ('\\' :: 'u' :: digits)
  | eight {c : Char} {digits : List Char} (hlength : digits.length = 8)
      (hvalue : Scan.hexNumber? digits = some c.toNat) : SpellsChar c ('\\' :: 'U' :: digits)

/-- How characters are spelled, one after another. -/
inductive SpellsChars : List Char -> List Char -> Prop where
  | nil : SpellsChars [] []
  | cons {c : Char} {cs spelled others : List Char} (h : SpellsChar c spelled)
      (hothers : SpellsChars cs others) : SpellsChars (c :: cs) (spelled ++ others)

/-!
# Reading what is spelled
-/

namespace Strings

theorem isTextChar_of_isText {c : Char} (h : IsText c) : isTextChar c = true := by
  simp only [isTextChar, Bool.or_eq_true, Bool.and_eq_true, decide_eq_true_eq]
  exact h

theorem readNumbered_append {c : Char} {count : Nat} {digits : List Char} (rest : List Char)
    (hlength : digits.length = count) (hvalue : Scan.hexNumber? digits = some c.toNat) :
    readNumbered count (digits ++ rest) = .ok (c, rest) := by
  have hhex : Scan.readHex count (digits ++ rest) = some (c.toNat, rest) := by
    unfold Scan.readHex
    dsimp only
    rw [List.take_left' hlength, List.drop_left' hlength, hvalue, guard, if_pos hlength]
    rfl
  have hvalid : c.toNat.isValidChar := c.valid
  simp only [readNumbered, hhex, if_pos hvalid, Char.ofNat_toNat]
  rfl

theorem readEscape_short {c letter : Char} (rest : List Char) (h : (letter, c) ∈ shortEscapes) :
    readEscape (letter :: rest) = .ok (c, rest) := by
  simp only [shortEscapes, List.mem_cons, Prod.mk.injEq, List.not_mem_nil, or_false] at h
  rcases h with ⟨rfl, rfl⟩ | ⟨rfl, rfl⟩ | ⟨rfl, rfl⟩ | ⟨rfl, rfl⟩ | ⟨rfl, rfl⟩ | ⟨rfl, rfl⟩ |
    ⟨rfl, rfl⟩
  all_goals rfl

/-- A character is read as it was meant, and reading goes on behind it. -/
theorem readEscaped_char {c : Char} {spelled : List Char} (h : SpellsChar c spelled) (fuel : Nat)
    (rest : List Char) :
    readEscaped (fuel + 1) (spelled ++ rest) = (do
      let (chars, rest) ← readEscaped fuel rest
      return (c :: chars, rest)) := by
  cases h with
  | plain htext hquote hbackslash =>
      have hcontinues : ¬ (c = '\\' ∨ ¬ isTextChar c) := by
        simp [hbackslash, isTextChar_of_isText htext]
      rw [List.singleton_append, readEscaped, if_neg hcontinues]
      · exact hquote
      · exact fun _ _ h => absurd h hbackslash
  | short hletter =>
      change (readEscape (_ :: rest) >>= _) = _
      rw [readEscape_short rest hletter]
      rfl
  | four hlength hvalue =>
      change (readNumbered 4 (_ ++ rest) >>= _) = _
      rw [readNumbered_append rest hlength hvalue]
      rfl
  | eight hlength hvalue =>
      change (readNumbered 8 (_ ++ rest) >>= _) = _
      rw [readNumbered_append rest hlength hvalue]
      rfl

theorem SpellsChar.length_pos {c : Char} {spelled : List Char} (h : SpellsChar c spelled) :
    0 < spelled.length := by
  cases h <;> exact Nat.succ_pos _

theorem readEscaped_spelled {cs spelled : List Char} (h : SpellsChars cs spelled)
    {fuel : Nat} (hfuel : spelled.length < fuel) (rest : List Char) :
    readEscaped fuel (spelled ++ '"' :: rest) = .ok (cs, rest) := by
  induction h generalizing fuel with
  | nil =>
      cases fuel with
      | zero => cases hfuel
      | succ fuel => rfl
  | @cons c cs spelled others hchar _ ih =>
      cases fuel with
      | zero => cases hfuel
      | succ fuel =>
          have hpos := SpellsChar.length_pos hchar
          have hshorter : others.length < fuel := by
            rw [List.length_append] at hfuel
            omega
          rw [List.append_assoc, readEscaped_char hchar, ih hshorter]
          rfl

/-- A text between double quotes is read back. -/
theorem readLine_spelled {s : String} {spelled : List Char} (h : SpellsChars s.toList spelled)
    (rest : List Char) : readLine ('"' :: spelled ++ '"' :: rest) = .ok (s, rest) := by
  have hfuel : spelled.length < (spelled ++ '"' :: rest).length + 1 := by
    rw [List.length_append]
    omega
  have hread := readEscaped_spelled h hfuel rest
  rw [List.cons_append, readLine, hread]
  exact congrArg (fun s => Except.ok (s, rest)) (String.ofList_toList)

/-- Between single quotes there are no escapes. -/
theorem readLiteral_append {cs : List Char} (h : forall c, c ∈ cs -> IsText c ∧ c ≠ '\'')
    (rest : List Char) : readLiteral (cs ++ '\'' :: rest) = .ok (cs, rest) := by
  induction cs with
  | nil => rfl
  | cons c cs ih =>
      rcases h c List.mem_cons_self with ⟨htext, hquote⟩
      have hothers := ih fun d hd => h d (List.mem_cons_of_mem c hd)
      rw [List.cons_append, readLiteral, if_neg (by simp [isTextChar_of_isText htext]), hothers]
      · rfl
      · exact fun h => hquote h

/-- Neither does a text in double quotes look like one in three. -/
theorem SpellsChars.head?_ne {cs spelled : List Char} (h : SpellsChars cs spelled) :
    spelled.head? ≠ some '"' := by
  cases h with
  | nil => exact fun h => nomatch h
  | cons hchar =>
      cases hchar with
      | plain _ hquote _ => simpa using hquote
      | short => simp
      | four => simp
      | eight => simp

theorem read_spelled {s : String} {spelled rest : List Char}
    (h : SpellsChars s.toList spelled) (hrest : rest.head? ≠ some '"') :
    read ('"' :: spelled ++ '"' :: rest) = .ok (s, rest) := by
  have hread := readLine_spelled h rest
  rw [List.cons_append] at hread ⊢
  unfold read
  split
  · next behind heq =>
    cases spelled with
    | nil =>
        cases heq
        exact absurd rfl hrest
    | cons c spelled =>
        have hc : c = '"' := (List.cons.inj (List.cons.inj heq).2).1
        rw [hc] at h
        exact absurd rfl (SpellsChars.head?_ne h)
  · next heq => cases heq
  · exact hread

end Strings

/-!
# Texts that are written
-/

/-- The digits behind `\u` of a character that has neither a letter nor a form of its own. -/
def controlDigits (n : Nat) : List Char :=
  let digits := (Nat.toDigits 16 n).map Char.toUpper
  List.replicate (4 - digits.length) '0' ++ digits

theorem controlDigits_spec {n : Nat} (h : n < 0x80) :
    (controlDigits n).length = 4 ∧ Scan.hexNumber? (controlDigits n) = some n := by
  have hall : forall n, n < 0x80 ->
      (controlDigits n).length = 4 ∧ Scan.hexNumber? (controlDigits n) = some n := by
    decide
  exact hall n h

theorem spellsChar_escaped (c : Char) : SpellsChar c (Cause.escaped c) := by
  unfold Cause.escaped
  split
  iterate 7 exact .short (by decide)
  · next hbackspace htab hnewLine hfeed hreturn hquote hbackslash =>
    dsimp only
    split
    · next hcontrol =>
      have hdigits := controlDigits_spec (n := c.toNat) (by omega)
      exact .four hdigits.1 hdigits.2
    · next hcontrol =>
      exact .plain (Or.inr (by omega)) hquote hbackslash

theorem spellsChars_escaped (cs : List Char) : SpellsChars cs (cs.flatMap Cause.escaped) := by
  induction cs with
  | nil => exact .nil
  | cons c cs ih =>
      rw [List.flatMap_cons]
      exact .cons (spellsChar_escaped c) ih

end Toml
end FixtureProbe
