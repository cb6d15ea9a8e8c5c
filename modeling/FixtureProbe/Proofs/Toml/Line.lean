import FixtureProbe.Proofs.Toml.Strings
import FixtureProbe.Toml.Parser

/-!
# The parts of a line

Between the parts of a line blanks may stand, and at its end a comment. A line ends with a line break,
the last one of a text also without.
-/

namespace FixtureProbe
namespace Toml

open Strings (skipBlanks lineBreak? isTextChar isTextChar_of_isText)

/-- Blanks within a line. -/
def Blanks (cs : List Char) : Prop :=
  forall c, c ∈ cs -> c = ' ' ∨ c = '\t'

/-- A comment, if there is one. -/
inductive Comment : List Char -> Prop where
  | none : Comment []
  | some {cs : List Char} (h : forall c, c ∈ cs -> IsText c) : Comment ('#' :: cs)

/-- A line break. -/
def LineBreak (cs : List Char) : Prop :=
  cs = ['\n'] ∨ cs = ['\r', '\n']

/-- What is left of a line, with what stands behind the line. -/
inductive EndsLine : (text rest : List Char) -> Prop where
  | broken {blanks comment ending : List Char} (hblanks : Blanks blanks)
      (hcomment : Comment comment) (hending : LineBreak ending) (rest : List Char) :
      EndsLine (blanks ++ (comment ++ (ending ++ rest))) rest
  | last {blanks comment : List Char} (hblanks : Blanks blanks) (hcomment : Comment comment) :
      EndsLine (blanks ++ comment) []

/-- The characters that can stand right behind a value in its line. -/
def stops : List Char :=
  [' ', '\t', '#', '\n', '\r']

/-- What stands behind a value begins with a blank, a comment or a line break, or is nothing. -/
def Stops (rest : List Char) : Prop :=
  forall c, rest.head? = some c -> c ∈ stops

theorem blanks_nil : Blanks [] :=
  fun _ hc => nomatch hc

theorem blanks_space : Blanks [' '] :=
  fun _ hc => Or.inl (List.mem_singleton.mp hc)

/-!
# Where lines end
-/

theorem Stops.nil : Stops [] :=
  fun _ hc => nomatch hc

theorem Stops.cons {c : Char} (h : c ∈ stops) (rest : List Char) : Stops (c :: rest) :=
  fun _ hd => Option.some.inj hd ▸ h

theorem Blanks.stops_append {blanks rest : List Char} (h : Blanks blanks) (hrest : Stops rest) :
    Stops (blanks ++ rest) := by
  cases blanks with
  | nil => exact hrest
  | cons c blanks =>
      rcases h c List.mem_cons_self with rfl | rfl
      · exact Stops.cons (by decide) _
      · exact Stops.cons (by decide) _

theorem Comment.stops_append {comment rest : List Char} (h : Comment comment)
    (hrest : Stops rest) : Stops (comment ++ rest) := by
  cases h with
  | none => exact hrest
  | some => exact Stops.cons (by decide) _

theorem LineBreak.stops_append {ending : List Char} (h : LineBreak ending) (rest : List Char) :
    Stops (ending ++ rest) := by
  rcases h with rfl | rfl
  · exact Stops.cons (by decide) _
  · exact Stops.cons (by decide) _

theorem EndsLine.stops {text rest : List Char} (h : EndsLine text rest) : Stops text := by
  cases h with
  | broken hblanks hcomment hending =>
      exact hblanks.stops_append (hcomment.stops_append (hending.stops_append rest))
  | last hblanks hcomment =>
      have hstops := hcomment.stops_append Stops.nil
      rw [List.append_nil] at hstops
      exact hblanks.stops_append hstops

/-!
# Lines that are read
-/

/-- A text that begins with no blank. -/
def Solid (text : List Char) : Prop :=
  forall c, text.head? = some c -> c ≠ ' ' ∧ c ≠ '\t'

theorem skipBlanks_of_solid {text : List Char} (h : Solid text) : skipBlanks text = text := by
  cases text with
  | nil => rfl
  | cons c text =>
      have hc := h c rfl
      exact if_neg (by simp [hc])

theorem skipBlanks_append {blanks text : List Char} (hblanks : Blanks blanks) (h : Solid text) :
    skipBlanks (blanks ++ text) = text := by
  induction blanks with
  | nil => exact skipBlanks_of_solid h
  | cons c blanks ih =>
      have hc := hblanks c List.mem_cons_self
      have hblank : (c = ' ' || c = '\t') = true := by
        simpa using hc
      rw [List.cons_append, skipBlanks, if_pos hblank]
      exact ih fun d hd => hblanks d (List.mem_cons_of_mem c hd)

theorem dropWhile_isTextChar {cs rest : List Char} (h : forall c, c ∈ cs -> IsText c)
    (hrest : forall c, rest.head? = some c -> isTextChar c = false) :
    (cs ++ rest).dropWhile isTextChar = rest := by
  rw [List.dropWhile_append_of_pos fun c hc => isTextChar_of_isText (h c hc)]
  cases rest with
  | nil => rfl
  | cons c rest => rw [List.dropWhile_cons, if_neg (by simp [hrest c rfl])]

theorem LineBreak.isTextChar_eq_false {ending : List Char} (h : LineBreak ending)
    (rest : List Char) : forall c, (ending ++ rest).head? = some c -> isTextChar c = false := by
  rcases h with rfl | rfl
  · rintro c ⟨⟩
    rfl
  · rintro c ⟨⟩
    rfl

theorem LineBreak.solid {ending : List Char} (h : LineBreak ending) (rest : List Char) :
    Solid (ending ++ rest) := by
  rcases h with rfl | rfl
  · rintro c ⟨⟩
    decide
  · rintro c ⟨⟩
    decide

theorem Comment.solid_append {comment text : List Char} (h : Comment comment) (htext : Solid text) :
    Solid (comment ++ text) := by
  cases h with
  | none => exact htext
  | some =>
      rintro c ⟨⟩
      decide

theorem Solid.nil : Solid [] :=
  fun _ hc => nomatch hc

theorem endLine_append {blanks text : List Char} (hblanks : Blanks blanks) (h : Solid text) :
    endLine (blanks ++ text) = endLine text := by
  unfold endLine
  rw [skipBlanks_append hblanks h, skipBlanks_of_solid h]

theorem endLine_comment (cs : List Char) :
    endLine ('#' :: cs) =
      match cs.dropWhile isTextChar, lineBreak? (cs.dropWhile isTextChar) with
      | [], _ => .ok []
      | _, some rest => .ok rest
      | _, none => Reading.fail (cs.dropWhile isTextChar) :=
  rfl

/-- The end of a line is read with the line break, if it has one. -/
theorem endLine_eq {text rest : List Char} (h : EndsLine text rest) : endLine text = .ok rest := by
  cases h with
  | broken hblanks hcomment hending =>
      rw [endLine_append hblanks (hcomment.solid_append (hending.solid rest))]
      cases hcomment with
      | none => rcases hending with rfl | rfl <;> rfl
      | some hcs =>
          rw [List.cons_append, endLine_comment,
            dropWhile_isTextChar hcs (hending.isTextChar_eq_false rest)]
          rcases hending with rfl | rfl <;> rfl
  | @last blanks comment hblanks hcomment =>
      rw [← List.append_nil comment, endLine_append hblanks (hcomment.solid_append Solid.nil)]
      cases hcomment with
      | none => rfl
      | some hcs =>
          have hend : forall c, ([] : List Char).head? = some c -> isTextChar c = false :=
            fun _ hc => nomatch hc
          rw [List.cons_append, endLine_comment, dropWhile_isTextChar hcs hend]

end Toml
end FixtureProbe
