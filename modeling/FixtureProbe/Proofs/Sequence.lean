/-!
# One step after another

Readings and checks that can fail are put together step by step. The first step that fails decides
the failure, and a success is a success of every step.
-/

namespace FixtureProbe

theorem ok_bind {ε α β : Type} (a : α) (f : α -> Except ε β) : (Except.ok a >>= f) = f a :=
  rfl

/-- Readings that have succeeded have succeeded one by one. -/
theorem exists_of_bind {ε α β : Type} {result : Except ε α} {f : α -> Except ε β} {b : β}
    (h : (result >>= f) = .ok b) : exists a, result = .ok a ∧ f a = .ok b := by
  cases result with
  | ok a => exact ⟨a, rfl, h⟩
  | error e => cases h

/-- One of two readings has failed, and the second one only if the first one has not. -/
theorem error_or_of_bind {ε α β : Type} {result : Except ε α} {f : α -> Except ε β} {e : ε}
    (h : (result >>= f) = .error e) :
    result = .error e ∨ exists a, result = .ok a ∧ f a = .error e := by
  cases result with
  | ok a => exact Or.inr ⟨a, rfl, h⟩
  | error e' =>
      cases h
      exact Or.inl rfl

/-- Whatever goes through many steps has gone through each of them. -/
theorem exists_of_foldlM {ε α β : Type} {f : β -> α -> Except ε β} {items : List α} {b c : β}
    (h : items.foldlM f b = .ok c) {a : α} (ha : a ∈ items) :
    exists before after, f before a = .ok after := by
  induction items generalizing b with
  | nil => cases ha
  | cons item items ih =>
      rw [List.foldlM_cons] at h
      rcases exists_of_bind h with ⟨after, hitem, hothers⟩
      rcases List.mem_cons.mp ha with rfl | ha
      · exact ⟨b, after, hitem⟩
      · exact ih hothers ha

/-- Another wording of a failure makes no success. -/
theorem eq_ok_of_mapError {ε ε' α : Type} {result : Except ε α} {f : ε -> ε'} {a : α}
    (h : result.mapError f = .ok a) : result = .ok a := by
  cases result with
  | ok a' =>
      cases h
      rfl
  | error e => cases h

end FixtureProbe
