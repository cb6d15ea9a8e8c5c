import FixtureProbe.Proofs.Node.Exchange

/-!
# What does not depend on the clock

Two dialogues are alike when they ask the same whatever they are told, look at the clock at the same
places whatever it shows, and end with values that belong together. They may say different things in
between. Alike dialogues exchange the same with nodes that answer the same, even if the clocks of the
two runs differ. A dialogue that never looks at the clock is like itself.
-/

namespace FixtureProbe

variable {ω ω' σ τ α β γ δ : Type}

/-- Nodes in related states answer the same, and looking at the clock keeps them related. -/
structure Node.AnswersLike (node : Node σ) (other : Node τ) (R : σ -> τ -> Prop) : Prop where
  answer : forall {s : σ} {t : τ} (r : Request), R s t ->
    (node.answer s r).1 = (other.answer t r).1
  answered : forall {s : σ} {t : τ} (r : Request), R s t ->
    R (node.answer s r).2 (other.answer t r).2
  timed : forall {s : σ} {t : τ}, R s t -> R (node.time s).2 (other.time t).2

/-- A node whose clock leaves it as it is answers like the same node with another such clock. -/
theorem Node.answersLike_clock {node : Node σ} (h : forall s, (node.time s).2 = s)
    (clock : σ -> Nat) : node.AnswersLike { node with time := fun s => (clock s, s) } Eq := by
  constructor
  · rintro s _ r rfl
    rfl
  · rintro s _ r rfl
    rfl
  · rintro s _ rfl
    exact h s

namespace Dialogue

/-!
# Alike dialogues
-/

/-- Dialogues that differ at most in what they say and in what they make of the clock, and end with
related values. -/
inductive Alike (V : α -> β -> Prop) : Dialogue ω α -> Dialogue ω' β -> Prop where
  | done {a : α} {b : β} (h : V a b) : Alike V (.done a) (.done b)
  | ask (request : Request) {next : request.Reply -> Dialogue ω α}
      {next' : request.Reply -> Dialogue ω' β}
      (h : forall reply, Alike V (next reply) (next' reply)) :
      Alike V (.ask request next) (.ask request next')
  | sayLeft (note : ω) {d : Dialogue ω α} {d' : Dialogue ω' β} (h : Alike V d d') :
      Alike V (.say note d) d'
  | sayRight (note : ω') {d : Dialogue ω α} {d' : Dialogue ω' β} (h : Alike V d d') :
      Alike V d (.say note d')
  | clock {next : Nat -> Dialogue ω α} {next' : Nat -> Dialogue ω' β}
      (h : forall now now', Alike V (next now) (next' now')) : Alike V (.clock next) (.clock next')

namespace Alike

variable {V : α -> β -> Prop} {W : γ -> δ -> Prop} {d : Dialogue ω α} {d' : Dialogue ω' β}

protected theorem pure {a : α} {b : β} (h : V a b) :
    Alike V (pure a : Dialogue ω α) (pure b : Dialogue ω' β) :=
  .done h

protected theorem note (n : ω) (n' : ω') : Alike Eq (note n) (note n') :=
  .sayLeft n (.sayRight n' (.done rfl))

protected theorem now :
    Alike (fun _ _ => True) (now : Dialogue ω Nat) (now : Dialogue ω' Nat) :=
  .clock fun _ _ => .done trivial

protected theorem bind {f : α -> Dialogue ω γ} {g : β -> Dialogue ω' δ} (h : Alike V d d')
    (hf : forall a b, V a b -> Alike W (f a) (g b)) : Alike W (d >>= f) (d' >>= g) := by
  rw [bind_eq, bind_eq]
  induction h with
  | done hab => exact hf _ _ hab
  | ask request hnext ih => exact .ask request ih
  | sayLeft n hd ih => exact .sayLeft n ih
  | sayRight n hd ih => exact .sayRight n ih
  | clock hnext ih => exact .clock ih

theorem sayAll (notes : List ω') (h : Alike V d d') : Alike V d (notes.foldr .say d') := by
  induction notes with
  | nil => exact h
  | cons n notes ih => exact .sayRight n ih

protected theorem noteAll (notes : List ω) (notes' : List ω') :
    Alike Eq (noteAll notes) (noteAll notes') := by
  induction notes with
  | nil => exact sayAll notes' (.done rfl)
  | cons n notes ih => exact .sayLeft n ih

/-- Saying something else does not make a dialogue another one. -/
theorem expandNotes {ω'' : Type} (f : ω' -> List ω'') (h : Alike V d d') :
    Alike V d (d'.expandNotes f) := by
  induction h with
  | done hab => exact .done hab
  | ask request hnext ih => exact .ask request ih
  | sayLeft n hd ih => exact .sayLeft n ih
  | sayRight n hd ih => exact ih.sayAll (f n)
  | clock hnext ih => exact .clock ih

theorem symm (h : Alike V d d') : Alike (fun b a => V a b) d' d := by
  induction h with
  | done hab => exact .done hab
  | ask request hnext ih => exact .ask request ih
  | sayLeft n hd ih => exact .sayRight n ih
  | sayRight n hd ih => exact .sayLeft n ih
  | clock hnext ih => exact .clock fun now now' => ih now' now

theorem expandEach {ω₁ ω₂ : Type} (f : ω -> List ω₁) (g : ω' -> List ω₂) (h : Alike V d d') :
    Alike V (d.expandNotes f) (d'.expandNotes g) :=
  ((h.expandNotes g).symm.expandNotes f).symm

theorem mapNotes {ω₁ ω₂ : Type} (f : ω -> ω₁) (g : ω' -> ω₂) (h : Alike V d d') :
    Alike V (d.mapNotes f) (d'.mapNotes g) :=
  h.expandEach _ _

/-- Alike dialogues with nodes that answer the same exchange the same and end alike. -/
theorem run (h : Alike V d d') {node : Node σ} {other : Node τ} {R : σ -> τ -> Prop}
    (hnodes : node.AnswersLike other R) {s : σ} {t : τ} (hstates : R s t) :
    V (d.run node s).value (d'.run other t).value ∧
      (d.run node s).exchanges = (d'.run other t).exchanges ∧
      R (d.run node s).state (d'.run other t).state := by
  induction h generalizing s t with
  | done hab => exact ⟨hab, rfl, hstates⟩
  | ask request hnext ih =>
      have hreply := hnodes.answer request hstates
      have hnext := ih (node.answer s request).1 (hnodes.answered request hstates)
      dsimp only [Dialogue.run]
      rw [← hreply]
      exact ⟨hnext.1, congrArg (_ :: ·) hnext.2.1, hnext.2.2⟩
  | sayLeft n hd ih => exact ih hstates
  | sayRight n hd ih => exact ih hstates
  | clock hnext ih => exact ih _ _ (hnodes.timed hstates)

end Alike

/-!
# Dialogues that never look at the clock
-/

/-- A dialogue that never looks at the clock. -/
def Clockless : Dialogue ω α -> Prop
  | .done _ => True
  | .ask _ next => forall reply, (next reply).Clockless
  | .say _ next => next.Clockless
  | .clock _ => False

namespace Clockless

variable {d : Dialogue ω α} {f : α -> Dialogue ω β}

protected theorem pure (a : α) : Clockless (pure a : Dialogue ω α) :=
  trivial

protected theorem request (r : Request) : Clockless (request r : Dialogue ω r.Reply) :=
  fun _ => trivial

protected theorem note (n : ω) : Clockless (note n) :=
  trivial

protected theorem bind (hd : d.Clockless) (hf : forall a, (f a).Clockless) :
    (d >>= f).Clockless := by
  rw [bind_eq]
  induction d with
  | done a => exact hf a
  | ask request next ih => exact fun reply => ih reply (hd reply)
  | say n next ih => exact ih hd
  | clock next ih => cases hd

protected theorem map {g : α -> β} (hd : d.Clockless) : (g <$> d).Clockless := by
  rw [← bind_pure_comp]
  exact hd.bind fun _ => .pure _

theorem sayAll (notes : List ω) (hd : d.Clockless) : (notes.foldr .say d).Clockless := by
  induction notes with
  | nil => exact hd
  | cons n notes ih => exact ih

protected theorem expandNotes (g : ω -> List ω') (hd : d.Clockless) :
    (d.expandNotes g).Clockless := by
  induction d with
  | done a => trivial
  | ask request next ih => exact fun reply => ih reply (hd reply)
  | say n next ih => exact (ih hd).sayAll (g n)
  | clock next ih => cases hd

protected theorem mapNotes (g : ω -> ω') (hd : d.Clockless) : (d.mapNotes g).Clockless :=
  hd.expandNotes _

theorem alike (hd : d.Clockless) : Alike Eq d d := by
  induction d with
  | done a => exact .done rfl
  | ask request next ih => exact .ask request fun reply => ih reply (hd reply)
  | say n next ih => exact .sayLeft n (.sayRight n (ih hd))
  | clock next ih => cases hd

end Clockless

end Dialogue

end FixtureProbe
