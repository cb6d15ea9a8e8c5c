import FixtureProbe.Proofs.Node.Clock

/-!
# Nodes without a memory

A node without a memory replies to a request the same whenever it is asked, so a dialogue with it is
decided by the replies alone. The value of a dialogue under given replies is defined along the
dialogue, with a clock that stands still. Every run with the node ends with this value, up to what the
dialogue makes of the clock.
-/

namespace FixtureProbe

variable {ω ω' σ α β : Type}

/-- The replies of a node depend on the request alone; its clock may show anything. -/
def Node.Stateless (node : Node σ) (reply : (r : Request) -> r.Reply) : Prop :=
  forall s r, (node.answer s r).1 = reply r

namespace Dialogue

/-!
# Values under given replies
-/

/-- The value of a dialogue under given replies, with a clock that stands still. -/
def valueWith (reply : (r : Request) -> r.Reply) : Dialogue ω α -> α
  | .done value => value
  | .ask request next => (next (reply request)).valueWith reply
  | .say _ next => next.valueWith reply
  | .clock next => (next 0).valueWith reply

section Values

variable (reply : (r : Request) -> r.Reply)

@[simp]
theorem valueWith_pure (a : α) : (pure a : Dialogue ω α).valueWith reply = a :=
  rfl

@[simp]
theorem valueWith_bind (d : Dialogue ω α) (f : α -> Dialogue ω β) :
    (d >>= f).valueWith reply = (f (d.valueWith reply)).valueWith reply := by
  rw [bind_eq]
  induction d with
  | done a => rfl
  | ask request next ih => exact ih (reply request)
  | say n next ih => exact ih
  | clock next ih => exact ih 0

@[simp]
theorem valueWith_map (f : α -> β) (d : Dialogue ω α) :
    (f <$> d).valueWith reply = f (d.valueWith reply) := by
  rw [← bind_pure_comp, valueWith_bind, valueWith_pure]

end Values

/-!
# Runs with a node without a memory
-/

section Runs

variable {node : Node σ} {reply : (r : Request) -> r.Reply} {d : Dialogue ω α}

/-- A run ends as the replies decide, up to what a dialogue that is alike makes of the clock. -/
theorem Alike.value_run {V : α -> β -> Prop} {d' : Dialogue ω' β} (h : Alike V d d')
    (hnode : node.Stateless reply) (s : σ) : V (d.run node s).value (d'.valueWith reply) := by
  induction h generalizing s with
  | done hab => exact hab
  | ask request hnext ih =>
      rw [valueWith, ← hnode s request]
      exact ih (node.answer s request).1 (node.answer s request).2
  | sayLeft n hd ih => exact ih s
  | sayRight n hd ih => exact ih s
  | clock hnext ih => exact ih _ _ _

/-- A dialogue that never looks at the clock ends with its value under the replies of the node. -/
theorem Clockless.yields (hd : d.Clockless) (hnode : node.Stateless reply) :
    Yields node d (d.valueWith reply) :=
  hd.alike.value_run hnode

theorem Clockless.eq_valueWith (hd : d.Clockless) (hnode : node.Stateless reply) {s s' : σ} {a : α}
    {log : List Exchange} (hrun : Runs node s d a log s') : a = d.valueWith reply :=
  hrun.value.symm.trans (hd.yields hnode s)

end Runs

end Dialogue

end FixtureProbe
