import FixtureProbe.Node.Dialogue

/-!
# What a run has exchanged with the node

Of a run, three things matter to whoever goes on after it: its value, the state in which it leaves
the node, and the requests that it has made with the replies it got. Runs are put together and taken
apart along the dialogue; remarks and looks at the clock add nothing to what was exchanged.

Many dialogues make the same requests whatever they are told, some end with the same value wherever
they begin, and some end with values of one kind, or make requests of one kind, whatever happens.
These dialogues compose without a look at the states in between.
-/

namespace FixtureProbe

variable {ω ω' σ α β : Type}

/-- A request with the reply to it. -/
structure Exchange where
  request : Request
  reply : request.Reply

/-- The exchange of an event, if it is one. -/
def Event.exchange? : Event ω -> Option Exchange
  | .asked request reply => some ⟨request, reply⟩
  | .said _ => none

theorem Event.request?_eq_map_exchange? (event : Event ω) :
    event.request? = event.exchange?.map Exchange.request := by
  cases event <;> rfl

namespace Run

/-- The requests of a run with their replies, in order. -/
def exchanges (run : Run ω α σ) : List Exchange :=
  run.events.filterMap Event.exchange?

theorem requests_eq_map_exchanges (run : Run ω α σ) :
    run.requests = run.exchanges.map Exchange.request := by
  rw [requests, exchanges, List.map_filterMap]
  exact congrArg (List.filterMap · run.events) (funext Event.request?_eq_map_exchange?)

end Run

namespace Dialogue

/-- A run from the state `s` that exchanges `log` and ends with `a` in the state `s'`. -/
structure Runs (node : Node σ) (s : σ) (d : Dialogue ω α) (a : α) (log : List Exchange)
    (s' : σ) : Prop where
  value : (d.run node s).value = a
  exchanges : (d.run node s).exchanges = log
  state : (d.run node s).state = s'

namespace Runs

variable {node : Node σ} {s s' s₁ : σ} {d : Dialogue ω α} {f : α -> Dialogue ω β} {a : α} {b : β}
  {log first second : List Exchange}

/-- Every dialogue runs, from any state. -/
theorem self (node : Node σ) (s : σ) (d : Dialogue ω α) :
    Runs node s d (d.run node s).value (d.run node s).exchanges (d.run node s).state :=
  ⟨rfl, rfl, rfl⟩

/-- A node leaves no choice. -/
theorem unique {a₁ a₂ : α} {log₁ log₂ : List Exchange} {t₁ t₂ : σ}
    (h₁ : Runs node s d a₁ log₁ t₁) (h₂ : Runs node s d a₂ log₂ t₂) :
    a₁ = a₂ ∧ log₁ = log₂ ∧ t₁ = t₂ :=
  ⟨h₁.value.symm.trans h₂.value, h₁.exchanges.symm.trans h₂.exchanges,
    h₁.state.symm.trans h₂.state⟩

theorem requests (h : Runs node s d a log s') :
    (d.run node s).requests = log.map Exchange.request := by
  rw [Run.requests_eq_map_exchanges, h.exchanges]

/-!
# Single steps
-/

protected theorem pure (a : α) : Runs node s (pure a : Dialogue ω α) a [] s :=
  ⟨rfl, rfl, rfl⟩

protected theorem request (node : Node σ) (s : σ) (r : Request) :
    Runs node s (request r : Dialogue ω r.Reply) (node.answer s r).1 [⟨r, (node.answer s r).1⟩]
      (node.answer s r).2 :=
  ⟨rfl, rfl, rfl⟩

protected theorem note (n : ω) : Runs node s (note n) () [] s :=
  ⟨rfl, rfl, rfl⟩

theorem of_pure {a' : α} (h : Runs node s (pure a : Dialogue ω α) a' log s') :
    a = a' ∧ [] = log ∧ s = s' :=
  (Runs.pure a).unique h

/-!
# Sequences
-/

protected theorem bind (hd : Runs node s d a first s₁) (hf : Runs node s₁ (f a) b second s') :
    Runs node s (d >>= f) b (first ++ second) s' := by
  rcases hd with ⟨rfl, rfl, rfl⟩
  rcases hf with ⟨rfl, rfl, rfl⟩
  constructor
  · rw [bind_eq, run_bind]
  · rw [bind_eq, run_bind]
    exact List.filterMap_append
  · rw [bind_eq, run_bind]

/-- A step without exchanges in front leaves the log as it is. -/
theorem silent_bind (hd : Runs node s d a [] s₁) (hf : Runs node s₁ (f a) b log s') :
    Runs node s (d >>= f) b log s' :=
  hd.bind hf

theorem of_bind (h : Runs node s (d >>= f) b log s') :
    exists a first second s₁, Runs node s d a first s₁ ∧ Runs node s₁ (f a) b second s' ∧
      log = first ++ second := by
  have hd := self node s d
  have hf := self node (d.run node s).state (f (d.run node s).value)
  rcases (hd.bind hf).unique h with ⟨rfl, rfl, rfl⟩
  exact ⟨_, _, _, _, hd, hf, rfl⟩

theorem of_silent_bind (hd : Runs node s d a [] s₁) (h : Runs node s (d >>= f) b log s') :
    Runs node s₁ (f a) b log s' := by
  rcases h.of_bind with ⟨a', first, second, s₂, hd', hf, rfl⟩
  rcases hd.unique hd' with ⟨rfl, rfl, rfl⟩
  exact hf

protected theorem map {g : α -> β} (h : Runs node s d a log s') :
    Runs node s (g <$> d) (g a) log s' := by
  have hpure : Runs node s' (pure (g a) : Dialogue ω β) (g a) [] s' := Runs.pure _
  rw [← bind_pure_comp, ← List.append_nil log]
  exact h.bind hpure

theorem of_map {g : α -> β} (h : Runs node s (g <$> d) b log s') :
    exists a, Runs node s d a log s' ∧ g a = b := by
  have hd := self node s d
  rcases hd.map.unique h with ⟨rfl, rfl, rfl⟩
  exact ⟨_, hd, rfl⟩

theorem of_bind_pure {g : α -> β} (h : Runs node s (d >>= fun a => pure (g a)) b log s') :
    exists a, Runs node s d a log s' ∧ g a = b := by
  rw [bind_pure_comp] at h
  exact h.of_map

theorem sayAll (notes : List ω) (h : Runs node s d a log s') :
    Runs node s (notes.foldr .say d) a log s' := by
  induction notes with
  | nil => exact h
  | cons n notes ih => exact ⟨ih.value, ih.exchanges, ih.state⟩

protected theorem noteAll (notes : List ω) : Runs node s (noteAll notes) () [] s :=
  sayAll notes (Runs.pure ())

/-- Other remarks make no other run: only what is said differs. -/
protected theorem expandNotes {g : ω -> List ω'} (h : Runs node s d a log s') :
    Runs node s (d.expandNotes g) a log s' := by
  rcases h with ⟨rfl, rfl, rfl⟩
  -- The state varies along the dialogue: each request and each look at the clock changes it.
  induction d generalizing s with
  | done value => exact ⟨rfl, rfl, rfl⟩
  | ask request next ih =>
      have hnext := ih (node.answer s request).1 (s := (node.answer s request).2)
      exact ⟨hnext.value, congrArg (_ :: ·) hnext.exchanges, hnext.state⟩
  | say n next ih => exact sayAll (g n) ih
  | clock next ih =>
      have hnext := ih (node.time s).1 (s := (node.time s).2)
      exact ⟨hnext.value, hnext.exchanges, hnext.state⟩

theorem of_expandNotes {g : ω -> List ω'} (h : Runs node s (d.expandNotes g) a log s') :
    Runs node s d a log s' := by
  have hd := self node s d
  rcases hd.expandNotes.unique h with ⟨rfl, rfl, rfl⟩
  exact hd

theorem of_mapNotes {g : ω -> ω'} (h : Runs node s (d.mapNotes g) a log s') :
    Runs node s d a log s' :=
  h.of_expandNotes

protected theorem announce {f : Request -> List ω} (h : Runs node s d a log s') :
    Runs node s (d.announce f) a log s' := by
  rcases h with ⟨rfl, rfl, rfl⟩
  induction d generalizing s with
  | done value => exact ⟨rfl, rfl, rfl⟩
  | ask request next ih =>
      have hnext := ih (node.answer s request).1 (s := (node.answer s request).2)
      exact sayAll (f request)
        ⟨hnext.value, congrArg (_ :: ·) hnext.exchanges, hnext.state⟩
  | say n next ih =>
      have hnext := ih (s := s)
      exact ⟨hnext.value, hnext.exchanges, hnext.state⟩
  | clock next ih =>
      have hnext := ih (node.time s).1 (s := (node.time s).2)
      exact ⟨hnext.value, hnext.exchanges, hnext.state⟩

/-- What is said before each request makes no other run. -/
theorem of_announce {f : Request -> List ω} (h : Runs node s (d.announce f) a log s') :
    Runs node s d a log s' := by
  have hd := self node s d
  rcases hd.announce.unique h with ⟨rfl, rfl, rfl⟩
  exact hd

end Runs

/-!
# Fixed requests
-/

/-- The requests that a dialogue makes, whatever the replies to them are. -/
def Makes (d : Dialogue ω α) (requests : List Request) : Prop :=
  forall ⦃σ : Type⦄ ⦃node : Node σ⦄ ⦃s s' : σ⦄ ⦃a : α⦄ ⦃log : List Exchange⦄,
    Runs node s d a log s' -> log.map Exchange.request = requests

namespace Makes

variable {d : Dialogue ω α} {f : α -> Dialogue ω β} {first second : List Request}

protected theorem pure (a : α) : Makes (pure a : Dialogue ω α) [] := by
  intro σ node s s' a' log h
  rcases h.of_pure with ⟨-, rfl, -⟩
  rfl

protected theorem request (r : Request) : Makes (request r : Dialogue ω r.Reply) [r] := by
  intro σ node s s' a log h
  rcases (Runs.request node s r).unique h with ⟨-, rfl, -⟩
  rfl

protected theorem note (n : ω) : Makes (note n) [] := by
  intro σ node s s' a log h
  rcases (Runs.note n).unique h with ⟨-, rfl, -⟩
  rfl

protected theorem now : Makes (now : Dialogue ω Nat) [] := by
  intro σ node s s' a log h
  rw [← h.exchanges]
  rfl

protected theorem bind (hd : d.Makes first) (hf : forall a, (f a).Makes second) :
    (d >>= f).Makes (first ++ second) := by
  intro σ node s s' b log h
  rcases h.of_bind with ⟨a, log₁, log₂, s₁, h₁, h₂, rfl⟩
  rw [List.map_append, hd h₁, hf a h₂]

/-- What follows a step without requests makes all the requests. -/
theorem silent_bind (hd : d.Makes []) (hf : forall a, (f a).Makes second) :
    (d >>= f).Makes second :=
  hd.bind hf

/-- A step that is followed by none with requests makes all the requests. -/
theorem bind_silent (hd : d.Makes first) (hf : forall a, (f a).Makes []) :
    (d >>= f).Makes first := by
  rw [← List.append_nil first]
  exact hd.bind hf

protected theorem map {g : α -> β} (hd : d.Makes first) : (g <$> d).Makes first := by
  intro σ node s s' b log h
  rcases h.of_map with ⟨a, ha, -⟩
  exact hd ha

end Makes

/-!
# Fixed values
-/

/-- The value that a dialogue with a node ends with, wherever it begins. -/
def Yields (node : Node σ) (d : Dialogue ω α) (a : α) : Prop :=
  forall s, (d.run node s).value = a

namespace Yields

variable {node : Node σ} {d : Dialogue ω α} {f : α -> Dialogue ω β} {a : α} {b : β}

protected theorem pure (a : α) : Yields node (pure a : Dialogue ω α) a :=
  fun _ => rfl

protected theorem note (n : ω) : Yields node (note n) () :=
  fun _ => rfl

protected theorem bind (hd : Yields node d a) (hf : Yields node (f a) b) :
    Yields node (d >>= f) b := by
  intro s
  rw [bind_eq, run_bind]
  dsimp only
  rw [hd s]
  exact hf _

protected theorem map {g : α -> β} (hd : Yields node d a) : Yields node (g <$> d) (g a) := by
  rw [← bind_pure_comp]
  exact hd.bind (Yields.pure (g a))

protected theorem mapNotes {g : ω -> ω'} (hd : Yields node d a) :
    Yields node (d.mapNotes g) a := by
  intro s
  rw [← hd s]
  exact (Runs.self node s (d.mapNotes g)).of_mapNotes.value.symm

end Yields

/-!
# Values of one kind
-/

/-- Whatever a dialogue is told, the value that it ends with has a property. -/
structure Gives (d : Dialogue ω α) (P : α -> Prop) : Prop where
  of_runs : forall {σ : Type} {node : Node σ} {s s' : σ} {a : α} {log : List Exchange},
    Runs node s d a log s' -> P a

namespace Gives

variable {d : Dialogue ω α} {f : α -> Dialogue ω β} {P : α -> Prop} {Q : β -> Prop}

theorem value (h : d.Gives P) (node : Node σ) (s : σ) : P (d.run node s).value :=
  h.of_runs (Runs.self node s d)

protected theorem pure {a : α} (h : P a) : Gives (pure a : Dialogue ω α) P := by
  constructor
  intro σ node s s' a' log hrun
  rcases hrun.of_pure with ⟨rfl, -, -⟩
  exact h

protected theorem bind (hd : d.Gives P) (hf : forall a, P a -> (f a).Gives Q) :
    (d >>= f).Gives Q := by
  constructor
  intro σ node s s' b log hrun
  rcases hrun.of_bind with ⟨a, first, second, s₁, h₁, h₂, -⟩
  exact (hf a (hd.of_runs h₁)).of_runs h₂

/-- What follows a step decides alone, if it has the property after every value of the step. -/
theorem of_rest (hf : forall a, (f a).Gives Q) : (d >>= f).Gives Q := by
  constructor
  intro σ node s s' b log hrun
  rcases hrun.of_bind with ⟨a, first, second, s₁, -, h₂, -⟩
  exact (hf a).of_runs h₂

protected theorem map {g : α -> β} (hd : d.Gives P) (hg : forall a, P a -> Q (g a)) :
    (g <$> d).Gives Q := by
  constructor
  intro σ node s s' b log hrun
  rcases hrun.of_map with ⟨a, ha, rfl⟩
  exact hg a (hd.of_runs ha)

protected theorem mapNotes {g : ω -> ω'} (hd : d.Gives P) : (d.mapNotes g).Gives P :=
  ⟨fun hrun => hd.of_runs hrun.of_mapNotes⟩

end Gives

/-!
# Requests of one kind
-/

/-- Whatever a dialogue is told, the requests that it makes have a property. -/
structure Asks (d : Dialogue ω α) (P : Request -> Prop) : Prop where
  of_runs : forall {σ : Type} {node : Node σ} {s s' : σ} {a : α} {log : List Exchange},
    Runs node s d a log s' -> forall exchange, exchange ∈ log -> P exchange.request

namespace Asks

variable {d : Dialogue ω α} {f : α -> Dialogue ω β} {P : Request -> Prop} {V : α -> Prop}

theorem requests (h : d.Asks P) (node : Node σ) (s : σ) :
    forall request, request ∈ (d.run node s).requests -> P request := by
  intro request hrequest
  rw [Run.requests_eq_map_exchanges] at hrequest
  rcases List.mem_map.mp hrequest with ⟨exchange, hexchange, rfl⟩
  exact h.of_runs (Runs.self node s d) exchange hexchange

theorem of_makes {requests : List Request} (hd : d.Makes requests)
    (hrequests : forall request, request ∈ requests -> P request) : d.Asks P := by
  constructor
  intro σ node s s' a log hrun exchange hexchange
  apply hrequests
  rw [← hd hrun]
  exact List.mem_map_of_mem hexchange

protected theorem silent (hd : d.Makes []) : d.Asks P :=
  of_makes hd fun _ h => nomatch h

protected theorem pure (a : α) : Asks (pure a : Dialogue ω α) P :=
  .silent (Makes.pure a)

protected theorem note (n : ω) : (note n).Asks P :=
  .silent (Makes.note n)

protected theorem noteAll (notes : List ω) : (noteAll notes).Asks P := by
  constructor
  intro σ node s s' a log hrun exchange hexchange
  rcases (Runs.noteAll notes).unique hrun with ⟨-, rfl, -⟩
  cases hexchange

/-- What follows a step may rely on the kind of the value that the step ends with. -/
theorem bind_gives (hd : d.Asks P) (hvalue : d.Gives V) (hf : forall a, V a -> (f a).Asks P) :
    (d >>= f).Asks P := by
  constructor
  intro σ node s s' b log hrun exchange hexchange
  rcases hrun.of_bind with ⟨a, first, second, s₁, h₁, h₂, rfl⟩
  rcases List.mem_append.mp hexchange with hexchange | hexchange
  · exact hd.of_runs h₁ exchange hexchange
  · exact (hf a (hvalue.of_runs h₁)).of_runs h₂ exchange hexchange

protected theorem bind (hd : d.Asks P) (hf : forall a, (f a).Asks P) : (d >>= f).Asks P :=
  hd.bind_gives (V := fun _ => True) ⟨fun _ => trivial⟩ fun a _ => hf a

protected theorem map {g : α -> β} (hd : d.Asks P) : (g <$> d).Asks P := by
  constructor
  intro σ node s s' b log hrun
  rcases hrun.of_map with ⟨a, ha, -⟩
  exact hd.of_runs ha

protected theorem expandNotes {g : ω -> List ω'} (hd : d.Asks P) : (d.expandNotes g).Asks P :=
  ⟨fun hrun => hd.of_runs hrun.of_expandNotes⟩

protected theorem mapNotes {g : ω -> ω'} (hd : d.Asks P) : (d.mapNotes g).Asks P :=
  hd.expandNotes

protected theorem announce {g : Request -> List ω} (hd : d.Asks P) : (d.announce g).Asks P :=
  ⟨fun hrun => hd.of_runs hrun.of_announce⟩

end Asks

end Dialogue

end FixtureProbe
