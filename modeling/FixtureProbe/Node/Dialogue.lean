import FixtureProbe.Node.Request

/-!
# Dialogues with a node

Everything the probe does is a dialogue: a tree that asks a node, says something to whoever
listens, or looks at the clock, and goes on with what it has learned. What a dialogue does is
fixed before any node is chosen; a node then drives it along one path. Because the node is any state
machine, its answers may change from one request to the next.

The main statements say that dialogues form a monad, that running a sequence of two is running one
after the other, and that changing what is said changes nothing else.
-/

namespace FixtureProbe

inductive Dialogue (ω : Type) (α : Type) : Type where
  | done (value : α)
  | ask (request : Request) (next : request.Reply -> Dialogue ω α)
  | say (note : ω) (next : Dialogue ω α)
  | clock (next : Nat -> Dialogue ω α)

namespace Dialogue

variable {ω ω' σ α β : Type}

/-!
# Sequences
-/

def bind : Dialogue ω α -> (α -> Dialogue ω β) -> Dialogue ω β
  | .done value, f => f value
  | .ask request next, f => .ask request fun reply => (next reply).bind f
  | .say note next, f => .say note (next.bind f)
  | .clock next, f => .clock fun now => (next now).bind f

instance : Monad (Dialogue ω) where
  pure := .done
  bind := bind

def request (r : Request) : Dialogue ω r.Reply :=
  .ask r .done

def note (n : ω) : Dialogue ω Unit :=
  .say n (.done ())

def noteAll (notes : List ω) : Dialogue ω Unit :=
  notes.foldr .say (.done ())

def now : Dialogue ω Nat :=
  .clock .done

theorem bind_eq (d : Dialogue ω α) (f : α -> Dialogue ω β) : d >>= f = d.bind f :=
  rfl

@[simp]
theorem bind_done (d : Dialogue ω α) : d.bind .done = d := by
  induction d with
  | done value => rfl
  | ask r next ih => simp [bind, ih]
  | say n next ih => simp [bind, ih]
  | clock next ih => simp [bind, ih]

theorem bind_bind {γ : Type} (d : Dialogue ω α) (f : α -> Dialogue ω β) (g : β -> Dialogue ω γ) :
    (d.bind f).bind g = d.bind fun a => (f a).bind g := by
  induction d with
  | done value => rfl
  | ask r next ih => simp [bind, ih]
  | say n next ih => simp [bind, ih]
  | clock next ih => simp [bind, ih]

instance : LawfulMonad (Dialogue ω) :=
  LawfulMonad.mk' _ (fun d => bind_done d) (fun _ _ => rfl) (fun d f g => bind_bind d f g)

/-!
# What is said
-/

/-- The same dialogue with every remark replaced by a list of remarks. -/
def expandNotes (f : ω -> List ω') : Dialogue ω α -> Dialogue ω' α
  | .done value => .done value
  | .ask request next => .ask request fun reply => (next reply).expandNotes f
  | .say note next => (f note).foldr .say (next.expandNotes f)
  | .clock next => .clock fun now => (next now).expandNotes f

def mapNotes (f : ω -> ω') : Dialogue ω α -> Dialogue ω' α :=
  expandNotes fun n => [f n]

/-- The same dialogue with remarks made just before each request. -/
def announce (f : Request -> List ω) : Dialogue ω α -> Dialogue ω α
  | .done value => .done value
  | .ask request next => (f request).foldr .say (.ask request fun reply => (next reply).announce f)
  | .say note next => .say note (next.announce f)
  | .clock next => .clock fun now => (next now).announce f

end Dialogue

/-!
# Nodes
-/

/-- A node, with the clock of whoever talks to it: a state machine. -/
structure Node (σ : Type) where
  answer : σ -> (r : Request) -> r.Reply × σ
  time : σ -> Nat × σ

inductive Event (ω : Type) where
  | asked (request : Request) (reply : request.Reply)
  | said (note : ω)

namespace Event

variable {ω : Type}

def request? : Event ω -> Option Request
  | .asked r _ => some r
  | .said _ => none

def note? : Event ω -> Option ω
  | .asked .. => none
  | .said n => some n

end Event

structure Run (ω α σ : Type) where
  value : α
  events : List (Event ω)
  state : σ

namespace Run

variable {ω α σ : Type}

def requests (run : Run ω α σ) : List Request :=
  run.events.filterMap Event.request?

def notes (run : Run ω α σ) : List ω :=
  run.events.filterMap Event.note?

def after (event : Event ω) (run : Run ω α σ) : Run ω α σ :=
  { run with events := event :: run.events }

end Run

namespace Dialogue

variable {ω ω' σ α β : Type}

def run (node : Node σ) : Dialogue ω α -> σ -> Run ω α σ
  | .done value, s => ⟨value, [], s⟩
  | .ask request next, s =>
      let (reply, s) := node.answer s request
      ((next reply).run node s).after (.asked request reply)
  | .say note next, s => (next.run node s).after (.said note)
  | .clock next, s =>
      let (now, s) := node.time s
      (next now).run node s

theorem run_bind (node : Node σ) (d : Dialogue ω α) (f : α -> Dialogue ω β) (s : σ) :
    (d.bind f).run node s =
      let first := d.run node s
      let second := (f first.value).run node first.state
      ⟨second.value, first.events ++ second.events, second.state⟩ := by
  induction d generalizing s with
  | done value => rfl
  | ask r next ih => simp [bind, run, Run.after, ih]
  | say n next ih => simp [bind, run, Run.after, ih]
  | clock next ih => simp [bind, run, ih]

/-- Drives a dialogue in any monad that can answer, listen and tell the time. -/
def drive {m : Type -> Type} [Monad m] (answer : (r : Request) -> m r.Reply) (listen : ω -> m Unit)
    (time : m Nat) : Dialogue ω α -> m α
  | .done value => pure value
  | .ask request next => do
      let reply ← answer request
      (next reply).drive answer listen time
  | .say note next => do
      listen note
      next.drive answer listen time
  | .clock next => do
      let now ← time
      (next now).drive answer listen time

end Dialogue

end FixtureProbe
