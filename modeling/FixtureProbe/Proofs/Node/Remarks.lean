import FixtureProbe.Proofs.Node.Exchange

/-!
# What a run says

The remarks of a run are put together along the dialogue, just as what it exchanges. Where remarks
are replaced by others, the run says the others and is otherwise the same run; where something is
said before each request, whoever does not listen to that hears what was said before. Some dialogues
say only things of one kind, whatever they are told.
-/

namespace FixtureProbe

variable {ω ω' σ α β : Type}

namespace Dialogue

/-!
# Remarks of a run
-/

section Notes

variable {node : Node σ} {s s₁ : σ} {a : α} {log : List Exchange}

theorem notes_bind (d : Dialogue ω α) (f : α -> Dialogue ω β) :
    ((d >>= f).run node s).notes =
      (d.run node s).notes ++
        ((f (d.run node s).value).run node (d.run node s).state).notes := by
  unfold Run.notes
  rw [bind_eq, run_bind]
  exact List.filterMap_append

/-- After a run that is known, the remarks are those of what follows it. -/
theorem Runs.notes_bind {d : Dialogue ω α} (h : Runs node s d a log s₁) (f : α -> Dialogue ω β) :
    ((d >>= f).run node s).notes = (d.run node s).notes ++ ((f a).run node s₁).notes := by
  rw [Dialogue.notes_bind, h.value, h.state]

theorem notes_note_bind (n : ω) (f : Unit -> Dialogue ω β) :
    ((note n >>= f).run node s).notes = n :: ((f ()).run node s).notes :=
  rfl

theorem notes_sayAll (notes : List ω) (d : Dialogue ω α) :
    ((notes.foldr .say d).run node s).notes = notes ++ (d.run node s).notes := by
  induction notes with
  | nil => rfl
  | cons n notes ih => exact congrArg (n :: ·) ih

theorem notes_noteAll (notes : List ω) : ((noteAll notes).run node s).notes = notes := by
  rw [noteAll, notes_sayAll]
  exact List.append_nil notes

theorem notes_map (d : Dialogue ω α) (g : α -> β) :
    ((g <$> d).run node s).notes = (d.run node s).notes := by
  rw [← bind_pure_comp, notes_bind]
  exact List.append_nil _

/-- Replaced remarks are said in the place of those that they replace. -/
theorem notes_expandNotes (f : ω -> List ω') (d : Dialogue ω α) :
    ((d.expandNotes f).run node s).notes = (d.run node s).notes.flatMap f := by
  induction d generalizing s with
  | done value => rfl
  | ask request next ih => exact ih (node.answer s request).1
  | say n next ih =>
      change (((f n).foldr .say (next.expandNotes f)).run node s).notes =
        f n ++ (next.run node s).notes.flatMap f
      rw [notes_sayAll, ih]
  | clock next ih => exact ih (node.time s).1

theorem notes_mapNotes (f : ω -> ω') (d : Dialogue ω α) :
    ((d.mapNotes f).run node s).notes = (d.run node s).notes.map f := by
  rw [mapNotes, notes_expandNotes, List.map_eq_flatMap]

/-- Who takes nothing from what is said before a request takes the same with it as without it. -/
theorem filterMap_notes_announce {f : Request -> List ω} {g : ω -> Option ω'}
    (hg : forall request n, n ∈ f request -> g n = none) (d : Dialogue ω α) :
    ((d.announce f).run node s).notes.filterMap g = (d.run node s).notes.filterMap g := by
  induction d generalizing s with
  | done value => rfl
  | ask request next ih =>
      have hsilent : (f request).filterMap g = [] := List.filterMap_eq_nil_iff.mpr (hg request)
      change (((f request).foldr Dialogue.say _).run node s).notes.filterMap g = _
      rw [notes_sayAll, List.filterMap_append, hsilent]
      exact ih (node.answer s request).1
  | say n next ih =>
      change (n :: ((next.announce f).run node s).notes).filterMap g =
        (n :: (next.run node s).notes).filterMap g
      cases hn : g n with
      | none => rw [List.filterMap_cons_none hn, List.filterMap_cons_none hn, ih]
      | some b => rw [List.filterMap_cons_some hn, List.filterMap_cons_some hn, ih]
  | clock next ih => exact ih (node.time s).1

theorem mem_notes_announce {f : Request -> List ω} {d : Dialogue ω α} {n : ω}
    (hn : n ∈ ((d.announce f).run node s).notes) :
    (exists request, n ∈ f request) ∨ n ∈ (d.run node s).notes := by
  induction d generalizing s with
  | done value => exact Or.inr hn
  | ask request next ih =>
      change n ∈ (((f request).foldr Dialogue.say _).run node s).notes at hn
      rw [notes_sayAll] at hn
      rcases List.mem_append.mp hn with hn | hn
      · exact Or.inl ⟨request, hn⟩
      · exact ih (node.answer s request).1 hn
  | say n' next ih =>
      rcases List.mem_cons.mp hn with hn | hn
      · exact Or.inr (List.mem_cons.mpr (Or.inl hn))
      · rcases ih hn with hn | hn
        · exact Or.inl hn
        · exact Or.inr (List.mem_cons_of_mem n' hn)
  | clock next ih => exact ih (node.time s).1 hn

end Notes

/-!
# Replacing remarks along a sequence
-/

theorem foldr_say_bind (notes : List ω) (d : Dialogue ω α) (f : α -> Dialogue ω β) :
    (notes.foldr .say d).bind f = notes.foldr .say (d.bind f) := by
  induction notes with
  | nil => rfl
  | cons n notes ih => exact congrArg (Dialogue.say n) ih

theorem expandNotes_bind (g : ω -> List ω') (d : Dialogue ω α) (f : α -> Dialogue ω β) :
    (d >>= f).expandNotes g = d.expandNotes g >>= fun a => (f a).expandNotes g := by
  rw [bind_eq, bind_eq]
  induction d with
  | done a => rfl
  | ask request next ih => exact congrArg (Dialogue.ask request) (funext ih)
  | say n next ih =>
      change (g n).foldr .say ((next.bind f).expandNotes g) =
        ((g n).foldr .say (next.expandNotes g)).bind _
      rw [ih, foldr_say_bind]
  | clock next ih => exact congrArg Dialogue.clock (funext ih)

theorem expandNotes_sayAll (g : ω -> List ω') (notes : List ω) (d : Dialogue ω α) :
    (notes.foldr .say d).expandNotes g = (notes.flatMap g).foldr .say (d.expandNotes g) := by
  induction notes with
  | nil => rfl
  | cons n notes ih =>
      rw [List.flatMap_cons, List.foldr_append, ← ih]
      rfl

theorem expandNotes_expandNotes {ω'' : Type} (f : ω -> List ω') (g : ω' -> List ω'')
    (d : Dialogue ω α) :
    (d.expandNotes f).expandNotes g = d.expandNotes fun n => (f n).flatMap g := by
  induction d with
  | done a => rfl
  | ask request next ih => exact congrArg (Dialogue.ask request) (funext ih)
  | say n next ih =>
      change ((f n).foldr .say (next.expandNotes f)).expandNotes g = _
      rw [expandNotes_sayAll, ih]
      rfl
  | clock next ih => exact congrArg Dialogue.clock (funext ih)

theorem expandNotes_mapNotes {ω'' : Type} (f : ω -> ω') (g : ω' -> List ω'') (d : Dialogue ω α) :
    (d.mapNotes f).expandNotes g = d.expandNotes fun n => g (f n) := by
  rw [mapNotes, expandNotes_expandNotes]
  congr 1
  funext n
  exact List.flatMap_singleton g (f n)

/-!
# Remarks in front of requests, along a sequence
-/

theorem announce_bind (g : Request -> List ω) (d : Dialogue ω α) (f : α -> Dialogue ω β) :
    (d >>= f).announce g = d.announce g >>= fun a => (f a).announce g := by
  rw [bind_eq, bind_eq]
  induction d with
  | done a => rfl
  | ask request next ih =>
      refine Eq.trans ?_ (foldr_say_bind (g request) _ _).symm
      exact congrArg (fun rest => (g request).foldr .say (Dialogue.ask request rest)) (funext ih)
  | say n next ih => exact congrArg (Dialogue.say n) ih
  | clock next ih => exact congrArg Dialogue.clock (funext ih)

theorem announce_noteAll (g : Request -> List ω) (notes : List ω) :
    (noteAll notes).announce g = noteAll notes := by
  induction notes with
  | nil => rfl
  | cons n notes ih => exact congrArg (Dialogue.say n) ih

/-!
# Remarks of one kind
-/

/-- Whatever a dialogue is told, the remarks that it makes have a property. -/
structure Says (d : Dialogue ω α) (P : ω -> Prop) : Prop where
  of_run : forall {σ : Type} (node : Node σ) (s : σ), forall n, n ∈ (d.run node s).notes -> P n

namespace Says

variable {d : Dialogue ω α} {f : α -> Dialogue ω β} {P : ω -> Prop} {Q : ω' -> Prop}

theorem imp {R : ω -> Prop} (hd : d.Says P) (h : forall n, P n -> R n) : d.Says R :=
  ⟨fun node s n hn => h n (hd.of_run node s n hn)⟩

protected theorem pure (a : α) : Says (pure a : Dialogue ω α) P := by
  constructor
  intro σ node s n hn
  cases hn

protected theorem request (r : Request) : Says (request r : Dialogue ω r.Reply) P := by
  constructor
  intro σ node s n hn
  cases hn

protected theorem now : Says (now : Dialogue ω Nat) P := by
  constructor
  intro σ node s n hn
  cases hn

protected theorem note {n : ω} (h : P n) : (note n).Says P := by
  constructor
  intro σ node s n' hn
  rw [List.mem_singleton.mp hn]
  exact h

theorem bind_gives {V : α -> Prop} (hd : d.Says P) (hvalue : d.Gives V)
    (hf : forall a, V a -> (f a).Says P) : (d >>= f).Says P := by
  constructor
  intro σ node s n hn
  rw [notes_bind] at hn
  rcases List.mem_append.mp hn with hn | hn
  · exact hd.of_run node s n hn
  · exact (hf _ (hvalue.value node s)).of_run node _ n hn

protected theorem bind (hd : d.Says P) (hf : forall a, (f a).Says P) : (d >>= f).Says P :=
  hd.bind_gives (V := fun _ => True) ⟨fun _ => trivial⟩ fun a _ => hf a

protected theorem map {g : α -> β} (hd : d.Says P) : (g <$> d).Says P := by
  rw [← bind_pure_comp]
  exact hd.bind fun _ => .pure _

protected theorem noteAll {notes : List ω} (h : forall n, n ∈ notes -> P n) :
    (noteAll notes).Says P := by
  constructor
  intro σ node s n hn
  rw [notes_noteAll] at hn
  exact h n hn

protected theorem expandNotes {g : ω -> List ω'} (hd : d.Says P)
    (hg : forall n, P n -> forall n', n' ∈ g n -> Q n') : (d.expandNotes g).Says Q := by
  constructor
  intro σ node s n hn
  rw [notes_expandNotes] at hn
  rcases List.mem_flatMap.mp hn with ⟨n', hn', hn⟩
  exact hg n' (hd.of_run node s n' hn') n hn

protected theorem mapNotes {g : ω -> ω'} (hd : d.Says P) (hg : forall n, P n -> Q (g n)) :
    (d.mapNotes g).Says Q := by
  apply hd.expandNotes
  intro n hn n' hn'
  rw [List.mem_singleton.mp hn']
  exact hg n hn

protected theorem announce {g : Request -> List ω} (hd : d.Says P)
    (hg : forall request n, n ∈ g request -> P n) : (d.announce g).Says P := by
  constructor
  intro σ node s n hn
  rcases mem_notes_announce hn with ⟨request, hn⟩ | hn
  · exact hg request n hn
  · exact hd.of_run node s n hn

end Says

end Dialogue

end FixtureProbe
