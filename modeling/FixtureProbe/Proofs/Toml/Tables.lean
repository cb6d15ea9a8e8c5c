import FixtureProbe.Proofs.Sequence
import FixtureProbe.Toml.Table
import Mathlib.Data.List.Basic

/-!
# How tables grow

A document is read statement by statement, and every statement leaves what those before it have
said: no key is lost, and a value that is no open table stays as it is. What a statement adds begins
with a name, and this name was free before or belonged to a table that is still open.
-/

namespace FixtureProbe
namespace Toml

/-- A value to which no more entries can be added. -/
def IsClosed : Toml -> Prop
  | .table .inline _ => True
  | .table _ _ | .tables _ => False
  | _ => True

namespace Table

/-- All that a table holds is held by another one; only open tables may have changed. -/
def Grows (before after : Table) : Prop :=
  forall key value, before.lookup key = some value ->
    exists value', after.lookup key = some value' ∧ (value.IsClosed -> value' = value)

/-- A table has been extended by something whose path begins with a name. -/
structure Adds (name : String) (before after : Table) : Prop where
  grows : Grows before after
  present : (after.lookup name).isSome = true
  free : forall value, before.lookup name = some value -> ¬ value.IsClosed

theorem Grows.refl (entries : Table) : Grows entries entries :=
  fun _ value hvalue => ⟨value, hvalue, fun _ => rfl⟩

theorem Grows.trans {before between after : Table} (h : Grows before between)
    (h' : Grows between after) : Grows before after := by
  intro key value hvalue
  rcases h key value hvalue with ⟨value', hvalue', hsame⟩
  rcases h' key value' hvalue' with ⟨value'', hvalue'', hsame'⟩
  refine ⟨value'', hvalue'', ?_⟩
  intro hclosed
  have heq := hsame hclosed
  rw [← heq] at hclosed
  rw [hsame' hclosed, heq]

theorem Grows.isSome {before after : Table} (h : Grows before after) {key : String}
    (hkey : (before.lookup key).isSome = true) : (after.lookup key).isSome = true := by
  rcases Option.isSome_iff_exists.mp hkey with ⟨value, hvalue⟩
  rcases h key value hvalue with ⟨value', hvalue', -⟩
  rw [hvalue']
  rfl

/-!
# New entries and entries that are replaced
-/

variable {entries after : Table} {key name : String} {value old : Toml}

/-- What is found behind an entry that is passed over. -/
theorem lookup_cons (name k : String) (found : Toml) (entries : Table) :
    List.lookup k ((name, found) :: entries) =
      if k = name then some found else entries.lookup k := by
  by_cases h : k = name
  · rw [List.lookup_cons, if_pos h, h, beq_self_eq_true]
  · rw [List.lookup_cons, if_neg h, beq_false_of_ne h]

theorem lookup_eq_none_iff : entries.lookup key = none ↔ key ∉ entries.map Prod.fst := by
  induction entries with
  | nil => simp
  | cons entry entries ih =>
      rcases entry with ⟨name, found⟩
      rw [lookup_cons, List.map_cons, List.mem_cons, not_or, ← ih]
      by_cases h : key = name
      · simp [h]
      · simp [h]

theorem mem_of_lookup (h : entries.lookup key = some value) : (key, value) ∈ entries := by
  induction entries with
  | nil => cases h
  | cons entry entries ih =>
      rcases entry with ⟨name, found⟩
      rw [lookup_cons] at h
      split_ifs at h with hname
      · cases h
        rw [hname]
        exact List.mem_cons_self
      · exact List.mem_cons_of_mem _ (ih h)

theorem lookup_of_mem (hnodup : (entries.map Prod.fst).Nodup) (hmem : (key, value) ∈ entries) :
    entries.lookup key = some value := by
  induction entries with
  | nil => cases hmem
  | cons entry entries ih =>
      rcases entry with ⟨name, found⟩
      rw [List.map_cons, List.nodup_cons] at hnodup
      rw [lookup_cons]
      rcases List.mem_cons.mp hmem with heq | hothers
      · cases heq
        exact if_pos rfl
      · have hne : key ≠ name := by
          rintro rfl
          exact hnodup.1 (List.mem_map.mpr ⟨_, hothers, rfl⟩)
        rw [if_neg hne]
        exact ih hnodup.2 hothers

theorem lookup_append_single (entries : Table) (key k : String) (value : Toml) :
    (entries ++ [(key, value)]).lookup k =
      (entries.lookup k).or (if k = key then some value else none) := by
  rw [List.lookup_append, lookup_cons]
  rfl

theorem lookup_replace (entries : Table) (key k : String) (value : Toml) :
    (entries.replace key value).lookup k =
      if k = key then (entries.lookup k).map fun _ => value else entries.lookup k := by
  induction entries with
  | nil => simp [replace]
  | cons entry entries ih =>
      rcases entry with ⟨name, found⟩
      unfold replace at ih ⊢
      rw [List.map_cons, lookup_cons]
      by_cases hname : name = key
      · rw [if_pos hname, lookup_cons, ih, hname]
        split_ifs <;> rfl
      · rw [if_neg hname, lookup_cons, ih]
        split_ifs with hk hkey
        · exact absurd (hk.symm.trans hkey) hname
        · rfl
        · rfl
        · rfl

theorem lookup_filter (entries : Table) (key k : String) :
    (entries.filter (·.1 ≠ key)).lookup k = if k = key then none else entries.lookup k := by
  induction entries with
  | nil => simp
  | cons entry entries ih =>
      rcases entry with ⟨name, found⟩
      rw [lookup_cons]
      by_cases hname : name = key
      · rw [List.filter_cons_of_neg (by simpa using hname), ih, hname]
        split_ifs <;> rfl
      · rw [List.filter_cons_of_pos (by simpa using hname), lookup_cons, ih]
        split_ifs with hk hkey
        · exact absurd (hk.symm.trans hkey) hname
        · rfl
        · rfl
        · rfl

theorem adds_append (hfree : entries.lookup key = none) (value : Toml) :
    Adds key entries (entries ++ [(key, value)]) := by
  constructor
  · intro k found hfound
    refine ⟨found, ?_, fun _ => rfl⟩
    rw [lookup_append_single, hfound]
    rfl
  · rw [lookup_append_single, hfree]
    simp
  · intro found hfound
    rw [hfree] at hfound
    cases hfound

theorem adds_replace (hold : entries.lookup key = some old) (hopen : ¬ old.IsClosed)
    (value : Toml) : Adds key entries (entries.replace key value) := by
  constructor
  · intro k found hfound
    rw [lookup_replace]
    by_cases hk : k = key
    · rw [if_pos hk, hfound]
      rw [hk, hold] at hfound
      cases hfound
      exact ⟨value, rfl, fun hclosed => absurd hclosed hopen⟩
    · rw [if_neg hk]
      exact ⟨found, hfound, fun _ => rfl⟩
  · rw [lookup_replace, if_pos rfl, hold]
    rfl
  · intro found hfound
    rw [hold] at hfound
    cases hfound
    exact hopen

/-!
# Statements
-/

/-- A new entry comes last, and its key was free. -/
theorem free_of_add {table : Option (List String)} (h : add table key value entries = .ok after) :
    entries.lookup key = none ∧ after = entries ++ [(key, value)] := by
  unfold add at h
  split_ifs at h with hkey
  cases h
  exact ⟨Option.not_isSome_iff_eq_none.mp hkey, rfl⟩

theorem adds_of_add {table : Option (List String)} (h : add table key value entries = .ok after) :
    Adds key entries after := by
  rcases free_of_add h with ⟨hfree, rfl⟩
  exact adds_append hfree value

/-- A pair adds the first name of its key. -/
theorem adds_of_insert {isInline : Bool} {table : Option (List String)} {passed path : List String}
    (h : insert isInline table key value passed path entries = .ok after) :
    Adds (path.head?.getD key) entries after := by
  cases path with
  | nil => exact adds_of_add h
  | cons name path =>
      unfold insert at h
      split at h
      · next hfree =>
        rcases exists_of_bind h with ⟨inner, -, hafter⟩
        cases hafter
        exact adds_append hfree _
      · next hfound =>
        rcases exists_of_bind h with ⟨inner, -, hafter⟩
        cases hafter
        exact adds_replace hfound id _
      · next hfound =>
        split_ifs at h
        · cases h
        · rcases exists_of_bind h with ⟨inner, -, hafter⟩
          cases hafter
          exact adds_replace hfound id _
      · next hfound =>
        split_ifs at h
        · cases h
        · rcases exists_of_bind h with ⟨inner, -, hafter⟩
          cases hafter
          exact adds_replace hfound id _
      · cases h
      · split at h <;> cases h

/-- A change where names lead adds the first of them, or what the change itself adds. -/
theorem adds_of_within {change : Table -> Except Cause Table} {passed path : List String}
    (hchange : forall after, change entries = .ok after -> Adds key entries after)
    (h : within change passed path entries = .ok after) :
    Adds (path.head?.getD key) entries after := by
  cases path with
  | nil => exact hchange after h
  | cons name path =>
      unfold within at h
      split at h
      · next hfree =>
        rcases exists_of_bind h with ⟨inner, -, hafter⟩
        cases hafter
        exact adds_append hfree _
      · cases h
      · next origin inner hnotInline hfound =>
        rcases exists_of_bind h with ⟨_, -, hafter⟩
        cases hafter
        have hopen : ¬ (Toml.table origin inner).IsClosed := by
          cases origin with
          | inline => exact (hnotInline rfl).elim
          | header => exact id
          | implied => exact id
          | dotted => exact id
        exact adds_replace hfound hopen _
      · next hfound =>
        rcases exists_of_bind h with ⟨inner, -, hafter⟩
        cases hafter
        exact adds_replace hfound id _
      · cases h

theorem adds_of_define {path : List String} (h : define path key entries = .ok after) :
    Adds key entries after := by
  unfold define at h
  split at h
  · next hfree =>
    cases h
    exact adds_append hfree _
  · next inner hfound =>
    cases h
    constructor
    · intro k found hk
      rw [lookup_append_single, lookup_filter]
      by_cases hkey : k = key
      · rw [hkey, hfound] at hk
        cases hk
        exact ⟨.table .header inner, by simp [hkey], False.elim⟩
      · exact ⟨found, by simp [hkey, hk], fun _ => rfl⟩
    · rw [lookup_append_single, lookup_filter]
      simp
    · intro found hk
      rw [hfound] at hk
      cases hk
      exact id
  · cases h

theorem adds_of_addElement {path : List String} (h : addElement path key entries = .ok after) :
    Adds key entries after := by
  unfold addElement at h
  split at h
  · next hfree =>
    cases h
    exact adds_append hfree _
  · next hfound =>
    cases h
    exact adds_replace hfound id _
  · cases h

theorem adds_of_addPair {current path : List String}
    (h : addPair current path key value entries = .ok after) :
    Adds (current.head?.getD (path.head?.getD key)) entries after :=
  adds_of_within (fun _ hafter => adds_of_insert hafter) h

theorem adds_of_addHeader {path : List String} (h : addHeader path key entries = .ok after) :
    Adds (path.head?.getD key) entries after :=
  adds_of_within (fun _ hafter => adds_of_define hafter) h

theorem adds_of_addElementHeader {path : List String}
    (h : addElementHeader path key entries = .ok after) :
    Adds (path.head?.getD key) entries after :=
  adds_of_within (fun _ hafter => adds_of_addElement hafter) h

end Table

end Toml
end FixtureProbe
