import FixtureProbe.Precompile.Interface
import FixtureProbe.Proofs.Text.Utf8
import FixtureProbe.Proofs.Abi.Layout
import Mathlib.Data.List.Permutation

/-!
# The order of entries in a description

A description lists functions, events and other things in some order. Loading it sorts the functions by
name and keeps functions of one name in the order of the text, so the result is fixed by what there is
under each name: two lists of functions that have the same functions under each name, in the same order,
are sorted into the same list. Hence entries may be moved past each other freely, as long as functions of
one name are not.
-/

namespace FixtureProbe

open Abi Abi.Description

namespace Abi.Description

/-!
# Sorted functions
-/

theorem nameLe_trans (f g h : Function) (hfg : nameLe f g = true) (hgh : nameLe g h = true) :
    nameLe f h = true := by
  rw [nameLe, decide_eq_true_eq] at hfg hgh ⊢
  exact String.le_trans hfg hgh

theorem nameLe_total (f g : Function) : (nameLe f g || nameLe g f) = true := by
  rw [nameLe, nameLe, Bool.or_eq_true, decide_eq_true_eq, decide_eq_true_eq]
  exact String.le_total f.name g.name

theorem sortByName_perm (functions : List Function) : (sortByName functions).Perm functions :=
  List.mergeSort_perm functions nameLe

/-- The names of functions, in order. -/
def names (functions : List Function) : List String :=
  functions.map (·.name)

/-- The functions with a given name, in order. -/
def overloads (name : String) (functions : List Function) : List Function :=
  functions.filter (·.name = name)

theorem overloads_sortByName (name : String) (functions : List Function) :
    overloads name (sortByName functions) = overloads name functions := by
  have hsorted : (overloads name functions).Pairwise fun f g => nameLe f g = true := by
    rw [overloads, List.pairwise_filter]
    apply List.pairwise_of_forall
    intro f g hf hg
    rw [decide_eq_true_eq] at hf hg
    simp only [nameLe, hf, hg, String.le_refl, decide_true]
  have hsublist : (overloads name functions).Sublist (sortByName functions) :=
    List.sublist_mergeSort nameLe_trans nameLe_total hsorted List.filter_sublist
  have hfiltered := hsublist.filter (·.name = name)
  simp only [overloads, List.filter_filter, Bool.and_self] at hfiltered
  have hlength := ((sortByName_perm functions).filter (·.name = name)).length_eq
  exact (hfiltered.eq_of_length hlength.symm).symm

theorem name_le_of_mem {f g : Function} {rest : List Function}
    (h : (f :: rest).Pairwise fun f g => nameLe f g = true) (hg : g ∈ f :: rest) :
    f.name ≤ g.name := by
  rcases List.mem_cons.mp hg with rfl | hrest
  · exact String.le_refl _
  · exact of_decide_eq_true (List.rel_of_pairwise_cons h hrest)

/-- The first name of a sorted list is not behind the first name of another one that has all its names. -/
theorem name_le_of_overloads {f g : Function} {rest rest' : List Function}
    (hsorted : (f :: rest).Pairwise fun f g => nameLe f g = true)
    (h : overloads g.name (f :: rest) = overloads g.name (g :: rest')) : f.name ≤ g.name := by
  have hg : g ∈ overloads g.name (g :: rest') := by
    simp [overloads]
  rw [← h] at hg
  exact name_le_of_mem hsorted (List.mem_filter.mp hg).1

/-- A sorted list is fixed by what it has under each name. -/
theorem eq_of_overloads_eq {functions functions' : List Function}
    (hsorted : functions.Pairwise fun f g => nameLe f g = true)
    (hsorted' : functions'.Pairwise fun f g => nameLe f g = true)
    (h : forall name, overloads name functions = overloads name functions') :
    functions = functions' := by
  induction functions generalizing functions' with
  | nil =>
      cases functions' with
      | nil => rfl
      | cons g rest' => simpa [overloads] using h g.name
  | cons f rest ih =>
      cases functions' with
      | nil => simpa [overloads] using h f.name
      | cons g rest' =>
          -- Neither first name is behind the other one, so both lists begin with the same function.
          have hname : f.name = g.name := String.le_antisymm
            (name_le_of_overloads hsorted (h g.name))
            (name_le_of_overloads hsorted' (h f.name).symm)
          have hfirst := h f.name
          simp only [overloads, List.filter_cons, hname, decide_true, if_true,
            List.cons.injEq] at hfirst
          rcases hfirst with ⟨rfl, -⟩
          rw [ih hsorted.of_cons hsorted'.of_cons]
          intro name
          have hrest := h name
          simp only [overloads, List.filter_cons] at hrest
          split at hrest
          · exact (List.cons.inj hrest).2
          · exact hrest

theorem sortByName_sorted (functions : List Function) :
    (sortByName functions).Pairwise fun f g => nameLe f g = true :=
  List.pairwise_mergeSort nameLe_trans nameLe_total functions

/-- Neighbours may change places in front of a filter for one key, unless they have the same key. -/
theorem filter_swap {α β : Type} [DecidableEq β] {key : α -> β} {a b : α} (h : key a ≠ key b)
    (rest : List α) (k : β) :
    (b :: a :: rest).filter (key · = k) = (a :: b :: rest).filter (key · = k) := by
  by_cases ha : key a = k
  · have hb : key b ≠ k := fun hsame => h (ha.trans hsame.symm)
    simp [ha, hb]
  · simp [List.filter_cons, ha]

/-- Functions may be moved past each other before they are sorted, unless they have the same name. -/
theorem sortByName_eq_of_overloads_eq {functions functions' : List Function}
    (h : forall name, overloads name functions = overloads name functions') :
    sortByName functions = sortByName functions' := by
  apply eq_of_overloads_eq (sortByName_sorted functions) (sortByName_sorted functions')
  intro name
  rw [overloads_sortByName, overloads_sortByName, h]

/-!
# Entries and their functions
-/

/-- The name of the function that an entry describes, if it describes one. -/
def functionName? (entry : Json) : Option String := do
  let (kind, members) ← entry? entry
  guard (kind = "function")
  return baseName (← asString? (← required? members "name"))

/-- The function that an entry describes, if it describes one. -/
def described? (entry : Json) : Option Function :=
  (entryFunction? entry).join

theorem name_of_function? {members : Members} {f : Function} (h : function? members = some f) :
    exists name, required? members "name" = some (.string name) ∧ f.name = baseName name := by
  simp only [function?, Option.bind_eq_bind, Option.bind_eq_some_iff] at h
  rcases h with ⟨value, hvalue, name, hname, inputs, -, types, -, outputs, -, types', -, h⟩
  rcases h with ⟨constant, -, -, -, mutability, -, -, -, hf⟩
  cases hf
  cases value with
  | string text =>
      cases hname
      exact ⟨_, hvalue, rfl⟩
  | _ => cases hname

theorem functionName?_eq {entry : Json} (h : (entryFunction? entry).isSome) :
    functionName? entry = (described? entry).map (·.name) := by
  rw [Option.isSome_iff_exists] at h
  rcases h with ⟨found, hfound⟩
  rw [described?, hfound]
  simp only [entryFunction?, Option.bind_eq_bind, Option.bind_eq_some_iff] at hfound
  rcases hfound with ⟨⟨kind, members⟩, hentry, hfound⟩
  rw [functionName?, hentry]
  by_cases hkind : kind = "function"
  · rw [if_pos hkind] at hfound
    rcases Option.bind_eq_some_iff.mp hfound with ⟨f, hf, hfound⟩
    cases hfound
    rcases name_of_function? hf with ⟨name, hname, hbase⟩
    subst hkind
    simp [hname, asString?, hbase]
  · rw [if_neg hkind] at hfound
    rcases Option.bind_eq_some_iff.mp hfound with ⟨_, -, hfound⟩
    cases hfound
    simp [hkind]

theorem functions?_array {entries : List Json}
    (h : forall entry, entry ∈ entries -> (entryFunction? entry).isSome) :
    functions? (.array entries) = some (entries.filterMap described?) := by
  have hread : entries.mapM entryFunction? =
      some (entries.map fun entry => described? entry) := by
    induction entries with
    | nil => rfl
    | cons entry entries ih =>
        have hrest := ih fun other hother => h other (List.mem_cons_of_mem entry hother)
        rcases Option.isSome_iff_exists.mp (h entry List.mem_cons_self) with ⟨found, hfound⟩
        rw [List.mapM_cons, hfound, hrest, List.map_cons, described?, hfound]
        rfl
  change (entries.mapM entryFunction?).bind _ = _
  rw [hread, Option.bind_some, List.filterMap_map]
  rfl
/-- What there is under a name comes from the entries of functions with that name. -/
theorem overloads_filterMap_described? (name : String) {entries : List Json}
    (h : forall entry, entry ∈ entries -> (entryFunction? entry).isSome) :
    overloads name (entries.filterMap described?) =
      (entries.filter (functionName? · = some name)).filterMap described? := by
  induction entries with
  | nil => rfl
  | cons entry entries ih =>
      have hrest := ih fun other hother => h other (List.mem_cons_of_mem entry hother)
      have hname := functionName?_eq (h entry List.mem_cons_self)
      cases hdescribed : described? entry with
      | none =>
          rw [hdescribed, Option.map_none] at hname
          rw [List.filterMap_cons_none hdescribed, hrest,
            List.filter_cons_of_neg (by simp [hname])]
      | some f =>
          rw [hdescribed, Option.map_some] at hname
          rw [List.filterMap_cons_some hdescribed]
          by_cases hf : f.name = name
          · rw [overloads, List.filter_cons_of_pos (by simpa using hf),
              List.filter_cons_of_pos (by simp [hname, hf]), List.filterMap_cons_some hdescribed,
              ← hrest]
            rfl
          · rw [overloads, List.filter_cons_of_neg (by simpa using hf),
              List.filter_cons_of_neg (by simp [hname, hf]), ← hrest]
            rfl

theorem names_filterMap_described? {entries : List Json}
    (h : forall entry, entry ∈ entries -> (entryFunction? entry).isSome) :
    names (entries.filterMap described?) = entries.filterMap functionName? := by
  induction entries with
  | nil => rfl
  | cons entry entries ih =>
      have hrest := ih fun other hother => h other (List.mem_cons_of_mem entry hother)
      have hname := functionName?_eq (h entry List.mem_cons_self)
      cases hdescribed : described? entry with
      | none =>
          rw [hdescribed, Option.map_none] at hname
          rw [List.filterMap_cons_none hdescribed, List.filterMap_cons_none hname, hrest]
      | some f =>
          rw [hdescribed, Option.map_some] at hname
          rw [List.filterMap_cons_some hdescribed, List.filterMap_cons_some hname, ← hrest]
          rfl

end Abi.Description

namespace Interface

/-!
# Loading
-/

/-- The text about a function that is missing. -/
def missingText (name : String) : String :=
  "function '" ++ name ++ "' is missing"

section Loading

variable {functions : List Function} {name : String}

theorem require_of_mem (h : name ∈ names functions) :
    exists f, require (sortByName functions) name = .ok f := by
  rcases List.mem_map.mp h with ⟨f, hf, hname⟩
  have hfound : (find? (sortByName functions) name).isSome := by
    rw [find?, List.find?_isSome]
    exact ⟨f, (sortByName_perm functions).mem_iff.mpr hf, by simpa using hname⟩
  rcases Option.isSome_iff_exists.mp hfound with ⟨found, hfound⟩
  exact ⟨⟨found, hfound⟩, require_of_find hfound⟩

theorem require_of_not_mem (h : name ∉ names functions) :
    require (sortByName functions) name = .error (missingText name) := by
  apply require_of_not_found
  rw [find?, List.find?_eq_none]
  intro f hf hname
  apply h
  rw [names, List.mem_map]
  exact ⟨f, (sortByName_perm functions).mem_iff.mp hf, by simpa using hname⟩

/-- The functions make an interface, or the first name that none of them has is told. -/
theorem ofFunctions_cases (functions : List Function) :
    (exists interface, ofFunctions functions = .ok interface ∧
      interface.functions = sortByName functions ∧
      requiredNames.find? (· ∉ names functions) = none) ∨
    (exists name, ofFunctions functions = .error (missingText name) ∧
      requiredNames.find? (· ∉ names functions) = some name) := by
  unfold ofFunctions
  dsimp only
  by_cases hfixture : "getMatch" ∈ names functions
  · rcases require_of_mem hfixture with ⟨fixture, hfound⟩
    rw [hfound, ok_bind]
    by_cases hleague : "getLeague" ∈ names functions
    · rcases require_of_mem hleague with ⟨league, hfound⟩
      rw [hfound, ok_bind]
      by_cases hteam : "getTeam" ∈ names functions
      · rcases require_of_mem hteam with ⟨team, hfound⟩
        rw [hfound, ok_bind]
        by_cases hunfinished : "getUnfinishedMatches" ∈ names functions
        · rcases require_of_mem hunfinished with ⟨unfinished, hfound⟩
          rw [hfound, ok_bind]
          exact Or.inl ⟨_, rfl, rfl, by simp [requiredNames, *]⟩
        · rw [require_of_not_mem hunfinished]
          exact Or.inr ⟨_, rfl, by simp [requiredNames, *]⟩
      · rw [require_of_not_mem hteam]
        exact Or.inr ⟨_, rfl, by simp [requiredNames, *]⟩
    · rw [require_of_not_mem hleague]
      exact Or.inr ⟨_, rfl, by simp [requiredNames, *]⟩
  · rw [require_of_not_mem hfixture]
    exact Or.inr ⟨_, rfl, by simp [requiredNames, *]⟩

end Loading

/-- What is loaded from well-formed entries, as far as the names of their functions say: an interface, or
the failure about the first name that is missing. -/
structure LoadedFrom (entries : List Json) (outcome : Except ProbeError Interface) : Prop where
  accepted_iff : (exists interface, outcome = .ok interface) ↔
    forall name, name ∈ requiredNames -> name ∈ entries.filterMap functionName?
  missing_iff : forall e, outcome = .error e ↔
    exists name, requiredNames.find? (· ∉ entries.filterMap functionName?) = some name ∧
      e = .interface ("function '" ++ name ++ "' is missing")
  /-- The names are sorted by their bytes. -/
  sorted : forall interface, outcome = .ok interface ->
    (interface.functionNames.map Utf8.encode).Pairwise (· ≤ ·)
  /-- Every function is there as often as an entry describes one of its name. -/
  complete : forall interface, outcome = .ok interface ->
    interface.functionNames.Perm (entries.filterMap functionName?)

section Texts

variable {text : String} {entries : List Json}

theorem load_eq (hread : Json.parse? text = some (.array entries))
    (hwell : forall entry, entry ∈ entries -> (entryFunction? entry).isSome) :
    load text = (ofFunctions (entries.filterMap described?)).mapError fun reason =>
      .interface reason := by
  rw [load, parse, hread, Option.bind_some, functions?_array hwell]
  dsimp only
  cases ofFunctions (entries.filterMap described?) with
  | ok interface => rfl
  | error reason => rfl

theorem loadedFrom_load (hread : Json.parse? text = some (.array entries))
    (hwell : forall entry, entry ∈ entries -> (entryFunction? entry).isSome) :
    LoadedFrom entries (load text) := by
  have hload := load_eq hread hwell
  have hnames := names_filterMap_described? hwell
  rcases ofFunctions_cases (entries.filterMap described?) with
    ⟨interface, hinterface, hfunctions, hnone⟩ | ⟨name, herror, hfirst⟩
  · rw [hinterface] at hload
    rw [hnames] at hnone
    rw [hload]
    constructor
    · constructor
      · intro _ name hname
        simpa using List.find?_eq_none.mp hnone name hname
      · intro _
        exact ⟨interface, rfl⟩
    · intro e
      constructor
      · intro he
        cases he
      · rintro ⟨name, hname, -⟩
        rw [hnone] at hname
        cases hname
    · rintro _ ⟨⟩
      rw [functionNames, hfunctions, List.pairwise_map, List.pairwise_map]
      apply (sortByName_sorted _).imp
      intro f g hle
      exact Utf8.encode_le_iff.mpr (of_decide_eq_true hle)
    · rintro _ ⟨⟩
      rw [functionNames, hfunctions, ← hnames]
      exact (sortByName_perm _).map (·.name)
  · rw [herror] at hload
    rw [hnames] at hfirst
    rw [hload]
    constructor
    · constructor
      · rintro ⟨_, ⟨⟩⟩
      · intro hall
        have hmissing := List.find?_some hfirst
        exact absurd (hall name (List.mem_of_find?_eq_some hfirst)) (by simpa using hmissing)
    · intro e
      constructor
      · rintro ⟨⟩
        exact ⟨name, hfirst, rfl⟩
      · rintro ⟨name', hfirst', rfl⟩
        rw [hfirst] at hfirst'
        cases hfirst'
        rfl
    · rintro _ ⟨⟩
    · rintro _ ⟨⟩

end Texts

/-- Descriptions with the same entries are loaded as the same interface or fail alike, so that names, call
data and answers are what they are whatever the order of the entries is, as long as functions of one name
keep theirs. -/
theorem load_reordered {text text' : String} {entries entries' : List Json}
    (hread : Json.parse? text = some (.array entries))
    (hread' : Json.parse? text' = some (.array entries'))
    (hwell : forall entry, entry ∈ entries -> (entryFunction? entry).isSome)
    (hperm : entries'.Perm entries)
    (horder : forall name, entries'.filter (functionName? · = some name) =
      entries.filter (functionName? · = some name)) :
    load text' = load text ∧ LoadedFrom entries (load text) := by
  have hwell' : forall entry, entry ∈ entries' -> (entryFunction? entry).isSome := by
    intro entry hentry
    exact hwell entry (hperm.mem_iff.mp hentry)
  have hsorted : sortByName (entries'.filterMap described?) =
      sortByName (entries.filterMap described?) := by
    apply sortByName_eq_of_overloads_eq
    intro name
    rw [overloads_filterMap_described? name hwell', overloads_filterMap_described? name hwell,
      horder]
  have hloaded : ofFunctions (entries'.filterMap described?) =
      ofFunctions (entries.filterMap described?) := by
    rw [ofFunctions, hsorted, ofFunctions]
  constructor
  · rw [load_eq hread' hwell', hloaded, load_eq hread hwell]
  · exact loadedFrom_load hread hwell

/-- A function that takes nothing and returns nothing, as an entry. -/
def plainEntry (name : String) : Json :=
  .array [.string "function", .string name, .array [], .array [], .null]

/-- Two functions of one name in their order, an entry of no function, and the functions last that are
sorted to the front. -/
def scrambledText : String :=
  "[[\"function\",\"getTeam\",[],[],null],[\"function\",\"getUnfinishedMatches\",[],[],null]," ++
  "[\"function\",\"getTeam(old)\",[],[],null],[\"fallback\"]," ++
  "[\"function\",\"getMatch\",[],[],null],[\"function\",\"getLeague\",[],[],null]]"

def rescrambledText : String :=
  "[[\"function\",\"getUnfinishedMatches\",[],[],null],[\"function\",\"getTeam\",[],[],null]," ++
  "[\"function\",\"getTeam(old)\",[],[],null],[\"fallback\"]," ++
  "[\"function\",\"getMatch\",[],[],null],[\"function\",\"getLeague\",[],[],null]]"

set_option maxRecDepth 3000 in
theorem load_reordered_scrambled :
    load rescrambledText = load scrambledText ∧
      exists interface, load scrambledText = .ok interface ∧ interface.functionNames.Perm
        ["getTeam", "getUnfinishedMatches", "getTeam", "getMatch", "getLeague"] := by
  let rest := [plainEntry "getTeam(old)", .array [.string "fallback"], plainEntry "getMatch",
    plainEntry "getLeague"]
  let entries := plainEntry "getTeam" :: plainEntry "getUnfinishedMatches" :: rest
  let entries' := plainEntry "getUnfinishedMatches" :: plainEntry "getTeam" :: rest
  have hread : Json.parse? scrambledText = some (.array entries) := by
    cbv
  have hread' : Json.parse? rescrambledText = some (.array entries') := by
    cbv
  have hwell : forall entry, entry ∈ entries -> (entryFunction? entry).isSome := by
    decide +kernel
  have hdistinct : functionName? (plainEntry "getTeam") ≠
      functionName? (plainEntry "getUnfinishedMatches") := by
    decide +kernel
  have horder (name : String) : entries'.filter (functionName? · = some name) =
      entries.filter (functionName? · = some name) := filter_swap hdistinct rest (some name)
  have h := load_reordered hread hread' hwell (.swap _ _ rest) horder
  have hnames : entries.filterMap functionName? =
      ["getTeam", "getUnfinishedMatches", "getTeam", "getMatch", "getLeague"] := by
    cbv
  refine ⟨h.1, ?_⟩
  rcases h.2.accepted_iff.mpr (by rw [hnames]; decide) with ⟨interface, hinterface⟩
  refine ⟨interface, hinterface, ?_⟩
  rw [← hnames]
  exact h.2.complete interface hinterface

end Interface

end FixtureProbe
