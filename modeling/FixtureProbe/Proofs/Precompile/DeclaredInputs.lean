import FixtureProbe.Proofs.Abi.Zeros
import FixtureProbe.Proofs.Precompile.Recognition

/-!
# Calls of functions that declare other inputs

A description may declare any inputs for the four functions. A call is encoded only for a function that
takes what the call gives it and nothing else, but it is recognised by the first argument alone. So what
is recognised can be encoded again exactly if no function takes more than the beginning of its inputs
tells.
-/

namespace FixtureProbe

open Abi

namespace Interface

/-!
# Two ways to look at the inputs
-/

/-- The function of a call takes the arguments of the call and nothing else. -/
def Fits (interface : Interface) (op : Operation) : Prop :=
  exists bits, (interface.function op).inputs = if op.argument.isSome then [.uint bits] else []

/-- Whether the first one of some inputs is a number. -/
def leadsWithNumber : List ParamType -> Bool
  | .uint _ :: _ => true
  | _ => false

/-- The inputs of the function of a call begin with a number just when the call has an id. -/
def Leads (interface : Interface) (op : Operation) : Prop :=
  leadsWithNumber (interface.function op).inputs = op.argument.isSome

variable {interface : Interface} {op op' : Operation} {data : Bytes}

theorem Fits.leads (h : interface.Fits op) : interface.Leads op := by
  rcases h with ⟨bits, hinputs⟩
  rw [Leads, hinputs]
  cases op.argument <;> rfl

theorem eq_of_name_eq (interface : Interface) (h : op'.name = op.name) :
    interface.function op' = interface.function op ∧
      op'.argument.isSome = op.argument.isSome := by
  cases op <;> cases op' <;> simp_all [Operation.name, Operation.argument, function]

theorem fits_iff_of_name_eq (h : op'.name = op.name) :
    interface.Fits op' ↔ interface.Fits op := by
  rcases eq_of_name_eq interface h with ⟨hfunction, hsome⟩
  rw [Fits, Fits, hfunction, hsome]

theorem leads_iff_of_name_eq (h : op'.name = op.name) :
    interface.Leads op' ↔ interface.Leads op := by
  rcases eq_of_name_eq interface h with ⟨hfunction, hsome⟩
  rw [Leads, Leads, hfunction, hsome]

/-!
# Encoding
-/

theorem haveTypes_arguments_iff (op : Operation) (types : List ParamType) :
    Token.haveTypes (arguments op) types = true ↔
      exists bits, types = if op.argument.isSome then [.uint bits] else [] := by
  rw [arguments]
  cases op.argument with
  | none =>
      cases types with
      | nil => exact ⟨fun _ => ⟨256, rfl⟩, fun _ => rfl⟩
      | cons type types =>
          constructor
          · intro h
            cases h
          · rintro ⟨bits, h⟩
            cases h
  | some id =>
      constructor
      · intro h
        rcases types with _ | ⟨type, _ | ⟨other, types⟩⟩
        · cases h
        · cases type with
          | uint bits => exact ⟨bits, rfl⟩
          | _ => cases h
        · cases type <;> cases h
      · rintro ⟨bits, rfl⟩
        rfl

theorem encodes_iff_fits (op : Operation) :
    (exists sent, interface.encode op = .ok sent) ↔ interface.Fits op := by
  rw [Fits, ← haveTypes_arguments_iff]
  constructor
  · rintro ⟨sent, hsent⟩
    rw [encode_eq, Function.encodeInput] at hsent
    split at hsent
    · next htypes => exact htypes
    · cases hsent
  · intro htypes
    exact ⟨_, encode_of_haveTypes htypes⟩

/-!
# Decoding
-/

/-- Call data begins with the selector of a call and has the id of the call for its first argument. -/
structure Recognises (interface : Interface) (data : Bytes) (op : Operation) : Prop where
  selector : (interface.function op).selector = data.take 4
  argument : exists tokens, (interface.function op).decodeInput (data.drop 4) = .ok tokens ∧
    firstId op.name tokens = .ok op.argument

theorem eq_of_mem_required {name : String} {f : Function} {argument : Option UInt64}
    (hmem : (name, f) ∈ interface.required) (h : Operation.ofName? name argument = some op) :
    name = op.name ∧ f = interface.function op ∧ argument = op.argument := by
  simp only [required, List.mem_cons, List.not_mem_nil, or_false, Prod.mk.injEq] at hmem
  rcases hmem with ⟨rfl, rfl⟩ | ⟨rfl, rfl⟩ | ⟨rfl, rfl⟩ | ⟨rfl, rfl⟩
  all_goals
    cases argument <;> cases h
    exact ⟨rfl, rfl, rfl⟩

theorem exists_of_decodeArguments {name : String} {f : Function}
    (h : decodeArguments name f data = .ok op) :
    exists tokens argument, f.decodeInput data = .ok tokens ∧
      firstId name tokens = .ok argument ∧ Operation.ofName? name argument = some op := by
  rcases exists_of_bind h with ⟨tokens, htokens, h⟩
  rcases exists_of_bind h with ⟨argument, hargument, h⟩
  split at h
  · next call hcall =>
    cases h
    refine ⟨tokens, argument, ?_, hargument, hcall⟩
    cases hdecoded : f.decodeInput data with
    | ok decoded =>
        rw [hdecoded] at htokens
        cases htokens
        rfl
    | error error =>
        rw [hdecoded] at htokens
        cases htokens
  · cases h

/-- Call data is refused for the sake of the description, or a call is recognised. -/
theorem decodeCall_cases (interface : Interface) (data : Bytes) :
    (exists reason, interface.decodeCall data = .error (.interface reason)) ∨
    (exists op, interface.decodeCall data = .ok op ∧ interface.Recognises data op) := by
  rw [decodeCall_eq]
  split
  · exact Or.inl ⟨_, rfl⟩
  split
  · next name f hfound =>
    have hselector : f.selector = data.take 4 := by
      simpa using List.find?_some hfound
    cases hread : decodeArguments name f (data.drop 4) with
    | error reason => exact Or.inl ⟨reason, rfl⟩
    | ok op =>
        rcases exists_of_decodeArguments hread with ⟨tokens, argument, htokens, hid, hcall⟩
        rcases eq_of_mem_required (List.mem_of_find?_eq_some hfound) hcall with ⟨rfl, rfl, rfl⟩
        exact Or.inr ⟨op, rfl, hselector, tokens, htokens, hid⟩
  · exact Or.inl ⟨_, rfl⟩

theorem recognises_of_decodeCall (h : interface.decodeCall data = .ok op) :
    interface.Recognises data op := by
  rcases decodeCall_cases interface data with ⟨reason, herror⟩ | ⟨op', hcall, hdata⟩
  · rw [h] at herror
    cases herror
  · rw [h] at hcall
    cases hcall
    exact hdata

theorem Recognises.decodeCall (h : interface.Recognises data op)
    (hdistinct : (interface.required.map (·.2.selector)).Nodup) :
    interface.decodeCall data = .ok op := by
  rcases h.argument with ⟨tokens, htokens, hid⟩
  rw [decodeCall_of_selector hdistinct h.selector, decodeArguments, htokens]
  change ((firstId op.name tokens >>= _) : Except String Operation).mapError _ = _
  rw [hid, ok_bind, Operation.ofName?_name_argument]
  rfl

/-!
# The first argument
-/

/-- Arguments begin with a number that stands in front of the data, or there is no id. -/
theorem leadsWithNumber_cases {types : List ParamType} {tokens : List Token}
    (h : decode types data = .ok tokens) :
    (leadsWithNumber types = true ∧
      exists w rest, tokens = .uint w :: rest ∧ Holds data 0 w.toBytes) ∨
    (leadsWithNumber types = false ∧ forall name, firstId name tokens = .ok none) := by
  rcases values_of_decode h with ⟨next, hvalues⟩
  cases types with
  | nil =>
      cases hvalues
      exact Or.inr ⟨rfl, fun _ => rfl⟩
  | cons type types =>
      rcases Decode.exists_of_values_cons hvalues with ⟨token, middle, rest, rfl, hfound, -⟩
      cases hfound with
      | uint bits hholds => exact Or.inl ⟨rfl, _, rest, rfl, hholds⟩
      | _ => exact Or.inr ⟨rfl, fun _ => rfl⟩

theorem Recognises.leads (h : interface.Recognises data op) : interface.Leads op := by
  rcases h.argument with ⟨tokens, htokens, hid⟩
  rcases leadsWithNumber_cases htokens with ⟨hleads, w, rest, rfl, -⟩ | ⟨hleads, hnone⟩
  · rw [firstId] at hid
    split at hid
    · injection hid with hid
      rw [Leads, hleads, ← hid]
      rfl
    · cases hid
  · rw [hnone] at hid
    injection hid with hid
    rw [Leads, hleads, ← hid]
    rfl

theorem firstId_of_zeros {types : List ParamType} {tokens : List Token} {count : Nat}
    (name : String) (h : decode types (zeros count) = .ok tokens) :
    firstId name tokens = .ok (if leadsWithNumber types then some 0 else none) := by
  rcases leadsWithNumber_cases h with ⟨hleads, w, rest, rfl, hholds⟩ | ⟨hleads, hnone⟩
  · rw [eq_zero_of_holds_zeros hholds, hleads]
    rfl
  · rw [hnone, hleads]
    rfl

theorem exists_with_zero (op : Operation) :
    exists op' : Operation, op'.name = op.name ∧ op'.argument = op.argument.map fun _ => 0 := by
  cases op with
  | getMatch id => exact ⟨.getMatch 0, rfl, rfl⟩
  | getLeague id => exact ⟨.getLeague 0, rfl, rfl⟩
  | getTeam id => exact ⟨.getTeam 0, rfl, rfl⟩
  | getUnfinishedMatches => exact ⟨.getUnfinishedMatches, rfl, rfl⟩

theorem Leads.exists_recognises (h : interface.Leads op) :
    exists data op', op'.name = op.name ∧ interface.Recognises data op' := by
  -- Zeros are arguments of any function, and the id in front of them is zero if there is one.
  rcases exists_decode_zeros (interface.function op).inputs with ⟨count, tokens, htokens⟩
  rcases exists_with_zero op with ⟨op', hname, hargument⟩
  have hselector := (interface.function op).length_selector
  refine ⟨(interface.function op).selector ++ zeros count, op', hname, ?_⟩
  constructor
  · rw [(eq_of_name_eq interface hname).1, ← hselector, List.take_left]
  · refine ⟨tokens, ?_, ?_⟩
    · rw [(eq_of_name_eq interface hname).1, ← hselector, List.drop_left]
      exact htokens
    · rw [firstId_of_zeros op'.name htokens, h, hargument]
      cases op.argument <;> rfl

/-!
# What is recognised and what can be encoded
-/

/-- How recognising a call and encoding it go together for functions with any inputs. -/
structure Recovery (interface : Interface) : Prop where
  /-- A call is encoded just when its function takes what it gives. -/
  encodes_iff : forall op, (exists sent, interface.encode op = .ok sent) ↔ interface.Fits op
  /-- All call data with the selector of a function is refused just when its inputs begin otherwise. -/
  refuses_iff : forall op,
    (forall data, data.take 4 = (interface.function op).selector ->
      exists reason, interface.decodeCall data = .error (.interface reason)) ↔ ¬ interface.Leads op
  /-- What is recognised can be encoded just when no inputs go on behind their beginning. -/
  recovers_iff :
    (forall data op, interface.decodeCall data = .ok op ->
      exists sent, interface.encode op = .ok sent) ↔
        forall op, interface.Leads op ↔ interface.Fits op

theorem Recognises.name_eq (h : interface.Recognises data op')
    (hdistinct : (interface.required.map (·.2.selector)).Nodup)
    (hselector : data.take 4 = (interface.function op).selector) : op'.name = op.name := by
  have hfound := find?_selector hdistinct op
  rw [← hselector, ← h.selector, find?_selector hdistinct op'] at hfound
  exact congrArg Prod.fst (Option.some.inj hfound)

theorem refuses_iff_not_leads (hdistinct : (interface.required.map (·.2.selector)).Nodup)
    (op : Operation) :
    (forall data, data.take 4 = (interface.function op).selector ->
      exists reason, interface.decodeCall data = .error (.interface reason)) ↔
        ¬ interface.Leads op := by
  constructor
  · intro hrefuses hleads
    rcases hleads.exists_recognises with ⟨data, op', hname, hdata⟩
    have hselector : data.take 4 = (interface.function op).selector := by
      rw [← hdata.selector, (eq_of_name_eq interface hname).1]
    rcases hrefuses data hselector with ⟨reason, herror⟩
    rw [hdata.decodeCall hdistinct] at herror
    cases herror
  · intro hleads data hselector
    rcases decodeCall_cases interface data with herror | ⟨op', -, hdata⟩
    · exact herror
    · have hname := hdata.name_eq hdistinct hselector
      exact absurd ((leads_iff_of_name_eq hname).mp hdata.leads) hleads

theorem recovers_iff_fits (hdistinct : (interface.required.map (·.2.selector)).Nodup) :
    (forall data op, interface.decodeCall data = .ok op ->
      exists sent, interface.encode op = .ok sent) ↔
        forall op, interface.Leads op ↔ interface.Fits op := by
  constructor
  · intro hrecovers op
    refine ⟨fun hleads => ?_, Fits.leads⟩
    rcases hleads.exists_recognises with ⟨data, op', hname, hdata⟩
    have hsent := hrecovers data op' (hdata.decodeCall hdistinct)
    exact (fits_iff_of_name_eq hname).mp ((encodes_iff_fits op').mp hsent)
  · intro hfits data op hcall
    have hleads := (recognises_of_decodeCall hcall).leads
    exact (encodes_iff_fits op).mpr ((hfits op).mp hleads)

theorem recovery_of_distinct (interface : Interface)
    (hdistinct : (interface.required.map (·.2.selector)).Nodup) : interface.Recovery where
  encodes_iff := encodes_iff_fits
  refuses_iff := refuses_iff_not_leads hdistinct
  recovers_iff := recovers_iff_fits hdistinct

/-- A description in which a match is asked for with two numbers. -/
def crowdedText : String :=
  "[[\"function\",\"getLeague\",[\x7b\"name\":\"\",\"type\":\"uint\"\x7d],[],null]," ++
  "[\"function\",\"getMatch\",[\x7b\"name\":\"\",\"type\":\"uint\"\x7d," ++
  "\x7b\"name\":\"\",\"type\":\"uint\"\x7d],[],null]," ++
  "[\"function\",\"getTeam\",[\x7b\"name\":\"\",\"type\":\"uint\"\x7d],[],null]," ++
  "[\"function\",\"getUnfinishedMatches\",[],[],null]]"

def crowded : Interface :=
  let fixture : Function := ⟨"getMatch", [.uint 256, .uint 256], []⟩
  let league : Function := ⟨"getLeague", [.uint 256], []⟩
  let team : Function := ⟨"getTeam", [.uint 256], []⟩
  let unfinished : Function := ⟨"getUnfinishedMatches", [], []⟩
  ⟨[league, fixture, team, unfinished], fixture, league, team, unfinished, rfl, rfl, rfl, rfl⟩

set_option maxRecDepth 3000 in
theorem load_crowdedText : load crowdedText = .ok crowded := by
  let entry (name : String) (inputs : List Json) : Json :=
    .array [.string "function", .string name, .array inputs, .array [], .null]
  let input : Json := .object [("name", .string ""), ("type", .string "uint")]
  let description : Json := .array [entry "getLeague" [input], entry "getMatch" [input, input],
    entry "getTeam" [input], entry "getUnfinishedMatches" []]
  have hread : Json.parse? crowdedText = some description := by
    cbv
  have hfunctions : Description.functions? description = some crowded.functions := by
    rfl
  have hsorted : Description.sortByName crowded.functions = crowded.functions :=
    List.mergeSort_of_pairwise (by decide +kernel)
  refine load_of_functions ?_ hsorted
  rw [hread, Option.bind_some, hfunctions]

/-- Three of the four functions are those of the embedded interface. -/
theorem selectors_crowded : (crowded.required.map (·.2.selector)).Nodup := by
  have hfixture : crowded.getMatch.selector = [0x10, 0x7c, 0xfe, 0x51] := by
    decide +kernel
  have hembedded := selectors_embedded
  simp only [required, List.map_cons, List.map_nil, List.cons.injEq, and_true] at hembedded ⊢
  obtain ⟨-, hleague, hteam, hunfinished⟩ := hembedded
  rw [hfixture, show crowded.getLeague.selector = _ from hleague,
    show crowded.getTeam.selector = _ from hteam,
    show crowded.getUnfinishedMatches.selector = _ from hunfinished]
  decide

/-- With distinct selectors a call may still be recognised that cannot be encoded. -/
theorem not_recovers_crowded : load crowdedText = .ok crowded ∧
    (crowded.required.map (·.2.selector)).Nodup ∧
    crowded.decodeCall (crowded.getMatch.selector ++ zeros 64) = .ok (.getMatch 0) ∧
    crowded.encode (.getMatch 0) = .error (.lookup "getMatch" (some 0) "Invalid data") := by
  refine ⟨load_crowdedText, selectors_crowded, ?_, rfl⟩
  have hselector := crowded.getMatch.length_selector
  have hdata : Recognises crowded (crowded.getMatch.selector ++ zeros 64) (.getMatch 0) := by
    constructor
    · rw [← hselector, List.take_left]
      rfl
    · refine ⟨[.uint 0, .uint 0], ?_, rfl⟩
      rw [← hselector, List.drop_left]
      rfl
  exact hdata.decodeCall selectors_crowded

theorem recovery_of_distinct_crowded :
    (crowded.required.map (·.2.selector)).Nodup ∧ crowded.Recovery ∧
      ¬ (forall op, crowded.Leads op ↔ crowded.Fits op) := by
  refine ⟨selectors_crowded, recovery_of_distinct crowded selectors_crowded, ?_⟩
  intro h
  rcases (h (.getMatch 0)).mp rfl with ⟨bits, hinputs⟩
  cases hinputs

end Interface

end FixtureProbe
