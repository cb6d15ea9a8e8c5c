import FixtureProbe.Proofs.Precompile.DeclaredInputs
import FixtureProbe.Proofs.Precompile.FieldOrder
import FixtureProbe.Proofs.Precompile.IdList

/-!
# Numbers in answers and in call data

The contract counts with 256 bits and the probe with 64. A number that the probe takes from an answer or
from call data is the number that is spelled there, all bits of it: whatever outputs and inputs the
interface declares, the words of the numbers stand at places that can be computed from the data.
-/

namespace FixtureProbe

open Abi

/-- The number that a token is. -/
def Abi.Token.number? : Token -> Option Nat
  | .uint w => some w.toNat
  | _ => none

@[simp]
theorem number?_idToken (id : UInt64) : (idToken id).number? = some id.toNat := by
  rw [idToken, Token.number?, Word.toNat_ofUInt64]

@[simp]
theorem number?_string (s : String) : (Token.string s).number? = none :=
  rfl

@[simp]
theorem number?_bool (b : Bool) : (Token.bool b).number? = none :=
  rfl

/-!
# Records
-/

/-- The places of the numbers among fields of one word each, of which the first stands at `place`. -/
def WireField.numberPlaces : (place : Nat) -> List WireField -> List Nat
  | _, [] => []
  | place, ⟨_, .uint⟩ :: wire => place :: numberPlaces (place + 32) wire
  | place, _ :: wire => numberPlaces (place + 32) wire

/-- The place of the first field: a sole tuple may stand behind an offset. -/
def Fields.start? (outputs : List ParamType) (data : Bytes) : Option Nat :=
  match outputs with
  | [.tuple components] => if ParamType.anyDynamic components then wordAt? data 0 else some 0
  | _ => some 0

namespace WireField

variable {data : Bytes} {wire : List WireField} {tokens : List Token}

theorem numberPlaces_add (count place : Nat) (wire : List WireField) :
    numberPlaces (count + place) wire = (numberPlaces place wire).map (count + ·) := by
  induction wire generalizing place with
  | nil => rfl
  | cons field wire ih =>
      rcases field with ⟨name, _ | _ | _⟩
      · rw [numberPlaces, numberPlaces, List.map_cons, Nat.add_assoc, ih]
      all_goals exact ih (place + 32)

/-- What a field holds takes one word, and if the field is a number this is the word. -/
theorem spells_of_found {field : WireField} {token : Token} {type : ParamType}
    {place next : Nat} (hkind : field.kind.describes token = true)
    (hfound : Decode.Found data place type token next)
    (hrest : Spells data (numberPlaces next wire) (tokens.filterMap Token.number?)) :
    Spells data (numberPlaces place (field :: wire))
      ((token :: tokens).filterMap Token.number?) := by
  rcases field with ⟨name, _ | _ | _⟩
  · cases hfound with
    | uint bits hholds => exact .cons (wordAt?_of_word hholds) hrest
    | _ => cases hkind
  · cases hfound with
    | string hbytes => exact hrest
    | _ => cases hkind
  · cases hfound with
    | bool hbool => exact hrest
    | _ => cases hkind

theorem spells_of_values {types : List ParamType} {place next : Nat}
    (hvalues : Decode.values types data place = .ok (tokens, next))
    (haccepts : AcceptsAll wire tokens) :
    Spells data (numberPlaces place wire) (tokens.filterMap Token.number?) := by
  induction haccepts generalizing types place with
  | nil => exact .nil
  | cons hfirst _ ih =>
      cases types with
      | nil => cases hvalues
      | cons type types =>
          rcases Decode.exists_of_values_cons hvalues with ⟨_, middle, _, heq, hfound, hothers⟩
          cases heq
          exact spells_of_found hfirst.kind hfound (ih hothers)

end WireField

namespace Fields

open WireField (AcceptsAll numberPlaces)

variable {data : Bytes} {wire : List WireField} {tokens : List Token} {outputs : List ParamType}

/-- Values are a sole tuple only if a sole tuple is what the outputs say. -/
theorem unwrap_eq_self {next : Nat} (hvalues : Decode.values outputs data 0 = .ok (tokens, next))
    (hnot : forall components, outputs = [.tuple components] -> False) : unwrap tokens = tokens := by
  unfold unwrap
  split
  · next items =>
    cases outputs with
    | nil => cases hvalues
    | cons type types =>
        rcases Decode.exists_of_values_cons hvalues with ⟨token, middle, rest, heq, hfound, hrest⟩
        cases heq
        cases types with
        | cons other others =>
            rcases Decode.exists_of_values_cons hrest with ⟨token, _, rest, hrest, -, -⟩
            cases hrest
        | nil =>
            cases hfound with
            | tuple => exact (hnot _ rfl).elim
  · rfl

theorem exists_start_of_decode (hdecode : decode outputs data = .ok tokens)
    (haccepts : AcceptsAll wire (unwrap tokens)) :
    exists start, start? outputs data = some start ∧
      Spells data (numberPlaces start wire) ((unwrap tokens).filterMap Token.number?) := by
  rcases values_of_decode hdecode with ⟨next, hvalues⟩
  unfold start?
  split
  · next components =>
    rcases Decode.exists_of_values_cons hvalues with ⟨token, middle, rest, rfl, hfound, hrest⟩
    cases hrest
    cases hfound with
    | tuple henter hitems =>
        cases hdynamic : ParamType.anyDynamic components with
        | false =>
            rw [hdynamic] at henter
            cases henter
            exact ⟨0, rfl, WireField.spells_of_values hitems haccepts⟩
        | true =>
            rw [hdynamic] at henter
            rcases exists_of_bind henter with ⟨start, hstart, henter⟩
            split at henter <;> cases henter
            have hspells := (WireField.spells_of_values hitems haccepts).of_drop
            rw [← WireField.numberPlaces_add] at hspells
            exact ⟨start, wordAt?_of_size hstart, hspells⟩
  · next hnot =>
    rw [unwrap_eq_self hvalues hnot] at haccepts ⊢
    exact ⟨0, rfl, WireField.spells_of_values hvalues haccepts⟩

end Fields

theorem FieldReader.ReadsInOrder.exists_start {α : Type} {reader : FieldReader α}
    {wire : List WireField} {fields : α -> List Token} (h : reader.ReadsInOrder wire fields)
    {interface : Interface} {op : Operation} {data : Bytes} {record : α}
    (hrecord : interface.decodeAnswer op (Fields.read wire.length reader) data = .ok record) :
    exists start, Fields.start? (interface.function op).outputs data = some start ∧
      Spells data (WireField.numberPlaces start wire)
        ((fields record).filterMap Token.number?) := by
  rcases (Interface.decodeAnswer_eq_ok_iff h).mp hrecord with ⟨tokens, hdecode, hfields⟩
  rw [← hfields]
  exact Fields.exists_start_of_decode hdecode (hfields ▸ h.acceptsAll_fields record)

/-!
# Lists of ids
-/

namespace Fields

theorem eq_idToken_of_item {token : Token} {id : UInt64} (h : item token = .ok id) :
    token = idToken id := by
  cases token with
  | uint w => rw [idToken, eq_ofUInt64_of_item h]
  | _ => cases h

theorem exists_of_ids {tokens : List Token} {ids : List UInt64} (h : Fields.ids tokens = .ok ids) :
    exists rest, tokens = .array (ids.map idToken) :: rest := by
  unfold Fields.ids at h
  split at h
  · next items rest =>
    refine ⟨rest, ?_⟩
    congr 2
    induction items generalizing ids with
    | nil =>
        cases h
        rfl
    | cons token items ih =>
        rw [List.mapM_cons] at h
        rcases exists_of_bind h with ⟨id, hid, h⟩
        rcases exists_of_bind h with ⟨others, hothers, h⟩
        cases h
        rw [List.map_cons, eq_idToken_of_item hid, ih hothers]
  · cases h

end Fields

theorem Abi.spells_of_repeated {data : Bytes} {type : ParamType} {count place next : Nat}
    {ids : List UInt64}
    (h : Decode.repeated (Decode.value type data) count place = .ok (ids.map idToken, next)) :
    count = ids.length ∧ Spells data (List.range' place count 32) (ids.map UInt64.toNat) := by
  induction count generalizing place ids with
  | zero =>
      have hids : [] = ids.map idToken := congrArg Prod.fst (Except.ok.inj h)
      rw [List.map_eq_nil_iff.mp hids.symm]
      exact ⟨rfl, .nil⟩
  | succ count ih =>
      rcases Decode.exists_of_repeated_succ h with ⟨token, middle, rest, htokens, hfound, hrest⟩
      cases ids with
      | nil => cases htokens
      | cons id ids =>
          rw [List.map_cons, List.cons.injEq] at htokens
          rcases htokens with ⟨rfl, rfl⟩
          cases hfound with
          | uint bits hholds =>
              rcases ih hrest with ⟨hcount, hspells⟩
              have hword := wordAt?_of_word hholds
              rw [Word.toNat_ofUInt64] at hword
              rw [hcount, List.length_cons]
              exact ⟨rfl, .cons hword (hcount ▸ hspells)⟩

namespace Interface

variable {interface : Interface} {data : Bytes}

theorem exists_of_decodeAnswer {α : Type} {op : Operation} {a : α}
    {read : List Token -> Except ReadError α} (h : interface.decodeAnswer op read data = .ok a) :
    exists tokens, decode (interface.function op).outputs data = .ok tokens ∧
      read tokens = .ok a := by
  cases hdecode : decode (interface.function op).outputs data with
  | error e =>
      rw [decodeAnswer_of_error hdecode] at h
      cases h
  | ok tokens =>
      rw [decodeAnswer_of_ok hdecode] at h
      cases hread : read tokens with
      | error e =>
          rw [hread] at h
          cases h
      | ok found =>
          rw [hread] at h
          cases h
          exact ⟨tokens, rfl, hread⟩

/-- An offset leads to the number of ids, and the ids are the words behind it. -/
theorem exists_start_of_decodeUnfinished {ids : List UInt64}
    (h : interface.decodeUnfinished data = .ok ids) :
    exists start, wordAt? data 0 = some start ∧ wordAt? data start = some ids.length ∧
      Spells data (List.range' (start + 32) ids.length 32) (ids.map UInt64.toNat) := by
  rcases exists_of_decodeAnswer h with ⟨tokens, hdecode, hids⟩
  rcases Fields.exists_of_ids hids with ⟨rest, rfl⟩
  rcases found_of_decode hdecode with ⟨type, others, next, -, hfound⟩
  cases hfound with
  | array hstart hlength hitems =>
      rcases Abi.spells_of_repeated hitems with ⟨rfl, hspells⟩
      have hbehind := hspells.of_drop
      rw [List.map_add_range'] at hbehind
      exact ⟨_, wordAt?_of_size hstart, wordAt?_of_size hlength, hbehind⟩

/-!
# Call data
-/

theorem wordAt?_of_decodeCall {op : Operation} {id : UInt64}
    (h : interface.decodeCall data = .ok op) (hid : op.argument = some id) :
    wordAt? data 4 = some id.toNat := by
  rcases (recognises_of_decodeCall h).argument with ⟨tokens, hdecode, hfirst⟩
  rw [hid] at hfirst
  rcases leadsWithNumber_cases hdecode with ⟨-, w, rest, rfl, hholds⟩ | ⟨-, hnone⟩
  · rw [firstId] at hfirst
    split at hfirst
    · next found hnarrow =>
      cases hfirst
      rw [← Word.toUInt64?_eq_some_iff.mp hnarrow]
      exact wordAt?_of_drop (wordAt?_of_word hholds)
    · cases hfirst
  · rw [hnone] at hfirst
    cases hfirst

end Interface

end FixtureProbe
