import FixtureProbe.Proofs.Precompile.Records

/-!
# Records with and without their tuple

A contract may return a record as one tuple or as a value for each field. The two answers differ by one
word: a tuple that holds a text stands behind an offset, and with the usual offset it stands right behind
that word. This module compares an interface with the one that declares the fields themselves. What the
first makes of an answer behind the usual offset, the second makes of the answer itself, however
malformed it is: the same record, or the same failure.
-/

namespace FixtureProbe

open Abi

/-!
# Interfaces without tuples
-/

/-- The function that returns the fields of its sole tuple one by one. -/
def Abi.Function.flattened (f : Abi.Function) : Abi.Function :=
  match f.outputs with
  | [.tuple components] => { f with outputs := components }
  | _ => f

theorem Abi.Function.name_flattened (f : Abi.Function) : f.flattened.name = f.name := by
  unfold flattened
  split <;> rfl

theorem Interface.find?_map_flattened {functions : List Abi.Function} {name : String}
    {f : Abi.Function} (h : find? functions name = some f) :
    find? (functions.map Abi.Function.flattened) name = some f.flattened := by
  have hnames : (fun f : Abi.Function => decide (f.name = name)) ∘ Abi.Function.flattened =
      fun f => decide (f.name = name) := by
    funext f
    exact congrArg (fun other => decide (other = name)) f.name_flattened
  rw [find?] at h ⊢
  rw [List.find?_map, hnames, h]
  rfl

/-- The interface in which every function returns the fields of its sole tuple one by one. -/
def Interface.flattened (interface : Interface) : Interface where
  functions := interface.functions.map Abi.Function.flattened
  getMatch := interface.getMatch.flattened
  getLeague := interface.getLeague.flattened
  getTeam := interface.getTeam.flattened
  getUnfinishedMatches := interface.getUnfinishedMatches.flattened
  find_getMatch := find?_map_flattened interface.find_getMatch
  find_getLeague := find?_map_flattened interface.find_getLeague
  find_getTeam := find?_map_flattened interface.find_getTeam
  find_getUnfinishedMatches := find?_map_flattened interface.find_getUnfinishedMatches

theorem Abi.Function.outputs_flattened {f : Abi.Function} {components : List ParamType}
    (h : f.outputs = [.tuple components]) : f.flattened.outputs = components := by
  rw [flattened, h]

theorem Interface.outputs_function_flattened {interface : Interface} {op : Operation}
    {components : List ParamType} (h : (interface.function op).outputs = [.tuple components]) :
    (interface.flattened.function op).outputs = components := by
  have hfunction : interface.flattened.function op = (interface.function op).flattened := by
    cases op <;> rfl
  rw [hfunction]
  exact Abi.Function.outputs_flattened h

/-!
# Decoding behind the usual offset
-/

namespace Abi

/-- The parts of a tuple with a text are read from the bytes behind the usual offset. -/
theorem decode_tuple_behind_offset {components : List ParamType}
    (hdynamic : ParamType.anyDynamic components = true) (data : Bytes) :
    decode [.tuple components] (natWord 32 ++ data) =
      (Decode.values components data 0).map fun read => [.tuple read.1] := by
  have hholds : Holds (natWord 32 ++ data) 0 (natWord 32) := (Holds.self _).left
  have hle : 32 ≤ (natWord 32 ++ data).length := by
    rw [List.length_append, length_natWord]
    exact Nat.le_add_right _ _
  have hdrop : (natWord 32 ++ data).drop 32 = data :=
    List.drop_left' (length_natWord 32)
  have henter : Decode.enter true (natWord 32 ++ data) 0 = .ok (data, 0) := by
    rw [Decode.enter, if_pos rfl, hholds.size (by decide), ok_bind, if_pos hle, hdrop]
    rfl
  have hne : natWord 32 ++ data ≠ [] := by
    intro hnil
    rw [hnil] at hle
    cases hle
  rw [decode, if_neg (fun hempty => hne hempty.1), Decode.values, Decode.value]
  dsimp only
  rw [hdynamic, henter, ok_bind]
  cases Decode.values components data 0 with
  | error e => rfl
  | ok read => rfl

/-- As many values are read as there are types. -/
theorem Decode.length_of_values {types : List ParamType} {data : Bytes} {offset next : Nat}
    {tokens : List Token} (h : values types data offset = .ok (tokens, next)) :
    tokens.length = types.length := by
  induction types generalizing offset tokens next with
  | nil =>
      cases h
      rfl
  | cons type types ih =>
      rcases exists_of_bind h with ⟨first, hfirst, h⟩
      rcases exists_of_bind h with ⟨others, hothers, h⟩
      cases h
      rw [List.length_cons, List.length_cons, ih hothers]

end Abi

theorem Fields.unwrap_of_length_ne_one {tokens : List Token} (h : tokens.length ≠ 1) :
    unwrap tokens = tokens := by
  unfold unwrap
  split
  · contradiction
  · rfl

namespace Interface

/-!
# Answers with and without the tuple
-/

/-- Two decoders of the answers to one call read alike, the first behind the usual offset: they agree on
every answer that has a byte at all, and neither finds a record where there is none. -/
structure ReadAlike {α : Type} (op : Operation) (tupled flat : Bytes -> Outcome α) : Prop where
  agree : forall data, data ≠ [] -> tupled (natWord 32 ++ data) = flat data
  tupled_empty : exists reason, tupled (natWord 32) = .error (.lookup op.name op.argument reason)
  flat_empty : exists reason, flat [] = .error (.lookup op.name op.argument reason)

variable {α : Type} {interface : Interface} {op : Operation} {components : List ParamType}

/-- A record of more than one field, one of them dynamic, may do without its tuple. A sole field might be
taken for a tuple in turn, and static fields would not stand behind an offset. -/
theorem decodeAnswer_flattened (houtputs : (interface.function op).outputs = [.tuple components])
    (hdynamic : ParamType.anyDynamic components = true) (hcount : components.length ≠ 1)
    (count : Nat) (reader : FieldReader α) {data : Bytes} (hne : data ≠ []) :
    interface.decodeAnswer op (Fields.read count reader) (natWord 32 ++ data) =
      interface.flattened.decodeAnswer op (Fields.read count reader) data := by
  have hbehind := decode_tuple_behind_offset hdynamic data
  have hflat : decode (interface.flattened.function op).outputs data =
      (Decode.values components data 0).map Prod.fst := by
    rw [outputs_function_flattened houtputs, decode, if_neg (fun h => hne h.1)]
    cases Decode.values components data 0 <;> rfl
  rw [← houtputs] at hbehind
  cases hvalues : Decode.values components data 0 with
  | error e =>
      rw [hvalues] at hbehind hflat
      rw [decodeAnswer_of_error hbehind, decodeAnswer_of_error hflat]
  | ok values =>
      rw [hvalues] at hbehind hflat
      have hlength : values.1.length ≠ 1 := by
        rw [Decode.length_of_values hvalues]
        exact hcount
      -- The tuple is opened, and the separate values are left as they are: both give `values.1`.
      rw [decodeAnswer_of_ok hbehind, decodeAnswer_of_ok hflat, Fields.read, Fields.read,
        Fields.unwrap_of_length_ne_one hlength]
      rfl

theorem readAlike_flattened {e : CodecError}
    (houtputs : (interface.function op).outputs = [.tuple components])
    (hdynamic : ParamType.anyDynamic components = true) (hcount : components.length ≠ 1)
    (hempty : Decode.values components [] 0 = .error e) (count : Nat) (reader : FieldReader α) :
    ReadAlike op (interface.decodeAnswer op (Fields.read count reader))
      (interface.flattened.decodeAnswer op (Fields.read count reader)) where
  agree data hne := decodeAnswer_flattened houtputs hdynamic hcount count reader hne
  tupled_empty := by
    have hbehind := decode_tuple_behind_offset hdynamic []
    rw [← houtputs, hempty, List.append_nil] at hbehind
    exact ⟨_, decodeAnswer_of_error hbehind _⟩
  flat_empty := by
    -- Data without a byte is refused before it is read, unless all types take no bytes.
    have hflat : exists e, decode (interface.flattened.function op).outputs [] = .error e := by
      rw [outputs_function_flattened houtputs, decode, hempty]
      split
      · exact ⟨_, rfl⟩
      · exact ⟨e, rfl⟩
    rcases hflat with ⟨e', hflat⟩
    exact ⟨_, decodeAnswer_of_error hflat _⟩

/-- The embedded interface and the one without its tuples make the same of all answers. The latter is an
interface that is loaded from its own functions. -/
theorem embedded_readAlike (id : UInt64) :
    ofFunctions embedded.flattened.functions = .ok embedded.flattened ∧
    ReadAlike (.getMatch id) (embedded.decodeMatch id) (embedded.flattened.decodeMatch id) ∧
    ReadAlike (.getLeague id) (embedded.decodeLeague id) (embedded.flattened.decodeLeague id) ∧
    ReadAlike (.getTeam id) (embedded.decodeTeam id) (embedded.flattened.decodeTeam id) := by
  refine ⟨?_, ?_, ?_, ?_⟩
  · have hsorted : Abi.Description.sortByName embedded.flattened.functions =
        embedded.flattened.functions := by
      apply List.mergeSort_of_pairwise
      decide
    exact ofFunctions_of_sorted hsorted
  · exact readAlike_flattened rfl rfl (by decide) rfl 13 FieldReader.fixture
  · exact readAlike_flattened rfl rfl (by decide) rfl 3 FieldReader.league
  · exact readAlike_flattened rfl rfl (by decide) rfl 2 FieldReader.team

/-- A name that is not filled up to a whole word, and a name whose offset leads out of the answer. -/
theorem embedded_readAlike_samples :
    let sound := natWord 3 ++ natWord 64 ++ natWord 2 ++ Utf8.encode "FC"
    let broken := natWord 3 ++ natWord 64
    embedded.decodeTeam 3 (natWord 32 ++ sound) = embedded.flattened.decodeTeam 3 sound ∧
    embedded.flattened.decodeTeam 3 sound = .ok ⟨3, "FC"⟩ ∧
    embedded.decodeTeam 3 (natWord 32 ++ broken) = embedded.flattened.decodeTeam 3 broken ∧
    embedded.flattened.decodeTeam 3 broken =
      .error (.lookup "getTeam" (some 3) "decode: Invalid data") := by
  intro sound broken
  have h := (embedded_readAlike 3).2.2.2
  exact ⟨h.agree sound (by decide +kernel), by decide +kernel,
    h.agree broken (by decide +kernel), by decide +kernel⟩

end Interface

end FixtureProbe
