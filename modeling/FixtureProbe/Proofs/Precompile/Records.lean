import FixtureProbe.Precompile.Interface
import FixtureProbe.Proofs.Abi.RoundTrip

/-!
# Records on the wire

The contract answers with one tuple that holds the fields of a record, in an order of its own, or
with one array of ids. This module writes such answers and shows that reading them with the embedded
interface gives back what was written, for records of any content.
-/

namespace FixtureProbe

open Abi

/-!
# Answers of the contract
-/

/-- An id or a number as a field. -/
def idToken (id : UInt64) : Token :=
  .uint (Word.ofUInt64 id)

/-- The fields of a match in wire order. -/
def Match.fields (m : Match) : List Token :=
  [idToken m.id, idToken m.leagueId, .string m.name, .string m.time, idToken m.homeId,
    idToken m.awayId, idToken m.homeScore, idToken m.awayScore, .string m.homeName,
    .string m.awayName, .bool m.started, .bool m.finished, .bool m.cancelled]

/-- The fields of a league in wire order. -/
def League.fields (l : League) : List Token :=
  [idToken l.id, .string l.name, .string l.groupName]

/-- The fields of a team in wire order. -/
def Team.fields (t : Team) : List Token :=
  [idToken t.id, .string t.name]

/-- The answer that holds a record with the given fields. -/
def recordAnswer (fields : List Token) : Bytes :=
  encode [.tuple fields]

/-- The answer that holds a list of ids. -/
def idsAnswer (ids : List UInt64) : Bytes :=
  encode [.array (ids.map idToken)]

/-- A match with texts of no byte, of one whole word and of one byte more, and with an id that
needs all its bits. -/
def Match.sample : Match where
  id := 18446744073709551615
  leagueId := 39
  name := ""
  time := "2025-01-01 20:00:00 of local time"
  homeId := 1
  homeName := "Ærøskøbing – Ålborg 東京 ⚽"
  homeScore := 2
  awayId := 2
  awayName := "exactly as long as one word is !"
  awayScore := 0
  started := true
  finished := false
  cancelled := true

/-!
# Reading fields
-/

namespace FieldReader

theorem next_run (token : Token) (rest : List Token) :
    next.run (token :: rest) = .ok (some token, rest) :=
  rfl

theorem uint_run (field : String) (id : UInt64) (rest : List Token) :
    (uint field).run (idToken id :: rest) = .ok (id, rest) := by
  rw [uint, StateT.run_bind, next_run, ok_bind, idToken]
  dsimp only
  rw [Word.toUInt64?_ofUInt64]
  rfl

theorem string_run (field : String) (s : String) (rest : List Token) :
    (string field).run (.string s :: rest) = .ok (s, rest) :=
  rfl

theorem bool_run (field : String) (b : Bool) (rest : List Token) :
    (bool field).run (.bool b :: rest) = .ok (b, rest) :=
  rfl

theorem fixture_run (m : Match) : fixture.run m.fields = .ok (m, []) := by
  simp only [fixture, Match.fields, StateT.run_bind, uint_run, string_run, bool_run, ok_bind]
  rfl

theorem league_run (l : League) : league.run l.fields = .ok (l, []) := by
  simp only [league, League.fields, StateT.run_bind, uint_run, string_run, ok_bind]
  rfl

theorem team_run (t : Team) : team.run t.fields = .ok (t, []) := by
  simp only [team, Team.fields, StateT.run_bind, uint_run, string_run, ok_bind]
  rfl

end FieldReader

namespace Fields

theorem read_tuple {α : Type} {count : Nat} {reader : FieldReader α} {fields : List Token}
    {record : α} (hcount : fields.length = count) (hreader : reader.run fields = .ok (record, [])) :
    read count reader [.tuple fields] = .ok record := by
  rw [read, unwrap, if_pos hcount, hreader]
  rfl

theorem item_idToken (id : UInt64) : item (idToken id) = .ok id := by
  rw [idToken, item, Word.toUInt64?_ofUInt64]

theorem ids_array (ids : List UInt64) : Fields.ids [.array (ids.map idToken)] = .ok ids := by
  rw [Fields.ids]
  induction ids with
  | nil => rfl
  | cons id rest ih => rw [List.map_cons, List.mapM_cons, item_idToken, ok_bind, ih, ok_bind]; rfl

end Fields

/-!
# Fields fit the embedded interface
-/

theorem fits_idToken (id : UInt64) : Fits (idToken id) (.uint 256) :=
  .uint _ _

theorem fitsAll_map_idToken (ids : List UInt64) : FitsAll (ids.map idToken) (.uint 256) := by
  induction ids with
  | nil => exact .nil _
  | cons id rest ih => exact .cons (fits_idToken id) ih

theorem fitsEach_singleton {token : Token} {type : ParamType} (h : Fits token type) :
    FitsEach [token] [type] :=
  .cons h .nil

theorem Match.fits_fields (m : Match) :
    FitsEach [.tuple m.fields] Interface.embedded.getMatch.outputs := by
  apply fitsEach_singleton
  apply Fits.tuple
  repeat' constructor

theorem League.fits_fields (l : League) :
    FitsEach [.tuple l.fields] Interface.embedded.getLeague.outputs := by
  apply fitsEach_singleton
  apply Fits.tuple
  repeat' constructor

theorem Team.fits_fields (t : Team) :
    FitsEach [.tuple t.fields] Interface.embedded.getTeam.outputs := by
  apply fitsEach_singleton
  apply Fits.tuple
  repeat' constructor

theorem fits_ids {ids : List UInt64} (h : ids.length < UInt32.size) :
    FitsEach [.array (ids.map idToken)] Interface.embedded.getUnfinishedMatches.outputs := by
  apply fitsEach_singleton
  apply Fits.array
  · rw [List.length_map]
    exact h
  · exact fitsAll_map_idToken ids

/-!
# Answers read back
-/

/-- A sole dynamic value is more than nothing: it has an offset. -/
theorem encode_singleton_ne_nil {token : Token} (h : token.isDynamic = true) :
    encode [token] ≠ [] := by
  intro hnil
  have hlength := congrArg List.length hnil
  rw [encode, Part.sequence, List.length_append, Part.length_heads, Token.parts_cons] at hlength
  have hhead : 32 ≤ Part.headsSize (token.part :: Token.parts []) := by
    change 32 ≤ token.part.headSize + _
    rw [Token.headSize_part_of_dynamic h]
    exact Nat.le_add_right _ _
  rw [List.length_nil] at hlength
  omega

theorem headSize_part_idToken (id : UInt64) : (idToken id).part.headSize = 32 := by
  rw [Token.headSize_part_of_static rfl, idToken, Token.encode, Word.length_toBytes]

theorem anyDynamic_map_idToken (ids : List UInt64) :
    Token.anyDynamic (ids.map idToken) = false := by
  induction ids with
  | nil => rfl
  | cons id rest ih => exact ih

theorem length_sequence_ids (ids : List UInt64) :
    (Part.sequence (Token.parts (ids.map idToken))).length = 32 * ids.length := by
  rw [Part.length_sequence_of_allStatic (Token.allStatic_parts (anyDynamic_map_idToken ids))]
  induction ids with
  | nil => rfl
  | cons id rest ih =>
      change (idToken id).part.headSize + Part.headsSize (Token.parts (rest.map idToken)) = _
      rw [headSize_part_idToken, ih, List.length_cons]
      omega

/-- An offset, a length, and one word for each id. -/
theorem length_idsAnswer (ids : List UInt64) : (idsAnswer ids).length = 64 + 32 * ids.length := by
  have hids := length_sequence_ids ids
  rw [idsAnswer, encode, Part.sequence, List.length_append, Part.length_heads]
  simp only [Token.parts, Token.isDynamic, Token.encode, Part.headsSize, Part.headSize, Part.tails,
    List.foldr, if_true, List.length_append, length_natWord, hids, List.length_nil]
  omega

theorem Interface.decodeAnswer_of_error {α : Type} {interface : Interface} {op : Operation}
    {data : Bytes} {e : CodecError} (h : decode (interface.function op).outputs data = .error e)
    (read : List Token -> Except ReadError α) :
    interface.decodeAnswer op read data =
      .error (.lookup op.name op.argument (ReadError.codec e).message) := by
  rw [decodeAnswer_eq, Function.decodeOutput, h]
  rfl

theorem Interface.decodeAnswer_of_ok {α : Type} {interface : Interface} {op : Operation}
    {data : Bytes} {tokens : List Token}
    (h : decode (interface.function op).outputs data = .ok tokens)
    (read : List Token -> Except ReadError α) :
    interface.decodeAnswer op read data =
      (read tokens).mapError fun error => .ofOperation op error.message := by
  rw [decodeAnswer_eq, Function.decodeOutput, h]
  rfl

theorem Interface.decodeAnswer_encode {α : Type} {interface : Interface} {op : Operation}
    {token : Token} {read : List Token -> Except ReadError α} {record : α}
    (hfits : FitsEach [token] (interface.function op).outputs) (hdynamic : token.isDynamic = true)
    (hsize : (Abi.encode [token]).length < UInt32.size) (hread : read [token] = .ok record) :
    interface.decodeAnswer op read (Abi.encode [token]) = .ok record := by
  have hdecode := hfits.decode_encode (encode_singleton_ne_nil hdynamic) hsize
  rw [decodeAnswer_of_ok hdecode, hread]
  rfl

namespace Interface

theorem decodeMatch_recordAnswer (id : UInt64) {m : Match}
    (hsize : (recordAnswer m.fields).length < UInt32.size) :
    embedded.decodeMatch id (recordAnswer m.fields) = .ok m :=
  decodeAnswer_encode m.fits_fields rfl hsize
    (Fields.read_tuple rfl (FieldReader.fixture_run m))

theorem decodeLeague_recordAnswer (id : UInt64) {l : League}
    (hsize : (recordAnswer l.fields).length < UInt32.size) :
    embedded.decodeLeague id (recordAnswer l.fields) = .ok l :=
  decodeAnswer_encode l.fits_fields rfl hsize
    (Fields.read_tuple rfl (FieldReader.league_run l))

theorem decodeTeam_recordAnswer (id : UInt64) {t : Team}
    (hsize : (recordAnswer t.fields).length < UInt32.size) :
    embedded.decodeTeam id (recordAnswer t.fields) = .ok t :=
  decodeAnswer_encode t.fits_fields rfl hsize
    (Fields.read_tuple rfl (FieldReader.team_run t))

-- The offset of the tuple; in the tuple the id and the offset of the name; its length and its bytes.
example :
    embedded.decodeTeam 3 (natWord 32 ++ natWord 3 ++ natWord 64 ++ natWord 2 ++
      (Utf8.encode "FC" ++ List.replicate 30 0)) = .ok ⟨3, "FC"⟩ := by
  decide +kernel

theorem decodeUnfinished_idsAnswer {ids : List UInt64}
    (hsize : (idsAnswer ids).length < UInt32.size) :
    embedded.decodeUnfinished (idsAnswer ids) = .ok ids := by
  have hlength := length_idsAnswer ids
  have hcount : ids.length < UInt32.size := by
    omega
  exact decodeAnswer_encode (fits_ids hcount) rfl hsize (Fields.ids_array ids)

/-- Decoding undoes encoding for every record whose answer has a size that a word of 32 bits can
hold; the id is for the texts of failures only. -/
theorem decode_recordAnswer (id : UInt64) :
    (forall m : Match, (recordAnswer m.fields).length < UInt32.size ->
      embedded.decodeMatch id (recordAnswer m.fields) = .ok m) ∧
    (forall l : League, (recordAnswer l.fields).length < UInt32.size ->
      embedded.decodeLeague id (recordAnswer l.fields) = .ok l) ∧
    (forall t : Team, (recordAnswer t.fields).length < UInt32.size ->
      embedded.decodeTeam id (recordAnswer t.fields) = .ok t) := by
  refine ⟨?_, ?_, ?_⟩
  · intro m hsize
    exact decodeMatch_recordAnswer id hsize
  · intro l hsize
    exact decodeLeague_recordAnswer id hsize
  · intro t hsize
    exact decodeTeam_recordAnswer id hsize

theorem decode_recordAnswer_samples :
    embedded.decodeMatch 7 (recordAnswer Match.sample.fields) = .ok .sample ∧
    embedded.decodeLeague 0 (recordAnswer (League.mk 39 "Süper Lig" "").fields) =
      .ok ⟨39, "Süper Lig", ""⟩ ∧
    embedded.decodeTeam 3 (recordAnswer (Team.mk 3 "日本").fields) = .ok ⟨3, "日本"⟩ :=
  ⟨(decode_recordAnswer 7).1 .sample (by decide +kernel),
    (decode_recordAnswer 0).2.1 ⟨39, "Süper Lig", ""⟩ (by decide +kernel),
    (decode_recordAnswer 3).2.2 ⟨3, "日本"⟩ (by decide +kernel)⟩

end Interface

end FixtureProbe
