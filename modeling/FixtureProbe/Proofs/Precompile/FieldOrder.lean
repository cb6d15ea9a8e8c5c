import FixtureProbe.Proofs.Precompile.Records
import Mathlib.Data.List.Forall2

/-!
# Records field by field

An interface may declare any outputs, so any values may stand where a record is expected. They are read
in wire order, and each of them must be what its field holds. This module says for all values which
record they are, and when they are none, which of them is told to be wrong: the first one that is. Each
reader goes along the wire order of its record, which is shown field by field; the rest follows from
there being two kinds of answers that exclude each other, the records and the refused ones.
-/

namespace FixtureProbe

open Abi

/-!
# Fields on the wire
-/

/-- What a field of a record holds: a number, a text or a flag. -/
inductive FieldKind where
  | uint
  | string
  | bool

/-- A field of a record on the wire. -/
structure WireField where
  name : String
  kind : FieldKind

/-- The fields of a match in wire order. -/
def Match.wire : List WireField :=
  [⟨"id", .uint⟩, ⟨"leagueId", .uint⟩, ⟨"name", .string⟩, ⟨"time", .string⟩, ⟨"homeId", .uint⟩,
    ⟨"awayId", .uint⟩, ⟨"homeScore", .uint⟩, ⟨"awayScore", .uint⟩, ⟨"homeName", .string⟩,
    ⟨"awayName", .string⟩, ⟨"started", .bool⟩, ⟨"finished", .bool⟩, ⟨"cancelled", .bool⟩]

/-- The fields of a league in wire order. -/
def League.wire : List WireField :=
  [⟨"id", .uint⟩, ⟨"name", .string⟩, ⟨"groupName", .string⟩]

/-- The fields of a team in wire order. -/
def Team.wire : List WireField :=
  [⟨"id", .uint⟩, ⟨"name", .string⟩]

namespace FieldKind

/-- The kind as failures name it. -/
def text : FieldKind -> String
  | .uint => "uint"
  | .string => "string"
  | .bool => "bool"

/-- Whether a token is of the kind, whatever its value. -/
def describes : FieldKind -> Token -> Bool
  | .uint, .uint _ | .string, .string _ | .bool, .bool _ => true
  | _, _ => false

end FieldKind

namespace WireField

/-- The token is of the kind of the field, and a number is one of 64 bits. -/
structure Accepts (field : WireField) (token : Token) : Prop where
  kind : field.kind.describes token = true
  narrow : forall w, token = .uint w -> w.toNat < UInt64.size

/-- The token cannot be the value of the field, for the reason that is told. -/
inductive Refuses (field : WireField) : Token -> (reason : String) -> Prop where
  | kind {token : Token} (hkind : field.kind.describes token = false) :
      Refuses field token ("field '" ++ field.name ++ "': expected " ++ field.kind.text ++
        ", got " ++ Token.optionText (some token))
  | large {w : Word} (hkind : field.kind.describes (.uint w) = true)
      (hlarge : UInt64.size ≤ w.toNat) :
      Refuses field (.uint w) ("field '" ++ field.name ++ "': value exceeds u64")

variable {field : WireField} {token : Token} {reason reason' : String}

theorem Refuses.not_accepts (h : field.Refuses token reason) : ¬ field.Accepts token := by
  intro haccepts
  cases h with
  | kind hkind =>
      rw [haccepts.kind] at hkind
      cases hkind
  | large hkind hlarge => exact absurd (haccepts.narrow _ rfl) (Nat.not_lt.mpr hlarge)

theorem Refuses.unique (h : field.Refuses token reason) (h' : field.Refuses token reason') :
    reason = reason' := by
  cases h with
  | kind hkind =>
      cases h' with
      | kind hkind' => rfl
      | large hkind' hlarge' =>
          rw [hkind] at hkind'
          cases hkind'
  | large hkind hlarge =>
      cases h' with
      | kind hkind' =>
          rw [hkind] at hkind'
          cases hkind'
      | large hkind' hlarge' => rfl

/-- All tokens are values of the fields, one for one. -/
abbrev AcceptsAll : List WireField -> List Token -> Prop :=
  List.Forall₂ Accepts

/-- Some token cannot be the value of its field, and the first such token is refused for a reason. -/
inductive RefusesFirst : List WireField -> List Token -> (reason : String) -> Prop where
  | here {field : WireField} {token : Token} {reason : String} (wire : List WireField)
      (tokens : List Token) (h : field.Refuses token reason) :
      RefusesFirst (field :: wire) (token :: tokens) reason
  | later {field : WireField} {token : Token} {wire : List WireField} {tokens : List Token}
      {reason : String} (haccepts : field.Accepts token) (h : RefusesFirst wire tokens reason) :
      RefusesFirst (field :: wire) (token :: tokens) reason

variable {wire : List WireField} {tokens : List Token}

theorem RefusesFirst.not_acceptsAll (h : RefusesFirst wire tokens reason) :
    ¬ AcceptsAll wire tokens := by
  induction h with
  | here wire tokens h =>
      rintro (_ | ⟨haccepts, -⟩)
      exact h.not_accepts haccepts
  | later haccepts h ih =>
      rintro (_ | ⟨-, hrest⟩)
      exact ih hrest

theorem RefusesFirst.unique (h : RefusesFirst wire tokens reason)
    (h' : RefusesFirst wire tokens reason') : reason = reason' := by
  induction h with
  | here wire tokens h =>
      cases h' with
      | here _ _ h' => exact h.unique h'
      | later haccepts' h' => exact absurd haccepts' h.not_accepts
  | later haccepts h ih =>
      cases h' with
      | here _ _ h' => exact absurd haccepts h'.not_accepts
      | later haccepts' h' => exact ih h'

end WireField

open WireField (AcceptsAll RefusesFirst)

/-!
# Readers that go along the wire order
-/

namespace FieldReader

variable {α β : Type}

/-- The reader takes the value of one field, or fails because there is none. -/
def Takes (reader : FieldReader β) (field : WireField) (token : β -> Token) : Prop :=
  forall first rest,
    (exists b, reader.run (first :: rest) = .ok (b, rest) ∧ token b = first ∧ field.Accepts first) ∨
    (exists e, reader.run (first :: rest) = .error e ∧ field.Refuses first e.message)

theorem uint_run_of_some {name : String} {w : Word} {id : UInt64} (rest : List Token)
    (h : w.toUInt64? = some id) : (uint name).run (.uint w :: rest) = .ok (id, rest) := by
  rw [Word.eq_ofUInt64_of_toUInt64? h]
  exact uint_run name id rest

theorem uint_run_of_none {name : String} {w : Word} (rest : List Token)
    (h : w.toUInt64? = none) :
    (uint name).run (.uint w :: rest) = .error (.fieldTooLarge name) := by
  rw [uint, StateT.run_bind, next_run, ok_bind]
  dsimp only
  rw [h]
  rfl

theorem uint_takes (name : String) : (uint name).Takes ⟨name, .uint⟩ idToken := by
  intro first rest
  cases first with
  | uint w =>
      cases hnarrow : w.toUInt64? with
      | some id =>
          refine Or.inl ⟨id, uint_run_of_some rest hnarrow, ?_, rfl, ?_⟩
          · rw [idToken, Word.eq_ofUInt64_of_toUInt64? hnarrow]
          · rintro w' ⟨⟩
            rw [Word.toUInt64?_eq_some_iff.mp hnarrow]
            exact id.toNat_lt
      | none =>
          have hlarge := Word.toUInt64?_eq_none_iff.mp hnarrow
          exact Or.inr ⟨_, uint_run_of_none rest hnarrow, .large rfl hlarge⟩
  | _ => exact Or.inr ⟨_, rfl, .kind rfl⟩

theorem string_takes (name : String) : (string name).Takes ⟨name, .string⟩ .string := by
  intro first rest
  cases first with
  | string s =>
      refine Or.inl ⟨s, rfl, rfl, rfl, ?_⟩
      intro w hw
      cases hw
  | _ => exact Or.inr ⟨_, rfl, .kind rfl⟩

theorem bool_takes (name : String) : (bool name).Takes ⟨name, .bool⟩ .bool := by
  intro first rest
  cases first with
  | bool b =>
      refine Or.inl ⟨b, rfl, rfl, rfl, ?_⟩
      intro w hw
      cases hw
  | _ => exact Or.inr ⟨_, rfl, .kind rfl⟩

/-- The reader goes through the fields of `wire` in their order: it ends with the record whose fields are
the values `before` that have been read already and then all values at hand, or it fails because of the
first value that is refused. -/
def GoesAlong (reader : FieldReader α) (wire : List WireField) (fields : α -> List Token)
    (before : List Token) : Prop :=
  forall tokens, tokens.length = wire.length ->
    (exists record, reader.run tokens = .ok (record, []) ∧ fields record = before ++ tokens ∧
      AcceptsAll wire tokens) ∨
    (exists e, reader.run tokens = .error e ∧ RefusesFirst wire tokens e.message)

namespace GoesAlong

variable {fields : α -> List Token} {before : List Token}

theorem done {record : α} (h : fields record = before) :
    GoesAlong (pure record) [] fields before := by
  intro tokens hlength
  rw [List.eq_nil_of_length_eq_zero hlength]
  refine Or.inl ⟨record, rfl, ?_, .nil⟩
  rw [h, List.append_nil]

/-- One field and then the others: if its value is accepted, the reading goes on with what it is. -/
theorem field {reader : FieldReader β} {next : β -> FieldReader α} {first : WireField}
    {wire : List WireField} {token : β -> Token} (hfirst : reader.Takes first token)
    (hnext : forall b, GoesAlong (next b) wire fields (before ++ [token b])) :
    GoesAlong (reader >>= next) (first :: wire) fields before := by
  intro tokens hlength
  cases tokens with
  | nil => cases hlength
  | cons value values =>
      rw [StateT.run_bind]
      rcases hfirst value values with ⟨b, hrun, hvalue, haccepts⟩ | ⟨e, hrun, hrefuses⟩
      · rw [hrun, ok_bind]
        rcases hnext b values (Nat.succ.inj hlength) with
          ⟨record, hrest, hfields, hall⟩ | ⟨e, hrest, hrefuses⟩
        · refine Or.inl ⟨record, hrest, ?_, .cons haccepts hall⟩
          rw [hfields, hvalue, List.append_assoc, List.singleton_append]
        · exact Or.inr ⟨e, hrest, .later haccepts hrefuses⟩
      · rw [hrun]
        exact Or.inr ⟨e, rfl, .here wire values hrefuses⟩

end GoesAlong

theorem fixture_goesAlong : GoesAlong fixture Match.wire Match.fields [] :=
  .field (uint_takes _) fun _ => .field (uint_takes _) fun _ =>
  .field (string_takes _) fun _ => .field (string_takes _) fun _ =>
  .field (uint_takes _) fun _ => .field (uint_takes _) fun _ =>
  .field (uint_takes _) fun _ => .field (uint_takes _) fun _ =>
  .field (string_takes _) fun _ => .field (string_takes _) fun _ =>
  .field (bool_takes _) fun _ => .field (bool_takes _) fun _ =>
  .field (bool_takes _) fun _ => .done rfl

theorem league_goesAlong : GoesAlong league League.wire League.fields [] :=
  .field (uint_takes _) fun _ => .field (string_takes _) fun _ =>
  .field (string_takes _) fun _ => .done rfl

theorem team_goesAlong : GoesAlong team Team.wire Team.fields [] :=
  .field (uint_takes _) fun _ => .field (string_takes _) fun _ => .done rfl

/-- The reader goes along the wire order of a record, and every record is read back from its fields. -/
structure ReadsInOrder (reader : FieldReader α) (wire : List WireField)
    (fields : α -> List Token) : Prop where
  goesAlong : reader.GoesAlong wire fields []
  run_fields : forall record, reader.run (fields record) = .ok (record, [])
  length_fields : forall record, (fields record).length = wire.length

namespace ReadsInOrder

variable {reader : FieldReader α} {wire : List WireField} {fields : α -> List Token}

theorem acceptsAll_fields (h : reader.ReadsInOrder wire fields) (record : α) :
    AcceptsAll wire (fields record) := by
  rcases h.goesAlong (fields record) (h.length_fields record) with
    ⟨record', -, -, haccepts⟩ | ⟨e, hrun, -⟩
  · exact haccepts
  · rw [h.run_fields] at hrun
    cases hrun

/-- Values that the fields accept are the fields of a record. -/
theorem exists_fields_eq (h : reader.ReadsInOrder wire fields) {values : List Token}
    (haccepts : AcceptsAll wire values) : exists record, fields record = values := by
  rcases h.goesAlong values haccepts.length_eq.symm with ⟨record, -, hfields, -⟩ | ⟨e, -, hrefuses⟩
  · exact ⟨record, hfields⟩
  · exact absurd haccepts hrefuses.not_acceptsAll

end ReadsInOrder

theorem fixture_readsInOrder : fixture.ReadsInOrder Match.wire Match.fields :=
  ⟨fixture_goesAlong, fixture_run, fun _ => rfl⟩

theorem league_readsInOrder : league.ReadsInOrder League.wire League.fields :=
  ⟨league_goesAlong, league_run, fun _ => rfl⟩

theorem team_readsInOrder : team.ReadsInOrder Team.wire Team.fields :=
  ⟨team_goesAlong, team_run, fun _ => rfl⟩

end FieldReader

/-!
# Records and refused answers
-/

namespace Interface

variable {α : Type} {interface : Interface} {op : Operation} {wire : List WireField} {data : Bytes}
  {reason : String}

/-- The values of an answer are one for each field, each of them what its field holds. -/
def Conforms (interface : Interface) (op : Operation) (wire : List WireField) (data : Bytes) : Prop :=
  exists tokens, decode (interface.function op).outputs data = .ok tokens ∧
    AcceptsAll wire (Fields.unwrap tokens)

/-- An answer that holds no record, with the reason that is given for it: it does not decode, the number
of its values is wrong, or one of them is, and then the first such value is told. -/
inductive Unreadable (interface : Interface) (op : Operation) (wire : List WireField)
    (data : Bytes) : (reason : String) -> Prop where
  | codec {e : CodecError} (hdecode : decode (interface.function op).outputs data = .error e) :
      Unreadable interface op wire data ("decode: " ++ e.message)
  | count {tokens : List Token}
      (hdecode : decode (interface.function op).outputs data = .ok tokens)
      (hcount : (Fields.unwrap tokens).length ≠ wire.length) :
      Unreadable interface op wire data ("expected " ++ toString wire.length ++ " fields, got " ++
        toString (Fields.unwrap tokens).length)
  | field {tokens : List Token} {reason : String}
      (hdecode : decode (interface.function op).outputs data = .ok tokens)
      (hcount : (Fields.unwrap tokens).length = wire.length)
      (hfirst : RefusesFirst wire (Fields.unwrap tokens) reason) :
      Unreadable interface op wire data reason

variable {reader : FieldReader α} {fields : α -> List Token}

theorem decodeAnswer_of_fields (h : reader.ReadsInOrder wire fields) {tokens : List Token}
    {record : α}
    (hdecode : decode (interface.function op).outputs data = .ok tokens)
    (hfields : Fields.unwrap tokens = fields record) :
    interface.decodeAnswer op (Fields.read wire.length reader) data = .ok record := by
  rw [decodeAnswer_of_ok hdecode, Fields.read, hfields, if_pos (h.length_fields record),
    h.run_fields]
  rfl

theorem decodeAnswer_of_unreadable (h : reader.ReadsInOrder wire fields)
    (hunreadable : Unreadable interface op wire data reason) :
    interface.decodeAnswer op (Fields.read wire.length reader) data =
      .error (.lookup op.name op.argument reason) := by
  cases hunreadable with
  | codec hdecode => exact decodeAnswer_of_error hdecode _
  | count hdecode hcount =>
      rw [decodeAnswer_of_ok hdecode, Fields.read, if_neg hcount]
      rfl
  | field hdecode hcount hfirst =>
      rw [decodeAnswer_of_ok hdecode, Fields.read, if_pos hcount]
      rcases h.goesAlong _ hcount with ⟨record, -, -, haccepts⟩ | ⟨e, hrun, hrefuses⟩
      · exact absurd haccepts hfirst.not_acceptsAll
      · rw [hrun, hfirst.unique hrefuses]
        rfl

/-- Every answer holds the fields of a record or is refused. -/
theorem fields_or_unreadable (h : reader.ReadsInOrder wire fields) (interface : Interface)
    (op : Operation) (data : Bytes) :
    (exists record tokens, decode (interface.function op).outputs data = .ok tokens ∧
      Fields.unwrap tokens = fields record) ∨
    (exists reason, Unreadable interface op wire data reason) := by
  cases hdecode : decode (interface.function op).outputs data with
  | error e => exact Or.inr ⟨_, .codec hdecode⟩
  | ok tokens =>
      by_cases hcount : (Fields.unwrap tokens).length = wire.length
      · rcases h.goesAlong (Fields.unwrap tokens) hcount with
          ⟨record, -, hfields, -⟩ | ⟨e, -, hrefuses⟩
        · exact Or.inl ⟨record, tokens, rfl, hfields.symm⟩
        · exact Or.inr ⟨_, .field hdecode hcount hrefuses⟩
      · exact Or.inr ⟨_, .count hdecode hcount⟩

theorem decodeAnswer_eq_ok_iff (h : reader.ReadsInOrder wire fields) {record : α} :
    interface.decodeAnswer op (Fields.read wire.length reader) data = .ok record ↔
      exists tokens, decode (interface.function op).outputs data = .ok tokens ∧
        Fields.unwrap tokens = fields record := by
  constructor
  · intro hok
    rcases fields_or_unreadable h interface op data with
      ⟨found, tokens, hdecode, hfields⟩ | ⟨reason, hunreadable⟩
    · rw [decodeAnswer_of_fields h hdecode hfields] at hok
      cases hok
      exact ⟨tokens, hdecode, hfields⟩
    · rw [decodeAnswer_of_unreadable h hunreadable] at hok
      cases hok
  · rintro ⟨tokens, hdecode, hfields⟩
    exact decodeAnswer_of_fields h hdecode hfields

theorem decodeAnswer_eq_error_iff (h : reader.ReadsInOrder wire fields) {e : ProbeError} :
    interface.decodeAnswer op (Fields.read wire.length reader) data = .error e ↔
      exists reason, e = .lookup op.name op.argument reason ∧
        Unreadable interface op wire data reason := by
  constructor
  · intro herror
    rcases fields_or_unreadable h interface op data with
      ⟨record, tokens, hdecode, hfields⟩ | ⟨reason, hunreadable⟩
    · rw [decodeAnswer_of_fields h hdecode hfields] at herror
      cases herror
    · rw [decodeAnswer_of_unreadable h hunreadable] at herror
      cases herror
      exact ⟨reason, rfl, hunreadable⟩
  · rintro ⟨reason, rfl, hunreadable⟩
    exact decodeAnswer_of_unreadable h hunreadable

/-- What a decoder of records makes of an answer. It succeeds exactly when the values of the answer are
what the fields hold; then the record has these values for its fields. Otherwise it fails as the call
that was answered, for the reason why the answer holds no record. -/
structure ReadsRecord (interface : Interface) (op : Operation) (wire : List WireField)
    (fields : α -> List Token) (data : Bytes) (outcome : Outcome α) : Prop where
  succeeds_iff : (exists record, outcome = .ok record) ↔ interface.Conforms op wire data
  ok_iff : forall record, outcome = .ok record ↔ exists tokens,
    decode (interface.function op).outputs data = .ok tokens ∧ Fields.unwrap tokens = fields record
  error_iff : forall e, outcome = .error e ↔ exists reason,
    e = .lookup op.name op.argument reason ∧ Unreadable interface op wire data reason

theorem readsRecord (h : reader.ReadsInOrder wire fields) (interface : Interface)
    (op : Operation) (data : Bytes) :
    ReadsRecord interface op wire fields data
      (interface.decodeAnswer op (Fields.read wire.length reader) data) where
  succeeds_iff := by
    constructor
    · rintro ⟨record, hok⟩
      rcases (decodeAnswer_eq_ok_iff h).mp hok with ⟨tokens, hdecode, hfields⟩
      exact ⟨tokens, hdecode, hfields ▸ h.acceptsAll_fields record⟩
    · rintro ⟨tokens, hdecode, haccepts⟩
      rcases h.exists_fields_eq haccepts with ⟨record, hfields⟩
      exact ⟨record, decodeAnswer_of_fields h hdecode hfields.symm⟩
  ok_iff _ := decodeAnswer_eq_ok_iff h
  error_iff _ := decodeAnswer_eq_error_iff h

/-- Whatever the interface declares and whatever the answer is, the three decoders read the fields of
their records in wire order and name the first one that is wrong. -/
theorem decoders_readRecords (interface : Interface) (id : UInt64) (data : Bytes) :
    ReadsRecord interface (.getMatch id) Match.wire Match.fields data
      (interface.decodeMatch id data) ∧
    ReadsRecord interface (.getLeague id) League.wire League.fields data
      (interface.decodeLeague id data) ∧
    ReadsRecord interface (.getTeam id) Team.wire Team.fields data
      (interface.decodeTeam id data) :=
  ⟨readsRecord FieldReader.fixture_readsInOrder interface (.getMatch id) data,
    readsRecord FieldReader.league_readsInOrder interface (.getLeague id) data,
    readsRecord FieldReader.team_readsInOrder interface (.getTeam id) data⟩

/-- The interface in which a team is an id and a flag. -/
def flagged : Interface :=
  let fixture : Function := ⟨"getMatch", [.uint 256], []⟩
  let league : Function := ⟨"getLeague", [.uint 256], []⟩
  let team : Function := ⟨"getTeam", [.uint 256], [.uint 256, .bool]⟩
  let unfinished : Function := ⟨"getUnfinishedMatches", [], []⟩
  ⟨[league, fixture, team, unfinished], fixture, league, team, unfinished, rfl, rfl, rfl, rfl⟩

/-- The id of a team needs 65 bits, and the name is a flag: the id is told, being the first. -/
theorem decoders_readRecords_large :
    let answer := Abi.encode [.uint 18446744073709551616#256, .bool true]
    flagged.decodeTeam 1 answer =
      .error (.lookup "getTeam" (some 1) "field 'id': value exceeds u64") := by
  intro answer
  have hfits : FitsEach [.uint 18446744073709551616#256, .bool true]
      (flagged.function (.getTeam 1)).outputs :=
    .cons (.uint _ 256) (.cons (.bool true) .nil)
  have hdecode := hfits.decode_encode (by decide) (by decide)
  have hrefuses : WireField.Refuses ⟨"id", .uint⟩ (.uint 18446744073709551616#256) _ :=
    .large rfl (by decide)
  exact ((decoders_readRecords flagged 1 answer).2.2.error_iff _).mpr
    ⟨_, rfl, .field hdecode rfl (.here _ _ hrefuses)⟩

end Interface

end FixtureProbe
