import FixtureProbe.Proofs.Precompile.Numbers
import FixtureProbe.Proofs.Probe.CallWays

/-!
# Numbers that a reader reports

The numbers in what a reader has read are those of the answer, and a number that needs more than 64 bits
makes the reading fail. The gas of a call is the exception: only its low 64 bits are reported, so it is
the number of the node just when these are all of it.
-/

namespace FixtureProbe

open Abi

variable {σ : Type}

/-!
# Numbers of an entity
-/

/-- The numbers of an entity, in wire order. -/
def Operation.numbers : (op : Operation) -> op.Entity -> List UInt64
  | .getMatch _, (m : Match) =>
      [m.id, m.leagueId, m.homeId, m.awayId, m.homeScore, m.awayScore]
  | .getLeague _, (l : League) => [l.id]
  | .getTeam _, (t : Team) => [t.id]
  | .getUnfinishedMatches, ids => ids

namespace Interface

/-- The places in an answer at which the numbers of the entity stand. -/
def numberPlaces? (interface : Interface) (data : Bytes) : Operation -> Option (List Nat)
  | .getMatch _ =>
      (Fields.start? interface.getMatch.outputs data).map (WireField.numberPlaces · Match.wire)
  | .getLeague _ =>
      (Fields.start? interface.getLeague.outputs data).map (WireField.numberPlaces · League.wire)
  | .getTeam _ =>
      (Fields.start? interface.getTeam.outputs data).map (WireField.numberPlaces · Team.wire)
  | .getUnfinishedMatches => do
      let start ← wordAt? data 0
      let count ← wordAt? data start
      return List.range' (start + 32) count 32

variable {interface : Interface} {op : Operation} {data : Bytes}

theorem exists_places_of_record {α : Type} {reader : FieldReader α} {wire : List WireField}
    {fields : α -> List Token} {record : α} {numbers : List UInt64}
    (h : reader.ReadsInOrder wire fields)
    (hrecord : interface.decodeAnswer op (Fields.read wire.length reader) data = .ok record)
    (hnumbers : (fields record).filterMap Token.number? = numbers.map UInt64.toNat) :
    exists places, (Fields.start? (interface.function op).outputs data).map
        (WireField.numberPlaces · wire) = some places ∧
      Spells data places (numbers.map UInt64.toNat) := by
  rcases h.exists_start hrecord with ⟨start, hstart, hspells⟩
  refine ⟨WireField.numberPlaces start wire, ?_, ?_⟩
  · rw [hstart, Option.map_some]
  · rw [← hnumbers]
    exact hspells

theorem exists_places_of_decodeEntity {entity : op.Entity}
    (h : interface.decodeEntity op data = .ok entity) :
    exists places, interface.numberPlaces? data op = some places ∧
      Spells data places ((op.numbers entity).map UInt64.toNat) := by
  cases op with
  | getMatch id =>
      apply exists_places_of_record FieldReader.fixture_readsInOrder h
      simp [Match.fields, List.filterMap_cons, Operation.numbers]
  | getLeague id =>
      apply exists_places_of_record FieldReader.league_readsInOrder h
      simp [League.fields, List.filterMap_cons, Operation.numbers]
  | getTeam id =>
      apply exists_places_of_record FieldReader.team_readsInOrder h
      simp [Team.fields, List.filterMap_cons, Operation.numbers]
  | getUnfinishedMatches =>
      rcases exists_start_of_decodeUnfinished h with ⟨start, hstart, hcount, hspells⟩
      refine ⟨_, ?_, hspells⟩
      rw [numberPlaces?, hstart, Option.bind_eq_bind, Option.bind_some, hcount]
      rfl

-- A tuple behind an offset: the id of the team is the first word there.
example : embedded.numberPlaces? (natWord 32 ++ natWord 3 ++ natWord 64 ++ natWord 0) (.getTeam 7) =
    some [32] := by
  decide +kernel

theorem decodeEntity_namesCall (interface : Interface) (op : Operation) (data : Bytes) :
    Outcome.NamesCall op (interface.decodeEntity op data) := by
  cases op <;> exact interface.decodeAnswer_namesCall _ _ data

/-- A number of more than 64 bits among those of an entity makes the answer unusable. -/
theorem decodeEntity_of_large {places : List Nat} {place n : Nat}
    (hplaces : interface.numberPlaces? data op = some places) (hplace : place ∈ places)
    (hword : wordAt? data place = some n) (hlarge : UInt64.size ≤ n) :
    exists reason, interface.decodeEntity op data = .error (.lookup op.name op.argument reason) := by
  cases hdecode : interface.decodeEntity op data with
  | error e =>
      rcases interface.decodeEntity_namesCall op data e hdecode with ⟨reason, rfl⟩
      exact ⟨reason, rfl⟩
  | ok entity =>
      rcases exists_places_of_decodeEntity hdecode with ⟨places', hplaces', hspells⟩
      rw [hplaces] at hplaces'
      cases hplaces'
      rcases List.mem_map.mp (hspells.mem_of_wordAt? hplace hword) with ⟨id, -, rfl⟩
      exact absurd id.toNat_lt (Nat.not_lt.mpr hlarge)

theorem decodeCall_of_large {n : Nat} (hword : wordAt? data 4 = some n) (hlarge : UInt64.size ≤ n) :
    (exists reason, interface.decodeCall data = .error (.interface reason)) ∨
      interface.decodeCall data = .ok .getUnfinishedMatches := by
  rcases decodeCall_cases interface data with herror | ⟨op, hcall, -⟩
  · exact Or.inl herror
  · have hsmall (id : UInt64) : op.argument ≠ some id := by
      intro hid
      rw [wordAt?_of_decodeCall hcall hid] at hword
      cases hword
      exact absurd id.toNat_lt (Nat.not_lt.mpr hlarge)
    cases op with
    | getMatch id | getLeague id | getTeam id => exact absurd rfl (hsmall id)
    | getUnfinishedMatches => exact Or.inr hcall

end Interface

/-!
# Numbers on their way through a reader
-/

namespace Reader

/-- What becomes of the numbers that a node, or call data, carries for a reader. -/
structure TreatsNumbers (reader : Reader) (node : Node σ) (s : σ) : Prop where
  /-- The numbers of an entity are the words of the answer that stand for them. -/
  read : forall op entity, ((reader.readEntity op).run node s).value = .ok entity ->
    exists data places, reader.reply node s op = .ok data ∧
      reader.interface.numberPlaces? data op = some places ∧
      Spells data places ((op.numbers entity).map UInt64.toNat)
  /-- If such a word needs more than 64 bits, the reading fails. -/
  refused : forall op data places place n, reader.reply node s op = .ok data ->
    reader.interface.numberPlaces? data op = some places -> place ∈ places ->
    wordAt? data place = some n -> UInt64.size ≤ n ->
    exists reason, ((reader.readEntity op).run node s).value =
      .error (.lookup op.name op.argument reason)
  /-- The id of a call is the number behind the selector. -/
  recognised : forall data op id, reader.interface.decodeCall data = .ok op ->
    op.argument = some id -> wordAt? data 4 = some id.toNat
  /-- If this number needs more than 64 bits, there is no call with an id. -/
  unrecognised : forall data n, wordAt? data 4 = some n -> UInt64.size ≤ n ->
    (exists reason, reader.interface.decodeCall data = .error (.interface reason)) ∨
      reader.interface.decodeCall data = .ok .getUnfinishedMatches
  /-- Gas is reported without its multiples of `2 ^ 64`, and no gas is too large for that. -/
  estimated_iff : forall op gas, ((reader.estimateGas op).run node s).value = .ok gas ↔
    exists calldata w, reader.interface.encode op = .ok calldata ∧
      (node.answer s (.estimateGas reader.address calldata)).1 = .ok w ∧
      gas.toNat = w.toNat % UInt64.size
  /-- So gas is the number of the node just when 64 bits are enough for it. -/
  estimated_exactly_iff : forall op calldata w gas,
    reader.interface.encode op = .ok calldata ->
    (node.answer s (.estimateGas reader.address calldata)).1 = .ok w ->
    ((reader.estimateGas op).run node s).value = .ok gas ->
    (gas.toNat = w.toNat ↔ w.toNat < UInt64.size)

variable {reader : Reader} {op : Operation}

/-- A call that is sent ends as the reply to it says, any other call as its encoding does. -/
theorem value_readEntity (node : Node σ) (s : σ) :
    ((reader.readEntity op).run node s).value = reader.interface.encode op >>= fun _ =>
      verdict op (reader.interface.decodeEntity op) (reader.reply node s op) := by
  cases hencode : reader.interface.encode op with
  | error e => exact (readEntity_runs_unsent hencode node s).value
  | ok calldata =>
      obtain rfl := Interface.eq_calldata_of_encode hencode
      exact (readEntity_runs_sent hencode node s).value

theorem value_estimateGas (node : Node σ) (s : σ) :
    ((reader.estimateGas op).run node s).value = reader.interface.encode op >>= fun calldata =>
      ((node.answer s (.estimateGas reader.address calldata)).1.mapError
        (ProbeError.ofOperation op)).map Word.low64 := by
  cases hencode : reader.interface.encode op with
  | error e => exact (estimateGas_runs_unsent hencode node s).value
  | ok calldata =>
      obtain rfl := Interface.eq_calldata_of_encode hencode
      exact (estimateGas_runs_of_encode hencode node s).value

theorem exists_of_readEntity {node : Node σ} {s : σ} {entity : op.Entity}
    (h : ((reader.readEntity op).run node s).value = .ok entity) :
    exists data, reader.reply node s op = .ok data ∧
      reader.interface.decodeEntity op data = .ok entity := by
  rw [value_readEntity] at h
  rcases exists_of_bind h with ⟨calldata, -, h⟩
  cases hreply : reader.reply node s op with
  | error reason =>
      rw [hreply] at h
      cases h
  | ok data =>
      rw [hreply] at h
      exact ⟨data, rfl, h⟩

theorem readEntity_of_undecodable {node : Node σ} {s : σ} {data : Bytes} {reason : String}
    (hreply : reader.reply node s op = .ok data)
    (hdecode : reader.interface.decodeEntity op data = .error (.lookup op.name op.argument reason)) :
    exists reason, ((reader.readEntity op).run node s).value =
      .error (.lookup op.name op.argument reason) := by
  rw [value_readEntity, hreply]
  cases hencode : reader.interface.encode op with
  | error e =>
      rcases reader.interface.encode_namesCall op e hencode with ⟨reason, rfl⟩
      exact ⟨reason, rfl⟩
  | ok calldata => exact ⟨reason, hdecode⟩

theorem estimateGas_of_reply {node : Node σ} {s : σ} {calldata : Bytes} {w : Word}
    (hencode : reader.interface.encode op = .ok calldata)
    (hreply : (node.answer s (.estimateGas reader.address calldata)).1 = .ok w) :
    ((reader.estimateGas op).run node s).value = .ok w.low64 := by
  rw [value_estimateGas, hencode, ok_bind, hreply]
  rfl

theorem exists_of_estimateGas {node : Node σ} {s : σ} {gas : UInt64}
    (h : ((reader.estimateGas op).run node s).value = .ok gas) :
    exists calldata w, reader.interface.encode op = .ok calldata ∧
      (node.answer s (.estimateGas reader.address calldata)).1 = .ok w ∧ gas = w.low64 := by
  rw [value_estimateGas] at h
  rcases exists_of_bind h with ⟨calldata, hencode, h⟩
  cases hreply : (node.answer s (.estimateGas reader.address calldata)).1 with
  | error reason =>
      rw [hreply] at h
      cases h
  | ok w =>
      rw [hreply] at h
      cases h
      exact ⟨calldata, w, hencode, hreply, rfl⟩

theorem treatsNumbers (reader : Reader) (node : Node σ) (s : σ) :
    reader.TreatsNumbers node s where
  read op entity h := by
    rcases exists_of_readEntity h with ⟨data, hreply, hdecode⟩
    rcases Interface.exists_places_of_decodeEntity hdecode with ⟨places, hplaces, hspells⟩
    exact ⟨data, places, hreply, hplaces, hspells⟩
  refused op data places place n hreply hplaces hplace hword hlarge := by
    rcases Interface.decodeEntity_of_large hplaces hplace hword hlarge with ⟨reason, hdecode⟩
    exact readEntity_of_undecodable hreply hdecode
  recognised data op id := Interface.wordAt?_of_decodeCall
  unrecognised data n := Interface.decodeCall_of_large
  estimated_iff op gas := by
    constructor
    · intro h
      rcases exists_of_estimateGas h with ⟨calldata, w, hencode, hreply, rfl⟩
      exact ⟨calldata, w, hencode, hreply, w.toNat_low64⟩
    · rintro ⟨calldata, w, hencode, hreply, hgas⟩
      rw [estimateGas_of_reply hencode hreply]
      exact congrArg Except.ok (UInt64.toNat_inj.mp (w.toNat_low64.trans hgas.symm))
  estimated_exactly_iff op calldata w gas hencode hreply h := by
    rw [estimateGas_of_reply hencode hreply] at h
    cases h
    exact Word.toNat_low64_eq_iff

end Reader

/-- A node that knows nothing but a price, which is one that 64 bits cannot hold. -/
def Node.expensive : Node Unit where
  answer _ r :=
    match r with
    | .estimateGas .. => (.ok 18446744073709551621#256, ())
    | _ => (.error "busy", ())
  time _ := (0, ())

/-- The price of 2 ^ 64 + 5 is reported as five. -/
theorem Reader.estimateGas_expensive :
    let reader : Reader := ⟨Interface.embedded, ⟨0x0807⟩⟩
    (Node.expensive.answer () (reader.gasRequest (.getMatch 1))).1 =
        .ok 18446744073709551621#256 ∧
      ((reader.estimateGas (.getMatch 1)).run Node.expensive ()).value = .ok 5 := by
  intro reader
  refine ⟨rfl, ?_⟩
  have hencode := Interface.callable_embedded.encodes.encode_eq (.getMatch 1)
  have hreply : (Node.expensive.answer () (.estimateGas reader.address
      (reader.interface.calldata (.getMatch 1)))).1 = .ok 18446744073709551621#256 := rfl
  exact estimateGas_of_reply hencode hreply

end FixtureProbe
