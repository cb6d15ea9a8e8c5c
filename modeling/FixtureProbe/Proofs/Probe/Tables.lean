import FixtureProbe.Proofs.Node.Stateless
import FixtureProbe.Proofs.Precompile.Records
import FixtureProbe.Proofs.Probe.Walk

/-!
# Reading tables over the wire

A contract that keeps its records in tables can be read in two ways: from the tables, or over the
wire, where call data goes out and encoded answers come back. This module shows that both ways
agree, for a single read and for a walk of any length. What stands in the tables is arbitrary, and
so is the state that the node keeps besides them.
-/

namespace FixtureProbe

open Dialogue

variable {α σ : Type}

/-- What a contract knows; every answer has a size that a word of 32 bits can hold. -/
structure Tables where
  fixture : UInt64 -> Option Match
  league : UInt64 -> Option League
  team : UInt64 -> Option Team
  unfinished : Option (List UInt64)
  /-- Why a call for something that is not there is refused. -/
  reason : Operation -> String
  fixture_size : forall id m, fixture id = some m -> (recordAnswer m.fields).length < UInt32.size
  league_size : forall id l, league id = some l -> (recordAnswer l.fields).length < UInt32.size
  team_size : forall id t, team id = some t -> (recordAnswer t.fields).length < UInt32.size
  unfinished_size : forall ids, unfinished = some ids -> (idsAnswer ids).length < UInt32.size

namespace Tables

/-!
# Reading from the tables
-/

/-- An entry, or the failure of the call that asks for it. -/
def outcome (tables : Tables) (op : Operation) : Option α -> Outcome α
  | some a => .ok a
  | none => .error (.lookup op.name op.argument (tables.reason op))

/-- The match with an id. -/
def readMatch (tables : Tables) (id : UInt64) : Outcome Match :=
  tables.outcome (.getMatch id) (tables.fixture id)

/-- The league with an id. -/
def readLeague (tables : Tables) (id : UInt64) : Outcome League :=
  tables.outcome (.getLeague id) (tables.league id)

/-- The team with an id. -/
def readTeam (tables : Tables) (id : UInt64) : Outcome Team :=
  tables.outcome (.getTeam id) (tables.team id)

/-- The ids of the unfinished matches. -/
def readUnfinished (tables : Tables) : Outcome (List UInt64) :=
  tables.outcome .getUnfinishedMatches tables.unfinished

/-- The league of a match, unless its id is zero. -/
def followLeague (tables : Tables) (m : Match) : Step League :=
  if m.leagueId = 0 then .skipped .zeroId else .ofOutcome (tables.readLeague m.leagueId)

/-- The home team of a match, unless its id is zero. -/
def followHome (tables : Tables) (m : Match) : Step Team :=
  if m.homeId = 0 then .skipped .zeroId else .ofOutcome (tables.readTeam m.homeId)

/-- The away team of a match, unless its id is zero or that of the home team. -/
def followAway (tables : Tables) (m : Match) : Step Team :=
  if m.awayId = 0 then .skipped .zeroId
  else if m.awayId = m.homeId then .skipped .sameAsHome
  else .ofOutcome (tables.readTeam m.awayId)

/-- Everything that the tables say about a match id. -/
def trace (tables : Tables) (matchId : UInt64) : MatchTrace :=
  match tables.readMatch matchId with
  | .error e => {
      matchId
      fixture := .failed e
      league := .skipped .matchUnavailable
      homeTeam := .skipped .matchUnavailable
      awayTeam := .skipped .matchUnavailable }
  | .ok m => {
      matchId
      fixture := .fetched m
      league := tables.followLeague m
      homeTeam := tables.followHome m
      awayTeam := tables.followAway m }

/-- The walk over the tables. -/
def walk (tables : Tables) (ids : List UInt64) : CrossReference :=
  ⟨ids, ids.map tables.trace⟩

/-!
# Answering from the tables
-/

/-- The encoding of an entry, or the reason why there is none. -/
def encoded (tables : Tables) (op : Operation) (encode : α -> Bytes) :
    Option α -> Except String Bytes
  | some a => .ok (encode a)
  | none => .error (tables.reason op)

/-- What is replied to a call. -/
def answer (tables : Tables) (op : Operation) : Except String Bytes :=
  match op with
  | .getMatch id => tables.encoded op (recordAnswer ·.fields) (tables.fixture id)
  | .getLeague id => tables.encoded op (recordAnswer ·.fields) (tables.league id)
  | .getTeam id => tables.encoded op (recordAnswer ·.fields) (tables.team id)
  | .getUnfinishedMatches => tables.encoded op idsAnswer tables.unfinished

/-- The node answers whatever call data at the address stands for a call from the tables, in every
state; what else it does is open. -/
def ServedBy (tables : Tables) (address : Address) (node : Node σ) : Prop :=
  forall s calldata op, Interface.embedded.decodeCall calldata = .ok op ->
    (node.answer s (.call address calldata)).1 = tables.answer op

/-!
# A node with tables
-/

/-- What a node replies that knows the tables and nothing else. -/
def reply (tables : Tables) : (r : Request) -> r.Reply
  | .call _ calldata =>
      match Interface.embedded.decodeCall calldata with
      | .ok op => tables.answer op
      | .error e => .error e.message
  | .chainId => .ok 31337
  | .blockNumber => .ok 1
  | .code _ => .ok []
  | .balance _ => .ok 0
  | .estimateGas .. => .error "out of gas"

/-- A node that replies from the tables and counts the requests. -/
def node (tables : Tables) : Node Nat where
  answer count r := (tables.reply r, count + 1)
  time count := (count, count)

theorem stateless_node (tables : Tables) : tables.node.Stateless tables.reply :=
  fun _ _ => rfl

theorem servedBy_node (tables : Tables) (address : Address) :
    tables.ServedBy address tables.node := by
  intro s calldata op hdecode
  change tables.reply (.call address calldata) = tables.answer op
  rw [reply, hdecode]

/-- A table with a single entry. -/
def only (id : UInt64) (a : α) (key : UInt64) : Option α :=
  if key = id then some a else none

theorem eq_of_only {id key : UInt64} {a b : α} (h : only id a key = some b) : a = b := by
  unfold only at h
  split at h
  · exact Option.some.inj h
  · cases h

/-- One match, whose league and home team are known and whose away team is not. -/
def sampleTables : Tables where
  fixture := only 7 .sample
  league := only 39 ⟨39, "Süper Lig", ""⟩
  team := only 1 ⟨1, "日本"⟩
  unfinished := some [7, 18446744073709551615]
  reason op := "no entry for " ++ op.text
  fixture_size id m h := by
    cases eq_of_only h
    decide +kernel
  league_size id l h := by
    cases eq_of_only h
    decide +kernel
  team_size id t h := by
    cases eq_of_only h
    decide +kernel
  unfinished_size ids h := by
    cases h
    decide +kernel

/-!
# Both ways agree
-/

theorem verdict_encoded (tables : Tables) {op : Operation} {encode : α -> Bytes}
    {decode : Bytes -> Except ProbeError α} {entry : Option α}
    (h : forall a, entry = some a -> decode (encode a) = .ok a) :
    Reader.verdict op decode (tables.encoded op encode entry) = tables.outcome op entry := by
  cases entry with
  | none => rfl
  | some a => exact h a rfl

section Served

variable {tables : Tables} {address : Address} {node : Node σ}
  (h : tables.ServedBy address node)

include h

theorem ServedBy.reply_eq (s : σ) (op : Operation) :
    Reader.reply ⟨Interface.embedded, address⟩ node s op = tables.answer op :=
  h s _ op (Interface.callable_embedded.decodeCall_calldata op)

theorem ServedBy.yields_read {op : Operation} {encode : α -> Bytes}
    {decode : Bytes -> Except ProbeError α} {entry : Option α}
    (hanswer : tables.answer op = tables.encoded op encode entry)
    (hdecode : forall a, entry = some a -> decode (encode a) = .ok a) :
    Yields node (Reader.read ⟨Interface.embedded, address⟩ op decode)
      (tables.outcome op entry) := by
  intro s
  have hencodes : (Reader.mk Interface.embedded address).interface.Encodes :=
    Interface.callable_embedded.encodes
  have hrun := Reader.read_runs hencodes node s op decode
  rw [hrun.value, h.reply_eq, hanswer]
  exact tables.verdict_encoded hdecode

theorem ServedBy.yields_readMatch (id : UInt64) :
    Yields node (Reader.readMatch ⟨Interface.embedded, address⟩ id) (tables.readMatch id) := by
  apply h.yields_read rfl
  intro m hm
  exact Interface.decodeMatch_recordAnswer id (tables.fixture_size id m hm)

theorem ServedBy.yields_readLeague (id : UInt64) :
    Yields node (Reader.readLeague ⟨Interface.embedded, address⟩ id) (tables.readLeague id) := by
  apply h.yields_read rfl
  intro l hl
  exact Interface.decodeLeague_recordAnswer id (tables.league_size id l hl)

theorem ServedBy.yields_readTeam (id : UInt64) :
    Yields node (Reader.readTeam ⟨Interface.embedded, address⟩ id) (tables.readTeam id) := by
  apply h.yields_read rfl
  intro t ht
  exact Interface.decodeTeam_recordAnswer id (tables.team_size id t ht)

theorem ServedBy.yields_readUnfinished :
    Yields node (Reader.readUnfinished ⟨Interface.embedded, address⟩) tables.readUnfinished := by
  apply h.yields_read rfl
  intro ids hids
  exact Interface.decodeUnfinished_idsAnswer (tables.unfinished_size ids hids)

end Served

/-!
# Walks agree

A step of the walk is skipped or read in the same cases, so each match has the same trace, and a walk
is made of the traces of its matches.
-/

theorem yields_skip (node : Node σ) (matchId : UInt64) (what : String) (reason : SkipReason) :
    Yields node (Walk.skip matchId what reason) (.skipped reason : Step α) :=
  (Yields.note _).bind (Yields.pure _)

theorem yields_follow {node : Node σ} {lookup : UInt64 -> Dialogue Log.Record (Outcome α)}
    {read : UInt64 -> Outcome α} (hlookup : forall id, Yields node (lookup id) (read id))
    (matchId : UInt64) (what : String) (id : UInt64) :
    Yields node (Walk.follow matchId what (nonZero id) lookup)
      (if id = 0 then .skipped .zeroId else .ofOutcome (read id)) := by
  by_cases hid : id = 0
  · rw [nonZero, if_pos hid, if_pos hid]
    exact yields_skip node matchId what .zeroId
  · rw [nonZero, if_neg hid, if_neg hid]
    exact (hlookup id).map

section Walks

variable {tables : Tables} {address : Address} {node : Node σ}
  (h : tables.ServedBy address node)

include h

theorem ServedBy.yields_followAway (matchId : UInt64) (m : Match) :
    Yields node (Walk.followAway ⟨Interface.embedded, address⟩ matchId m)
      (tables.followAway m) := by
  rw [Walk.followAway_eq]
  unfold Match.awayTarget Tables.followAway
  by_cases hzero : m.awayId = 0
  · rw [if_pos hzero, if_pos hzero]
    exact yields_skip node matchId "away team" .zeroId
  · rw [if_neg hzero, if_neg hzero]
    by_cases hhome : m.awayId = m.homeId
    · rw [if_pos hhome, if_pos hhome]
      exact yields_skip node matchId "away team" .sameAsHome
    · rw [if_neg hhome, if_neg hhome]
      exact (h.yields_readTeam m.awayId).map

theorem ServedBy.yields_trace (matchId : UInt64) :
    Yields node (Walk.trace ⟨Interface.embedded, address⟩ matchId) (tables.trace matchId) := by
  -- The match read over the wire is the entry, so both sides branch on the same outcome.
  apply (h.yields_readMatch matchId).bind
  rw [Tables.trace]
  cases tables.readMatch matchId with
  | error e => exact Yields.pure _
  | ok m =>
      apply (yields_follow h.yields_readLeague matchId "league" m.leagueId).bind
      apply (yields_follow h.yields_readTeam matchId "home team" m.homeId).bind
      apply (h.yields_followAway matchId m).bind
      exact Yields.pure _

theorem ServedBy.yields_traces (ids : List UInt64) :
    Yields node (Walk.traces ⟨Interface.embedded, address⟩ ids) (ids.map tables.trace) := by
  induction ids with
  | nil => exact Yields.pure _
  | cons id ids ih => exact (h.yields_trace id).bind (ih.bind (Yields.pure _))

theorem ServedBy.yields_walk (ids : List UInt64) :
    Yields node (Walk.run ⟨Interface.embedded, address⟩ ids) (tables.walk ids) :=
  (Yields.note _).bind ((h.yields_traces ids).bind (Yields.pure _))

/-- The typed reads give what stands in the tables, or the failure of their own call; and a walk
over the wire is the walk over the tables, whichever ids it is given. -/
theorem ServedBy.values_eq_tables (s : σ) :
    let reader : Reader := ⟨Interface.embedded, address⟩
    (forall id, ((reader.readMatch id).run node s).value = tables.readMatch id) ∧
    (forall id, ((reader.readLeague id).run node s).value = tables.readLeague id) ∧
    (forall id, ((reader.readTeam id).run node s).value = tables.readTeam id) ∧
    (reader.readUnfinished.run node s).value = tables.readUnfinished ∧
    forall ids, ((Walk.run reader ids).run node s).value = tables.walk ids := by
  intro reader
  refine ⟨?_, ?_, ?_, ?_, ?_⟩
  · intro id
    exact h.yields_readMatch id s
  · intro id
    exact h.yields_readLeague id s
  · intro id
    exact h.yields_readTeam id s
  · exact h.yields_readUnfinished s
  · intro ids
    exact h.yields_walk ids s

end Walks

theorem values_eq_sampleTables :
    let reader : Reader := ⟨Interface.embedded, ⟨0x0fff⟩⟩
    ((reader.readMatch 7).run sampleTables.node 5).value = .ok .sample ∧
    ((reader.readTeam 2).run sampleTables.node 0).value =
      .error (.lookup "getTeam" (some 2) "no entry for getTeam(2)") ∧
    ((Walk.run reader [7, 8, 7]).run sampleTables.node 0).value = sampleTables.walk [7, 8, 7] :=
  have h := servedBy_node sampleTables ⟨0x0fff⟩
  ⟨(h.values_eq_tables 5).1 7, (h.values_eq_tables 0).2.2.1 2,
    (h.values_eq_tables 0).2.2.2.2 [7, 8, 7]⟩

end Tables

end FixtureProbe
