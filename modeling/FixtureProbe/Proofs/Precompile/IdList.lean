import FixtureProbe.Proofs.Precompile.Records

/-!
# Lists of ids

An answer lists ids by an offset, a count at that offset, and one word for each id behind the count.
Offset and count are whatever the node sends: they may point anywhere, overlap each other and the ids,
or promise more than there is. This module says which answers are lists of ids, and which list each of
them is. What is no such list is refused, and the reason tells whether it lists words of which some are
no ids, or whether it is no list at all.
-/

namespace FixtureProbe

open Abi

namespace Abi

/-!
# Words one after another
-/

/-- The words stand one after another from a place on. -/
def WordsAt (data : Bytes) (offset : Nat) (words : List Word) : Prop :=
  forall i (h : i < words.length), Holds data (offset + 32 * i) words[i].toBytes

namespace WordsAt

variable {data : Bytes} {offset : Nat} {w : Word} {words : List Word}

protected theorem nil (data : Bytes) (offset : Nat) : WordsAt data offset [] := by
  intro i h
  cases h

protected theorem cons (h : Holds data offset w.toBytes) (hwords : WordsAt data (offset + 32) words) :
    WordsAt data offset (w :: words) := by
  intro i hi
  cases i with
  | zero => exact h
  | succ i =>
      have hword := hwords i (Nat.lt_of_succ_lt_succ hi)
      rw [Nat.mul_succ, Nat.add_comm (32 * i), ← Nat.add_assoc]
      exact hword

theorem head (h : WordsAt data offset (w :: words)) : Holds data offset w.toBytes :=
  h 0 (Nat.zero_lt_succ words.length)

theorem tail (h : WordsAt data offset (w :: words)) : WordsAt data (offset + 32) words := by
  intro i hi
  have hword := h (i + 1) (Nat.succ_lt_succ hi)
  rw [Nat.mul_succ, Nat.add_comm (32 * i), ← Nat.add_assoc] at hword
  exact hword

/-- Zeros are as many zero words as they have room for. -/
theorem zeros {count : Nat} (h : Holds data offset (List.replicate (32 * count) 0)) :
    WordsAt data offset (List.replicate count 0) := by
  induction count generalizing offset with
  | zero => exact .nil data offset
  | succ count ih =>
      rw [Nat.mul_succ, Nat.add_comm, ← List.replicate_append_replicate] at h
      exact .cons h.left (ih h.right)

theorem length_le (h : WordsAt data offset words) (hoffset : offset ≤ data.length) :
    offset + 32 * words.length ≤ data.length := by
  induction words generalizing offset with
  | nil => exact hoffset
  | cons w words ih =>
      have hhead := h.head.length_le
      rw [Word.length_toBytes] at hhead
      have hrest := ih h.tail hhead
      rw [List.length_cons]
      omega

theorem drop {count : Nat} (h : WordsAt data (count + offset) words) :
    WordsAt (data.drop count) offset words := by
  intro i hi
  have hword := h i hi
  rw [Nat.add_assoc] at hword
  exact hword.drop

theorem of_drop {count : Nat} (hcount : count ≤ data.length)
    (h : WordsAt (data.drop count) offset words) : WordsAt data (count + offset) words := by
  intro i hi
  rw [Nat.add_assoc]
  exact (h i hi).of_drop hcount

/-- Words that stand one after another are read as numbers of any width. -/
theorem repeated (bits : Nat) (h : WordsAt data offset words) :
    Decode.repeated (Decode.value (.uint bits) data) words.length offset =
      .ok (words.map .uint, offset + 32 * words.length) := by
  induction words generalizing offset with
  | nil => rfl
  | cons w words ih =>
      rw [List.length_cons, Decode.repeated, Decode.value, h.head.word, ok_bind]
      change (Decode.repeated _ words.length (offset + 32) >>= _) = _
      rw [ih h.tail, Nat.mul_succ, Nat.add_comm (32 * words.length), ← Nat.add_assoc]
      rfl

/-- Numbers that are read one after another are words that stand there. -/
theorem of_repeated {bits count next : Nat} {tokens : List Token}
    (h : Decode.repeated (Decode.value (.uint bits) data) count offset = .ok (tokens, next)) :
    exists words : List Word,
      tokens = words.map .uint ∧ words.length = count ∧ WordsAt data offset words := by
  induction count generalizing offset tokens with
  | zero =>
      cases h
      exact ⟨[], rfl, rfl, .nil data _⟩
  | succ count ih =>
      rw [Decode.repeated] at h
      rcases exists_of_bind h with ⟨first, hfirst, h⟩
      rcases exists_of_bind h with ⟨others, hothers, h⟩
      cases h
      rw [Decode.value] at hfirst
      rcases exists_of_bind hfirst with ⟨w, hword, hfirst⟩
      cases hfirst
      rcases ih hothers with ⟨words, hwords, hlength, hat⟩
      refine ⟨w :: words, ?_, ?_, .cons (Holds.of_word hword) hat⟩
      · rw [List.map_cons, hwords]
      · rw [List.length_cons, hlength]

end WordsAt

/-!
# Lists of words
-/

/-- The data lists words: an offset below `2 ^ 32` leads to their number, which is below `2 ^ 32` as
well, and behind the number there are the words. -/
structure ListsWords (data : Bytes) (start : Nat) (words : List Word) : Prop where
  start_lt : start < UInt32.size
  length_lt : words.length < UInt32.size
  offset : Holds data 0 (natWord start)
  length : Holds data start (natWord words.length)
  within : start + 32 + 32 * words.length ≤ data.length
  words : WordsAt data (start + 32) words

namespace ListsWords

variable {data : Bytes} {start : Nat} {words : List Word}

theorem decode (bits : Nat) (h : ListsWords data start words) :
    Abi.decode [.array (.uint bits)] data = .ok [.array (words.map .uint)] := by
  have hne : data ≠ [] := by
    rintro rfl
    have hwithin := h.within
    rw [List.length_nil] at hwithin
    omega
  have hwords : WordsAt (data.drop (start + 32)) 0 words := WordsAt.drop h.words
  rw [Abi.decode, if_neg (fun hempty => hne hempty.1), Decode.values, Decode.value,
    h.offset.size h.start_lt, ok_bind, h.length.size h.length_lt, ok_bind, hwords.repeated bits]
  rfl

theorem of_decode {bits : Nat} {tokens : List Token}
    (h : Abi.decode [.array (.uint bits)] data = .ok tokens) :
    exists start words, tokens = [.array (words.map .uint)] ∧ ListsWords data start words := by
  unfold Abi.decode at h
  split at h
  · cases h
  · rcases exists_of_bind h with ⟨read, hread, h⟩
    rcases exists_of_bind hread with ⟨list, hlist, hread⟩
    cases hread
    cases h
    rw [Decode.value] at hlist
    rcases exists_of_bind hlist with ⟨start, hstart, hlist⟩
    rcases exists_of_bind hlist with ⟨count, hcount, hlist⟩
    rcases exists_of_bind hlist with ⟨items, hitems, hlist⟩
    cases hlist
    rcases Holds.of_size hstart with ⟨hoffset, hstartLt⟩
    rcases Holds.of_size hcount with ⟨hlength, hcountLt⟩
    rcases WordsAt.of_repeated hitems with ⟨words, hnumbers, rfl, hdropped⟩
    -- The words are read in what is left behind their number, which the data must reach for that.
    have hle := hlength.length_le
    rw [length_natWord] at hle
    have hwords := hdropped.of_drop hle
    rw [hnumbers]
    exact ⟨start, words, rfl, hstartLt, hcountLt, hoffset, hlength, hwords.length_le hle, hwords⟩

end ListsWords

end Abi

/-!
# Lists of words that are ids
-/

namespace Fields

theorem eq_ofUInt64_of_item {w : Word} {id : UInt64} (h : item (.uint w) = .ok id) :
    w = Word.ofUInt64 id := by
  rw [item] at h
  split at h
  · next found hfound =>
    cases h
    exact Word.eq_ofUInt64_of_toUInt64? hfound
  · cases h

theorem eq_itemTooLarge_of_item {w : Word} {e : ReadError} (h : item (.uint w) = .error e) :
    e = .itemTooLarge := by
  rw [item] at h
  split at h
  · cases h
  · cases h
    rfl

/-- Words are read as ids exactly when they are the words of these ids. -/
theorem ids_words_eq_ok_iff {words : List Word} {ids : List UInt64} :
    Fields.ids [.array (words.map .uint)] = .ok ids ↔ words = ids.map Word.ofUInt64 := by
  constructor
  · intro h
    rw [Fields.ids] at h
    induction words generalizing ids with
    | nil =>
        cases h
        rfl
    | cons w words ih =>
        rw [List.map_cons, List.mapM_cons] at h
        rcases exists_of_bind h with ⟨id, hid, h⟩
        rcases exists_of_bind h with ⟨rest, hrest, h⟩
        cases h
        rw [List.map_cons, ih hrest, eq_ofUInt64_of_item hid]
  · rintro rfl
    rw [List.map_map]
    exact ids_array ids

theorem eq_itemTooLarge_of_ids_words {words : List Word} {e : ReadError}
    (h : Fields.ids [.array (words.map .uint)] = .error e) : e = .itemTooLarge := by
  rw [Fields.ids] at h
  induction words with
  | nil => cases h
  | cons w words ih =>
      rw [List.map_cons, List.mapM_cons] at h
      rcases error_or_of_bind h with hitem | ⟨id, -, h⟩
      · exact eq_itemTooLarge_of_item hitem
      · rcases error_or_of_bind h with hrest | ⟨rest, -, h⟩
        · exact ih hrest
        · cases h

end Fields

/-!
# Answers that are lists of ids
-/

/-- The data lists ids: it lists the words of these ids and no others. -/
def ListsIds (data : Bytes) (ids : List UInt64) : Prop :=
  exists start, ListsWords data start (ids.map Word.ofUInt64)

theorem wordsAt_of_allPlaced {data : Bytes} {offset tail : Nat} {ids : List UInt64}
    (h : Part.AllPlaced data offset tail (Token.parts (ids.map idToken))) :
    WordsAt data offset (ids.map Word.ofUInt64) := by
  induction ids generalizing offset tail with
  | nil => exact .nil data offset
  | cons id ids ih =>
      rw [List.map_cons, Token.parts_cons] at h
      have hothers := h.others
      rw [headSize_part_idToken] at hothers
      exact .cons h.first.head (ih hothers)

/-- The encoding of a list of ids has the number of ids behind the usual offset. -/
theorem listsWords_idsAnswer {ids : List UInt64} (h : ids.length < UInt32.size) :
    ListsWords (idsAnswer ids) 32 (ids.map Word.ofUInt64) := by
  have hplaced : Part.Placed (idsAnswer ids) 0 32 (Token.array (ids.map idToken)).part :=
    (Part.AllPlaced.of_sequence (Holds.self (idsAnswer ids))).first
  have hbody : Holds (idsAnswer ids) 32
      (natWord (ids.map idToken).length ++ Part.sequence (Token.parts (ids.map idToken))) :=
    hplaced.body
  have hstatic := Token.allStatic_parts (anyDynamic_map_idToken ids)
  have hwords := wordsAt_of_allPlaced (Part.AllPlaced.of_sequence_of_allStatic hstatic hbody.right)
  rw [length_natWord] at hwords
  constructor
  · decide
  · rw [List.length_map]
    exact h
  · exact hplaced.head
  · have hlength := hbody.left
    rw [List.length_map] at hlength ⊢
    exact hlength
  · rw [length_idsAnswer, List.length_map]
  · exact hwords

namespace Interface

variable {data : Bytes} {ids : List UInt64}

theorem decodeUnfinished_of_error {e : CodecError}
    (h : decode embedded.getUnfinishedMatches.outputs data = .error e) :
    embedded.decodeUnfinished data =
      .error (.lookup "getUnfinishedMatches" none (ReadError.codec e).message) := by
  have hdecode : decode (embedded.function .getUnfinishedMatches).outputs data = .error e := h
  exact decodeAnswer_of_error hdecode Fields.ids

theorem decodeUnfinished_of_lists {start : Nat} {words : List Word}
    (h : ListsWords data start words) :
    embedded.decodeUnfinished data =
      (Fields.ids [.array (words.map .uint)]).mapError fun error =>
        .ofOperation .getUnfinishedMatches error.message := by
  have hdecode : decode (embedded.function .getUnfinishedMatches).outputs data =
      .ok [.array (words.map .uint)] := h.decode 256
  exact decodeAnswer_of_ok hdecode Fields.ids

theorem decodeUnfinished_eq_ok_iff :
    embedded.decodeUnfinished data = .ok ids ↔ ListsIds data ids := by
  constructor
  · intro h
    cases hdecode : decode embedded.getUnfinishedMatches.outputs data with
    | error e =>
        rw [decodeUnfinished_of_error hdecode] at h
        cases h
    | ok tokens =>
        rcases ListsWords.of_decode hdecode with ⟨start, words, -, hlists⟩
        rw [decodeUnfinished_of_lists hlists] at h
        cases hids : Fields.ids [.array (words.map .uint)] with
        | error e =>
            rw [hids] at h
            cases h
        | ok found =>
            rw [hids] at h
            cases h
            rw [Fields.ids_words_eq_ok_iff] at hids
            exact ⟨start, hids ▸ hlists⟩
  · rintro ⟨start, hlists⟩
    rw [decodeUnfinished_of_lists hlists, Fields.ids_words_eq_ok_iff.mpr rfl]
    rfl

/-- What lists no ids fails as a call without an argument. The reason is that some word is no id when
words are listed, and what the decoder has to say otherwise. -/
theorem decodeUnfinished_of_not_lists (h : forall ids, ¬ ListsIds data ids) :
    exists reason, embedded.decodeUnfinished data =
        .error (.lookup "getUnfinishedMatches" none reason) ∧
      (reason = "match id exceeds u64" ↔
        exists tokens, decode embedded.getUnfinishedMatches.outputs data = .ok tokens) := by
  cases hdecode : decode embedded.getUnfinishedMatches.outputs data with
  | error e =>
      refine ⟨_, decodeUnfinished_of_error hdecode, ?_⟩
      constructor
      · intro hreason
        cases e <;> exact absurd hreason (by decide)
      · rintro ⟨tokens, htokens⟩
        cases htokens
  | ok tokens =>
      rcases ListsWords.of_decode hdecode with ⟨start, words, -, hlists⟩
      have hdecoded := decodeUnfinished_of_lists hlists
      cases hids : Fields.ids [.array (words.map .uint)] with
      | error e =>
          rw [hids, Fields.eq_itemTooLarge_of_ids_words hids] at hdecoded
          exact ⟨_, hdecoded, fun _ => ⟨tokens, rfl⟩, fun _ => rfl⟩
      | ok ids =>
          rw [Fields.ids_words_eq_ok_iff] at hids
          exact absurd ⟨start, hids ▸ hlists⟩ (h ids)

/-- An answer is read as a list of ids exactly when it lists these ids. So every list of ids is read back
from its encoding as long as its length is one that an answer can give, no answer has more ids than it
has words behind the first one, and every other answer fails for the reason that it has. -/
theorem decodeUnfinished_format :
    (forall data ids, embedded.decodeUnfinished data = .ok ids ↔ ListsIds data ids) ∧
    (forall ids, embedded.decodeUnfinished (idsAnswer ids) = .ok ids ↔ ids.length < UInt32.size) ∧
    (forall data ids, embedded.decodeUnfinished data = .ok ids ->
      ids.length ≤ (data.length - 32) / 32) ∧
    (forall data, (forall ids, ¬ ListsIds data ids) ->
      exists reason, embedded.decodeUnfinished data =
          .error (.lookup "getUnfinishedMatches" none reason) ∧
        (reason = "match id exceeds u64" ↔
          exists tokens, decode embedded.getUnfinishedMatches.outputs data = .ok tokens)) := by
  refine ⟨?_, ?_, ?_, ?_⟩
  · intro data ids
    exact decodeUnfinished_eq_ok_iff
  · intro ids
    constructor
    · intro h
      rcases decodeUnfinished_eq_ok_iff.mp h with ⟨start, hlists⟩
      have hlength := hlists.length_lt
      rw [List.length_map] at hlength
      exact hlength
    · intro h
      exact decodeUnfinished_eq_ok_iff.mpr ⟨32, listsWords_idsAnswer h⟩
  · intro data ids h
    rcases decodeUnfinished_eq_ok_iff.mp h with ⟨start, hlists⟩
    have hwithin := hlists.within
    rw [List.length_map] at hwithin
    omega
  · intro data h
    exact decodeUnfinished_of_not_lists h

/-- The zeros of an answer, as many as 256 ids and a byte more. -/
def manyZeros : Bytes :=
  List.replicate (1 + 32 * 256) 0

/-- An offset may lead into itself. With an offset of one its last byte is part of the number of ids,
which is 256 when a zero follows. -/
theorem listsWords_manyZeros : ListsWords (natWord 1 ++ manyZeros) 1 (List.replicate 256 0) := by
  have hdata : Holds (natWord 1 ++ manyZeros) 0 (natWord 1 ++ manyZeros) := .self _
  have hinside : natWord 1 ++ manyZeros =
      [0] ++ (natWord 256 ++ List.replicate (32 * 256) 0) := by
    rw [manyZeros, ← List.replicate_append_replicate]
    rfl
  have hbehind : Holds (natWord 1 ++ manyZeros) 1
      (natWord 256 ++ List.replicate (32 * 256) 0) := (hinside ▸ hdata).right
  constructor
  · decide
  · rw [List.length_replicate]
    decide
  · exact hdata.left
  · rw [List.length_replicate]
    exact hbehind.left
  · rw [List.length_append, manyZeros, List.length_replicate, List.length_replicate, length_natWord]
  · exact .zeros hbehind.right

/-- Some answers of a node that does not care for the usual form: a sole zero word is the empty list, an
offset may lead into itself, and a word that is no id makes an answer none. -/
theorem decodeUnfinished_format_overlapping :
    let many := natWord 1 ++ manyZeros
    let tooLarge := natWord 32 ++ natWord 1 ++ List.replicate 32 255
    (ListsIds (natWord 0) [] ∧ embedded.decodeUnfinished (natWord 0) = .ok []) ∧
    (ListsIds many (List.replicate 256 0) ∧
      embedded.decodeUnfinished many = .ok (List.replicate 256 0)) ∧
    (forall ids, ¬ ListsIds tooLarge ids) ∧
    embedded.decodeUnfinished tooLarge =
      .error (.lookup "getUnfinishedMatches" none "match id exceeds u64") ∧
    exists tokens, decode embedded.getUnfinishedMatches.outputs tooLarge = .ok tokens := by
  intro many tooLarge
  have hnone : ListsIds (natWord 0) [] :=
    ⟨0, by decide, by decide, Holds.self _, Holds.self _, by decide, .nil _ _⟩
  have hmany : ListsIds many (List.replicate 256 0) := by
    refine ⟨1, ?_⟩
    rw [List.map_replicate]
    exact listsWords_manyZeros
  have hrefused : embedded.decodeUnfinished tooLarge =
      .error (.lookup "getUnfinishedMatches" none "match id exceeds u64") := rfl
  have hnot : forall ids, ¬ ListsIds tooLarge ids := by
    intro ids hlists
    cases hrefused.symm.trans ((decodeUnfinished_format.1 tooLarge ids).mpr hlists)
  rcases decodeUnfinished_format.2.2.2 tooLarge hnot with ⟨reason, hreason, hwhy⟩
  cases hrefused.symm.trans hreason
  exact ⟨⟨hnone, (decodeUnfinished_format.1 _ []).mpr hnone⟩,
    ⟨hmany, (decodeUnfinished_format.1 _ _).mpr hmany⟩, hnot, hrefused, hwhy.mp rfl⟩

end Interface

end FixtureProbe
