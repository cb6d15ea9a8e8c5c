import FixtureProbe.Proofs.Abi.Layout
import FixtureProbe.Proofs.Text.Utf8

/-!
# Decoding undoes encoding

Encoding looks at tokens and decoding at types. A token fits a type when the type tells a reader all
that the token takes for granted: how many bytes stand in a word, how many items there are, and
whether to follow an offset. Values that fit their types are read back, however deeply they nest, as
long as the offsets stay below the limit of the decoder.
-/

namespace FixtureProbe
namespace Abi

/-!
# Tokens that fit types
-/

mutual

/-- A token is read back as a value of a type. -/
inductive Fits : Token -> ParamType -> Prop where
  | address (value : Address) : Fits (.address value) .address
  | uint (value : Word) (bits : Nat) : Fits (.uint value) (.uint bits)
  | int (value : Word) (bits : Nat) : Fits (.int value) (.int bits)
  | bool (value : Bool) : Fits (.bool value) .bool
  | fixedBytes (value : Bytes) (hpos : 0 < value.length) (hle : value.length ≤ 32) :
      Fits (.fixedBytes value) (.fixedBytes value.length)
  | bytes (value : Bytes) : Fits (.bytes value) .bytes
  | string (value : String) : Fits (.string value) .string
  | array {items : List Token} {element : ParamType} (hlength : items.length < UInt32.size)
      (hitems : FitsAll items element) : Fits (.array items) (.array element)
  | fixedArray {items : List Token} {element : ParamType} (hpos : 0 < items.length)
      (hitems : FitsAll items element) : Fits (.fixedArray items) (.fixedArray element items.length)
  | tuple {items : List Token} {components : List ParamType} (hitems : FitsEach items components) :
      Fits (.tuple items) (.tuple components)

/-- All tokens of a list fit one type. -/
inductive FitsAll : List Token -> ParamType -> Prop where
  | nil (element : ParamType) : FitsAll [] element
  | cons {item : Token} {items : List Token} {element : ParamType} (hitem : Fits item element)
      (hitems : FitsAll items element) : FitsAll (item :: items) element

/-- The tokens of a list fit the types of a list, one for one. -/
inductive FitsEach : List Token -> List ParamType -> Prop where
  | nil : FitsEach [] []
  | cons {item : Token} {items : List Token} {type : ParamType} {types : List ParamType}
      (hitem : Fits item type) (hitems : FitsEach items types) :
      FitsEach (item :: items) (type :: types)

end

/-!
# Which parts stand behind offsets

Encoder and decoder must agree on what is dynamic. The token of an empty array of fixed size would
not know, which is why only arrays with an item fit.
-/

mutual

theorem Fits.isDynamic_eq {token : Token} {type : ParamType} (h : Fits token type) :
    token.isDynamic = type.isDynamic := by
  cases h with
  | fixedArray hpos hitems =>
      rename_i items element
      have hne : items ≠ [] := List.ne_nil_of_length_pos hpos
      rw [Token.isDynamic, ParamType.isDynamic, hitems.anyDynamic_eq hne]
  | tuple hitems =>
      rw [Token.isDynamic, ParamType.isDynamic, hitems.anyDynamic_eq]
  | _ => rfl

theorem FitsAll.anyDynamic_eq {items : List Token} {element : ParamType}
    (h : FitsAll items element) (hne : items ≠ []) :
    Token.anyDynamic items = element.isDynamic := by
  cases h with
  | nil => contradiction
  | cons hitem hitems =>
      rename_i item others
      rw [Token.anyDynamic, hitem.isDynamic_eq]
      cases others with
      | nil => rw [Token.anyDynamic, Bool.or_false]
      | cons next rest => rw [hitems.anyDynamic_eq (List.cons_ne_nil next rest), Bool.or_self]

theorem FitsEach.anyDynamic_eq {items : List Token} {types : List ParamType}
    (h : FitsEach items types) : Token.anyDynamic items = ParamType.anyDynamic types := by
  cases h with
  | nil => rfl
  | cons hitem hitems =>
      rw [Token.anyDynamic, ParamType.anyDynamic, hitem.isDynamic_eq, hitems.anyDynamic_eq]

end

/-- The part that a token is in a sequence. -/
def Token.part (token : Token) : Part :=
  ⟨token.isDynamic, token.encode⟩

theorem Token.parts_cons (token : Token) (tokens : List Token) :
    parts (token :: tokens) = token.part :: parts tokens :=
  rfl

theorem Token.allStatic_parts {items : List Token} (h : anyDynamic items = false) :
    Part.AllStatic (parts items) := by
  induction items with
  | nil =>
      intro part hpart
      cases hpart
  | cons item items ih =>
      rw [anyDynamic, Bool.or_eq_false_iff] at h
      intro part hpart
      cases hpart with
      | head => exact h.1
      | tail _ hrest => exact ih h.2 part hrest

/-!
# Reading values back

One case for each kind of value. Values that stand behind an offset are read in the data from there
on, where the offsets inside them begin anew.
-/

theorem Token.headSize_part_of_static {token : Token} (h : token.isDynamic = false) :
    token.part.headSize = token.encode.length := by
  simp [part, Part.headSize, h]

theorem Token.headSize_part_of_dynamic {token : Token} (h : token.isDynamic = true) :
    token.part.headSize = 32 := by
  simp [part, Part.headSize, h]

/-- A static composite value takes its heads and nothing else. -/
theorem Part.length_sequence_of_allStatic {parts : List Part} (h : AllStatic parts) :
    (sequence parts).length = headsSize parts := by
  rw [sequence, tails_eq_nil_of_allStatic h, List.append_nil, length_heads]

/--
Where the parts of a composite value are read, and where reading goes on after it. The type says
whether an offset leads there, and so does the token.
-/
theorem enter_of_placed {data : Bytes} {offset tail : Nat} {items : List Token} {dynamic : Bool}
    (hdynamic : Token.anyDynamic items = dynamic) (hsize : data.length < UInt32.size)
    (hplaced : Part.Placed data offset tail ⟨dynamic, Part.sequence (Token.parts items)⟩) :
    exists inner start innerTail, Decode.enter dynamic data offset = .ok (inner, start) ∧
      inner.length < UInt32.size ∧ Part.AllPlaced inner start innerTail (Token.parts items) ∧
      (if dynamic then offset + 32 else start + Part.headsSize (Token.parts items)) =
        offset + Part.headSize ⟨dynamic, Part.sequence (Token.parts items)⟩ := by
  cases dynamic with
  | true =>
      have hbody : Holds data (tail + 0) (Part.sequence (Token.parts items)) := hplaced.body
      have hle := hplaced.body.length_le
      exists data.drop tail, 0, Part.headsSize (Token.parts items)
      refine ⟨?_, ?_, Part.AllPlaced.of_sequence hbody.drop, rfl⟩
      · rw [Decode.enter, if_pos rfl, Holds.size hplaced.head (by omega), ok_bind,
          if_pos (by omega)]
        rfl
      · rw [List.length_drop]
        omega
  | false =>
      have hstatic := Token.allStatic_parts hdynamic
      exists data, offset, offset + Part.headsSize (Token.parts items)
      refine ⟨rfl, hsize, Part.AllPlaced.of_sequence_of_allStatic hstatic hplaced.head, ?_⟩
      rw [if_neg (by simp), Part.headSize, if_neg (by simp),
        Part.length_sequence_of_allStatic hstatic]

mutual

theorem Fits.value {token : Token} {type : ParamType} (h : Fits token type) {data : Bytes}
    {offset tail : Nat} (hsize : data.length < UInt32.size)
    (hplaced : token.part.Placed data offset tail) :
    Decode.value type data offset = .ok (token, offset + token.part.headSize) := by
  cases h with
  | address value =>
      rw [Decode.value, Holds.word (w := value.toWord) hplaced.head, ok_bind,
        Address.ofWord_toWord, Token.headSize_part_of_static rfl, Token.encode,
        Word.length_toBytes]
      rfl
  | uint value bits =>
      rw [Decode.value, Holds.word (w := value) hplaced.head, ok_bind,
        Token.headSize_part_of_static rfl, Token.encode, Word.length_toBytes]
      rfl
  | int value bits =>
      rw [Decode.value, Holds.word (w := value) hplaced.head, ok_bind,
        Token.headSize_part_of_static rfl, Token.encode, Word.length_toBytes]
      rfl
  | bool value =>
      rw [Decode.value, Holds.bool hplaced.head, ok_bind, Token.headSize_part_of_static rfl,
        Token.encode, length_natWord]
      rfl
  | fixedBytes value hpos hle =>
      have hhead : Holds data offset (Bytes.padRight value) := hplaced.head
      have hlength : (Bytes.padRight value).length = 32 := by
        simp only [Bytes.padRight, List.length_append, List.length_replicate]
        omega
      rw [Decode.value, hhead.left.window, ok_bind, Token.headSize_part_of_static rfl,
        Token.encode, hlength]
      rfl
  | bytes value =>
      rw [Decode.value, Holds.byteString hplaced.head hplaced.body hsize, ok_bind,
        Token.headSize_part_of_dynamic rfl]
      rfl
  | string value =>
      rw [Decode.value, Holds.byteString hplaced.head hplaced.body hsize, ok_bind,
        Utf8.decodeLossy_encode, Token.headSize_part_of_dynamic rfl]
      rfl
  | array hlength hitems =>
      rename_i items element
      have hbody : Holds data tail
          (natWord items.length ++ Part.sequence (Token.parts items)) := hplaced.body
      have hle := hbody.length_le
      have hsequence : Holds data (tail + 32 + 0) (Part.sequence (Token.parts items)) := by
        simpa using hbody.right
      have hinner : (data.drop (tail + 32)).length < UInt32.size := by
        rw [List.length_drop]
        omega
      rw [Decode.value, Holds.size hplaced.head (by omega), ok_bind, hbody.left.size hlength,
        ok_bind, hitems.repeated hinner (Part.AllPlaced.of_sequence hsequence.drop), ok_bind,
        Token.headSize_part_of_dynamic rfl]
      rfl
  | fixedArray hpos hitems =>
      rename_i items element
      have hdynamic := hitems.anyDynamic_eq (List.ne_nil_of_length_pos hpos)
      have hplaced' : Part.Placed data offset tail
          ⟨element.isDynamic, Part.sequence (Token.parts items)⟩ := hdynamic ▸ hplaced
      obtain ⟨inner, start, innerTail, henter, hinner, hparts, hnext⟩ :=
        enter_of_placed hdynamic hsize hplaced'
      rw [Decode.value, henter, ok_bind]
      dsimp only
      rw [hitems.repeated hinner hparts, ok_bind]
      dsimp only
      rw [hnext, ← hdynamic]
      rfl
  | tuple hitems =>
      rename_i items components
      have hdynamic := hitems.anyDynamic_eq
      have hplaced' : Part.Placed data offset tail
          ⟨ParamType.anyDynamic components, Part.sequence (Token.parts items)⟩ :=
        hdynamic ▸ hplaced
      obtain ⟨inner, start, innerTail, henter, hinner, hparts, hnext⟩ :=
        enter_of_placed hdynamic hsize hplaced'
      rw [Decode.value, henter, ok_bind]
      dsimp only
      rw [hitems.values hinner hparts, ok_bind]
      dsimp only
      rw [hnext, ← hdynamic]
      rfl

theorem FitsAll.repeated {items : List Token} {element : ParamType} (h : FitsAll items element)
    {data : Bytes} {offset tail : Nat} (hsize : data.length < UInt32.size)
    (hplaced : Part.AllPlaced data offset tail (Token.parts items)) :
    Decode.repeated (Decode.value element data) items.length offset =
      .ok (items, offset + Part.headsSize (Token.parts items)) := by
  cases h with
  | nil => rfl
  | cons hitem hitems =>
      rename_i item others
      rw [Token.parts_cons] at hplaced
      rw [List.length_cons, Decode.repeated, hitem.value hsize hplaced.first, ok_bind]
      dsimp only
      rw [hitems.repeated hsize hplaced.others, ok_bind, Nat.add_assoc]
      rfl

theorem FitsEach.values {items : List Token} {types : List ParamType} (h : FitsEach items types)
    {data : Bytes} {offset tail : Nat} (hsize : data.length < UInt32.size)
    (hplaced : Part.AllPlaced data offset tail (Token.parts items)) :
    Decode.values types data offset =
      .ok (items, offset + Part.headsSize (Token.parts items)) := by
  cases h with
  | nil => rfl
  | cons hitem hitems =>
      rw [Token.parts_cons] at hplaced
      rw [Decode.values, hitem.value hsize hplaced.first, ok_bind]
      dsimp only
      rw [hitems.values hsize hplaced.others, ok_bind, Nat.add_assoc]
      rfl

end

/-- Values that fit their types are read back from their encoding. -/
theorem FitsEach.decode_encode {items : List Token} {types : List ParamType}
    (h : FitsEach items types) (hne : encode items ≠ [])
    (hsize : (encode items).length < UInt32.size) : decode types (encode items) = .ok items := by
  have hplaced : Part.AllPlaced (encode items) 0 _ (Token.parts items) :=
    Part.AllPlaced.of_sequence (Holds.self (encode items))
  rw [decode, if_neg (fun hempty => hne hempty.1), h.values hsize hplaced]
  rfl

end Abi
end FixtureProbe
