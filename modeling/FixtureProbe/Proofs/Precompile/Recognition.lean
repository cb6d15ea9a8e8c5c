import FixtureProbe.Proofs.Precompile.CallData

/-!
# Call data that stands for a call, and call data that does not

Where the four functions take the arguments of the four calls and differ in their selectors, every
byte string is of one of two kinds. Either it begins with the call data of a call, and then it stands
for that call; or it is too short, selects none of the four functions, ends inside an argument, or
holds an argument that is no id, and then it is refused for this reason. The two kinds exclude each
other because each of them tells what the decoder does.
-/

namespace FixtureProbe

open Abi

/-!
# A sole number
-/

theorem Abi.decode_uint (bits : Nat) {data : Bytes} (h : 32 ≤ data.length) :
    decode [.uint bits] data = .ok [.uint (Word.ofBytes (data.take 32))] := by
  have hlength : (data.take 32).length = 32 := by
    rw [List.length_take]
    omega
  have hread := decode_uint_append bits (Word.ofBytes (data.take 32)) (data.drop 32)
  rw [Word.toBytes_ofBytes hlength, List.take_append_drop] at hread
  exact hread

theorem Abi.decode_uint_of_lt (bits : Nat) {data : Bytes} (h : data.length < 32) :
    decode [.uint bits] data = .error (if data.length = 0 then .emptyData else .invalidData) := by
  cases data with
  | nil => rfl
  | cons byte rest =>
      have hshort : ¬ 0 + 32 ≤ (byte :: rest).length := by
        omega
      have hwindow : Decode.window (byte :: rest) 0 32 = .error .invalidData := by
        rw [Decode.window, Bytes.slice?, if_neg hshort]
      rw [decode, if_neg (by simp), Decode.values, Decode.value, Decode.word, hwindow]
      rfl

namespace Interface

/-!
# Which function is selected
-/

/-- The calls of a function with an id. -/
inductive WithId : (UInt64 -> Operation) -> Prop where
  | getMatch : WithId .getMatch
  | getLeague : WithId .getLeague
  | getTeam : WithId .getTeam

variable {interface : Interface} {data : Bytes}

theorem decodeCall_of_selector (hdistinct : (interface.required.map (·.2.selector)).Nodup)
    {op : Operation} (hselector : (interface.function op).selector = data.take 4) :
    interface.decodeCall data =
      (decodeArguments op.name (interface.function op) (data.drop 4)).mapError .interface := by
  have htaken := (interface.function op).length_selector
  rw [hselector, List.length_take] at htaken
  have hlength : ¬ data.length < 4 := by
    omega
  rw [decodeCall_eq, if_neg hlength, ← hselector, find?_selector hdistinct]

theorem decodeCall_of_unknown (hlength : 4 ≤ data.length)
    (hunknown : forall op, (interface.function op).selector ≠ data.take 4) :
    interface.decodeCall data =
      .error (.interface ("unknown selector " ++ Bytes.toHex (data.take 4))) := by
  have hnone : interface.required.find? (·.2.selector = data.take 4) = none := by
    apply List.find?_eq_none.mpr
    intro entry hentry
    rw [decide_eq_true_eq]
    simp only [required, List.mem_cons, List.not_mem_nil, or_false] at hentry
    rcases hentry with rfl | rfl | rfl | rfl
    · exact hunknown (.getMatch 0)
    · exact hunknown (.getLeague 0)
    · exact hunknown (.getTeam 0)
    · exact hunknown .getUnfinishedMatches
  rw [decodeCall_eq, if_neg (Nat.not_lt.mpr hlength), hnone]

/-!
# What is refused
-/

/-- Call data that stands for no call, with the reason that is given for it. -/
inductive Refuses (interface : Interface) (data : Bytes) : (reason : String) -> Prop where
  | short (hlength : data.length < 4) :
      Refuses interface data "calldata shorter than a selector"
  | unknown (hlength : 4 ≤ data.length)
      (hunknown : forall op, (interface.function op).selector ≠ data.take 4) :
      Refuses interface data ("unknown selector " ++ Bytes.toHex (data.take 4))
  | truncated {call : UInt64 -> Operation} (hcall : WithId call)
      (hselector : (interface.function (call 0)).selector = data.take 4)
      (hlength : data.length < 36) :
      Refuses interface data
        (if data.length = 4 then CodecError.emptyData else CodecError.invalidData).message
  | large {call : UInt64 -> Operation} (hcall : WithId call)
      (hselector : (interface.function (call 0)).selector = data.take 4)
      (hlength : 36 ≤ data.length)
      (hlarge : UInt64.size ≤ Bytes.toNat ((data.drop 4).take 32)) :
      Refuses interface data ((call 0).name ++ " argument exceeds u64")

theorem Callable.inputs_withId (h : interface.Callable) {call : UInt64 -> Operation}
    (hcall : WithId call) : exists bits, (interface.function (call 0)).inputs = [.uint bits] := by
  cases hcall with
  | getMatch => exact h.getMatch
  | getLeague => exact h.getLeague
  | getTeam => exact h.getTeam

theorem toNat_ofBytes_argument (hlength : 36 ≤ data.length) :
    (Word.ofBytes ((data.drop 4).take 32)).toNat = Bytes.toNat ((data.drop 4).take 32) := by
  have hlt := Bytes.toNat_lt ((data.drop 4).take 32)
  have hwidth : ((data.drop 4).take 32).length = 32 := by
    rw [List.length_take, List.length_drop]
    omega
  rw [hwidth, Nat.pow_eq] at hlt
  rw [Word.ofBytes, BitVec.toNat_ofNat]
  omega

/-- Refused call data is refused for its reason. -/
theorem Callable.decodeCall_of_refuses (h : interface.Callable) {reason : String}
    (hrefuses : Refuses interface data reason) :
    interface.decodeCall data = .error (.interface reason) := by
  cases hrefuses with
  | short hlength => rw [decodeCall, if_pos hlength]
  | unknown hlength hunknown => exact decodeCall_of_unknown hlength hunknown
  | truncated hcall hselector hlength =>
      rename_i call
      rcases h.inputs_withId hcall with ⟨bits, hinputs⟩
      have hdrop : (data.drop 4).length < 32 := by
        rw [List.length_drop]
        omega
      have htaken := (interface.function (call 0)).length_selector
      rw [hselector, List.length_take] at htaken
      have hempty : (data.drop 4).length = 0 ↔ data.length = 4 := by
        rw [List.length_drop]
        omega
      rw [decodeCall_of_selector h.distinct hselector, decodeArguments, Function.decodeInput, hinputs,
        decode_uint_of_lt bits hdrop]
      simp only [hempty]
      rfl
  | large hcall hselector hlength hlarge =>
      rename_i call
      rcases h.inputs_withId hcall with ⟨bits, hinputs⟩
      have hdrop : 32 ≤ (data.drop 4).length := by
        rw [List.length_drop]
        omega
      have hnone : (Word.ofBytes ((data.drop 4).take 32)).toUInt64? = none := by
        rw [Word.toUInt64?, toNat_ofBytes_argument hlength, if_neg (Nat.not_lt.mpr hlarge)]
      rw [decodeCall_of_selector h.distinct hselector, decodeArguments, Function.decodeInput, hinputs,
        decode_uint bits hdrop]
      change (firstId _ [.uint (Word.ofBytes ((data.drop 4).take 32))] >>= _).mapError _ = _
      rw [firstId, hnone]
      rfl

/-!
# The two kinds of call data
-/

theorem calldata_withId {call : UInt64 -> Operation} (hcall : WithId call) (id : UInt64) :
    interface.calldata (call id) =
      (interface.function (call 0)).selector ++ (Word.ofUInt64 id).toBytes := by
  have hfunction : interface.function (call id) = interface.function (call 0) := by
    cases hcall <;> rfl
  have harguments : arguments (call id) = [.uint (Word.ofUInt64 id)] := by
    cases hcall <;> rfl
  rw [calldata, hfunction, harguments, encode_uint]

theorem calldata_getUnfinishedMatches :
    interface.calldata .getUnfinishedMatches = interface.getUnfinishedMatches.selector := by
  have harguments : Abi.encode (arguments .getUnfinishedMatches) = [] := rfl
  rw [calldata, harguments, List.append_nil, function]

/-- Behind the selector of a function with an id stands an id, or what is there is refused. -/
theorem begins_or_refused_withId {call : UInt64 -> Operation} (hcall : WithId call)
    (hselector : (interface.function (call 0)).selector = data.take 4) :
    (exists op, interface.calldata op <+: data) ∨ exists reason, Refuses interface data reason := by
  by_cases hlength : 36 ≤ data.length
  · by_cases hlarge : UInt64.size ≤ Bytes.toNat ((data.drop 4).take 32)
    · exact Or.inr ⟨_, .large hcall hselector hlength hlarge⟩
    · have hvalue := toNat_ofBytes_argument hlength
      have hword : ((data.drop 4).take 32).length = 32 := by
        rw [List.length_take, List.length_drop]
        omega
      -- The id is the number that the argument spells, and widening it gives the argument back.
      have hid : Word.ofUInt64 (UInt64.ofNat (Bytes.toNat ((data.drop 4).take 32))) =
          Word.ofBytes ((data.drop 4).take 32) := by
        apply BitVec.eq_of_toNat_eq
        rw [Word.toNat_ofUInt64, hvalue, UInt64.toNat_ofNat']
        exact Nat.mod_eq_of_lt (Nat.not_le.mp hlarge)
      refine Or.inl ⟨call (UInt64.ofNat (Bytes.toNat ((data.drop 4).take 32))), ?_⟩
      rw [calldata_withId hcall, hid, Word.toBytes_ofBytes hword, hselector]
      exists (data.drop 4).drop 32
      rw [List.append_assoc, List.take_append_drop, List.take_append_drop]
  · exact Or.inr ⟨_, .truncated hcall hselector (Nat.not_le.mp hlength)⟩

theorem begins_or_refused (interface : Interface) (data : Bytes) :
    (exists op, interface.calldata op <+: data) ∨ exists reason, Refuses interface data reason := by
  by_cases hlength : data.length < 4
  · exact Or.inr ⟨_, .short hlength⟩
  · by_cases hknown : exists op, (interface.function op).selector = data.take 4
    · rcases hknown with ⟨op, hselector⟩
      cases op with
      | getMatch id => exact begins_or_refused_withId .getMatch hselector
      | getLeague id => exact begins_or_refused_withId .getLeague hselector
      | getTeam id => exact begins_or_refused_withId .getTeam hselector
      | getUnfinishedMatches =>
          refine Or.inl ⟨.getUnfinishedMatches, ?_⟩
          rw [calldata_getUnfinishedMatches]
          change (interface.function .getUnfinishedMatches).selector <+: data
          rw [hselector]
          exact List.take_prefix 4 data
    · exact Or.inr ⟨_, .unknown (Nat.not_lt.mp hlength) fun op hop => hknown ⟨op, hop⟩⟩

theorem Callable.decodeCall_of_prefix (h : interface.Callable) {op : Operation}
    (hbegins : interface.calldata op <+: data) : interface.decodeCall data = .ok op := by
  rcases hbegins with ⟨rest, rfl⟩
  exact h.decodeCall_append op rest

theorem Callable.decodeCall_eq_ok (h : interface.Callable) {op : Operation} :
    interface.decodeCall data = .ok op ↔ interface.calldata op <+: data := by
  constructor
  · intro hdecode
    rcases begins_or_refused interface data with ⟨other, hbegins⟩ | ⟨reason, hrefuses⟩
    · rw [h.decodeCall_of_prefix hbegins] at hdecode
      cases hdecode
      exact hbegins
    · rw [h.decodeCall_of_refuses hrefuses] at hdecode
      cases hdecode
  · exact h.decodeCall_of_prefix

theorem Callable.decodeCall_eq_error (h : interface.Callable) {e : ProbeError} :
    interface.decodeCall data = .error e ↔
      exists reason, e = .interface reason ∧ Refuses interface data reason := by
  constructor
  · intro hdecode
    rcases begins_or_refused interface data with ⟨op, hbegins⟩ | ⟨reason, hrefuses⟩
    · rw [h.decodeCall_of_prefix hbegins] at hdecode
      cases hdecode
    · rw [h.decodeCall_of_refuses hrefuses] at hdecode
      cases hdecode
      exact ⟨reason, rfl, hrefuses⟩
  · rintro ⟨reason, rfl, hrefuses⟩
    exact h.decodeCall_of_refuses hrefuses

/-- Call data stands for a call exactly when it begins with the encoding of that call; so every call
is recovered from its encoding, no two calls share one, and what begins with none is refused, for the
reason that holds of it. -/
theorem decodeCall_recognises (interface : Interface) (h : interface.Callable) :
    (forall data op, interface.decodeCall data = .ok op ↔
      exists calldata, interface.encode op = .ok calldata ∧ calldata <+: data) ∧
    (forall op, exists calldata,
      interface.encode op = .ok calldata ∧ interface.decodeCall calldata = .ok op) ∧
    (forall op₁ op₂ calldata, interface.encode op₁ = .ok calldata ->
      interface.encode op₂ = .ok calldata -> op₁ = op₂) ∧
    (forall data e, interface.decodeCall data = .error e ↔
      exists reason, e = .interface reason ∧ Refuses interface data reason) := by
  have hencode := h.encodes.encode_eq
  refine ⟨?_, ?_, ?_, ?_⟩
  · intro data op
    rw [h.decodeCall_eq_ok, hencode]
    constructor
    · intro hbegins
      exact ⟨_, rfl, hbegins⟩
    · rintro ⟨calldata, heq, hbegins⟩
      cases heq
      exact hbegins
  · intro op
    exact ⟨_, hencode op, h.decodeCall_calldata op⟩
  · intro op₁ op₂ calldata h₁ h₂
    rw [hencode] at h₁ h₂
    have hrecovered := h.decodeCall_calldata op₁
    rw [Except.ok.inj h₁, ← Except.ok.inj h₂, h.decodeCall_calldata op₂] at hrecovered
    exact (Except.ok.inj hrecovered).symm
  · intro data e
    exact h.decodeCall_eq_error

theorem decodeCall_recognises_embedded :
    embedded.Callable ∧
    embedded.decodeCall (embedded.calldata (.getTeam 18446744073709551615) ++ [7]) =
      .ok (.getTeam 18446744073709551615) ∧
    embedded.decodeCall
        ([0x00, 0x8e, 0x0f, 0x1b] ++ List.replicate 23 0 ++ [1] ++ List.replicate 8 0) =
      .error (.interface ("getTeam" ++ " argument exceeds u64")) := by
  have h := callable_embedded
  have hselector : (embedded.function (.getTeam 0)).selector = [0x00, 0x8e, 0x0f, 0x1b] := by
    have hselectors := selectors_embedded
    simp only [required, List.map_cons, List.cons.injEq] at hselectors
    exact hselectors.2.2.1
  refine ⟨h, ?_, ?_⟩
  · apply ((decodeCall_recognises embedded h).1 _ _).mpr
    exact ⟨_, h.encodes.encode_eq _, List.prefix_append _ _⟩
  · apply ((decodeCall_recognises embedded h).2.2.2 _ _).mpr
    exact ⟨_, rfl, .large .getTeam hselector (by decide) (by decide)⟩

end Interface

end FixtureProbe
