import FixtureProbe.Proofs.Abi.RoundTrip
import FixtureProbe.Proofs.Chain.Keccak
import FixtureProbe.Precompile.Interface

/-!
# Call data

Call data is a selector followed by the arguments of the function that it selects. Where the four
functions take the arguments of the four calls and differ in their selectors, call data tells which
call it was made for, whatever follows it.
-/

namespace FixtureProbe

open Abi

theorem Abi.Function.length_selector (f : Function) : f.selector.length = 4 := by
  rw [selector, List.length_take, Keccak.length_digest]
  rfl

/-- A number in front of the data is read whatever its width is said to be. -/
theorem Abi.decode_uint_append (bits : Nat) (w : Word) (rest : Bytes) :
    decode [.uint bits] (w.toBytes ++ rest) = .ok [.uint w] := by
  have hholds : Holds (w.toBytes ++ rest) 0 w.toBytes := (Holds.self _).left
  have hne : w.toBytes ++ rest ≠ [] := by
    intro hnil
    have hlength := congrArg List.length hnil
    rw [List.length_append, Word.length_toBytes, List.length_nil] at hlength
    omega
  rw [decode, if_neg (fun hempty => hne hempty.1), Decode.values, Decode.value, hholds.word]
  rfl

theorem Abi.encode_uint (w : Word) : encode [.uint w] = w.toBytes := by
  simp [encode, Token.parts, Part.sequence, Part.heads, Part.tails, Token.isDynamic, Token.encode]

namespace Interface

/-!
# Encoding
-/

/-- The selector of the function that answers a call, and the arguments of the call. -/
def calldata (interface : Interface) (op : Operation) : Bytes :=
  (interface.function op).selector ++ Abi.encode (arguments op)

/-- Every call can be encoded. -/
def Encodes (interface : Interface) : Prop :=
  forall op, exists data, interface.encode op = .ok data

theorem encode_of_haveTypes {interface : Interface} {op : Operation}
    (h : Token.haveTypes (arguments op) (interface.function op).inputs = true) :
    interface.encode op = .ok (interface.calldata op) := by
  rw [encode_eq, Function.encodeInput, if_pos h]
  rfl

theorem Encodes.encode_eq {interface : Interface} (h : interface.Encodes) (op : Operation) :
    interface.encode op = .ok (interface.calldata op) := by
  rcases h op with ⟨data, hdata⟩
  apply encode_of_haveTypes
  rw [Interface.encode_eq, Function.encodeInput] at hdata
  split at hdata
  · next htypes => exact htypes
  · cases hdata

/-- The functions take what the calls give them, and each has a selector of its own. -/
structure Callable (interface : Interface) : Prop where
  getMatch : exists bits, interface.getMatch.inputs = [.uint bits]
  getLeague : exists bits, interface.getLeague.inputs = [.uint bits]
  getTeam : exists bits, interface.getTeam.inputs = [.uint bits]
  getUnfinishedMatches : interface.getUnfinishedMatches.inputs = []
  distinct : (interface.required.map (·.2.selector)).Nodup

/-- A call with an id goes to a function of one number, any other call to a function of none. -/
theorem Callable.inputs_eq {interface : Interface} (h : interface.Callable) (op : Operation) :
    exists bits, (interface.function op).inputs = op.argument.toList.map fun _ => .uint bits := by
  cases op with
  | getMatch id => exact h.getMatch
  | getLeague id => exact h.getLeague
  | getTeam id => exact h.getTeam
  | getUnfinishedMatches => exact ⟨256, h.getUnfinishedMatches⟩

theorem Callable.encodes {interface : Interface} (h : interface.Callable) :
    interface.Encodes := by
  intro op
  rcases h.inputs_eq op with ⟨bits, hinputs⟩
  exists interface.calldata op
  apply encode_of_haveTypes
  rw [hinputs, arguments]
  cases op.argument <;> rfl

/-!
# Decoding
-/

/-- The arguments of a call are read back, whatever follows them. -/
theorem Callable.decodeInput_append {interface : Interface} (h : interface.Callable)
    (op : Operation) (rest : Bytes) :
    (interface.function op).decodeInput (Abi.encode (arguments op) ++ rest) =
      .ok (arguments op) := by
  rcases h.inputs_eq op with ⟨bits, hinputs⟩
  rw [Function.decodeInput, hinputs, arguments]
  cases op.argument with
  | none =>
      change decode [] _ = .ok []
      rw [decode, if_neg (by simp)]
      rfl
  | some id =>
      change decode [.uint bits] (Abi.encode [.uint (Word.ofUInt64 id)] ++ rest) = _
      rw [Abi.encode_uint]
      exact decode_uint_append bits (Word.ofUInt64 id) rest

theorem firstId_arguments (name : String) (op : Operation) :
    firstId name (arguments op) = .ok op.argument := by
  rw [arguments]
  cases op.argument with
  | none => rfl
  | some id =>
      change firstId name [.uint (Word.ofUInt64 id)] = _
      rw [firstId, Word.toUInt64?_ofUInt64]

theorem Callable.decodeArguments_append {interface : Interface} (h : interface.Callable)
    (op : Operation) (rest : Bytes) :
    decodeArguments op.name (interface.function op) (Abi.encode (arguments op) ++ rest) =
      .ok op := by
  rw [decodeArguments, h.decodeInput_append]
  change (firstId op.name (arguments op) >>= _) = _
  rw [firstId_arguments, ok_bind, Operation.ofName?_name_argument]
  rfl

/-- The selector of a call finds the function of that call. -/
theorem find?_selector {interface : Interface}
    (hdistinct : (interface.required.map (·.2.selector)).Nodup) (op : Operation) :
    interface.required.find? (·.2.selector = (interface.function op).selector) =
      some (op.name, interface.function op) := by
  simp only [required, List.map_cons, List.map_nil, List.nodup_cons, List.mem_cons,
    List.not_mem_nil, or_false, not_or] at hdistinct
  obtain ⟨⟨hml, hmt, hmu⟩, ⟨hlt, hlu⟩, htu, -⟩ := hdistinct
  cases op with
  | getMatch id => simp [required, function, Operation.name]
  | getLeague id => simp [required, function, Operation.name, hml]
  | getTeam id => simp [required, function, Operation.name, hmt, hlt]
  | getUnfinishedMatches => simp [required, function, Operation.name, hmu, hlu, htu]

/-- Call data stands for the call that it was made for, whatever follows it. -/
theorem Callable.decodeCall_append {interface : Interface} (h : interface.Callable)
    (op : Operation) (rest : Bytes) :
    interface.decodeCall (interface.calldata op ++ rest) = .ok op := by
  have hselector : (interface.function op).selector.length = 4 :=
    (interface.function op).length_selector
  have hlength : ¬ (interface.calldata op ++ rest).length < 4 := by
    rw [calldata, List.length_append, List.length_append]
    omega
  have htake : (interface.calldata op ++ rest).take 4 = (interface.function op).selector := by
    rw [calldata, List.append_assoc, ← hselector, List.take_left]
  have hdrop : (interface.calldata op ++ rest).drop 4 = Abi.encode (arguments op) ++ rest := by
    rw [calldata, List.append_assoc, ← hselector, List.drop_left]
  rw [decodeCall_eq, if_neg hlength, htake, find?_selector h.distinct, hdrop]
  dsimp only
  rw [h.decodeArguments_append]
  rfl

theorem Callable.decodeCall_calldata {interface : Interface} (h : interface.Callable)
    (op : Operation) : interface.decodeCall (interface.calldata op) = .ok op := by
  simpa using h.decodeCall_append op []

/-!
# Different calls
-/

theorem eq_calldata_of_encode {interface : Interface} {op : Operation} {data : Bytes}
    (h : interface.encode op = .ok data) : data = interface.calldata op := by
  rw [encode_eq, Function.encodeInput] at h
  split at h
  · cases h
    rfl
  · cases h

theorem encode_arguments (op : Operation) :
    Abi.encode (arguments op) =
      (op.argument.map fun id => (Word.ofUInt64 id).toBytes).getD [] := by
  rw [arguments]
  cases op.argument with
  | none => rfl
  | some id => exact Abi.encode_uint (Word.ofUInt64 id)

theorem eq_of_toBytes_ofUInt64 {id id' : UInt64}
    (h : (Word.ofUInt64 id).toBytes = (Word.ofUInt64 id').toBytes) : id = id' := by
  have hword := congrArg Word.ofBytes h
  rw [Word.ofBytes_toBytes, Word.ofBytes_toBytes] at hword
  have hid := congrArg Word.toUInt64? hword
  rw [Word.toUInt64?_ofUInt64, Word.toUInt64?_ofUInt64] at hid
  exact Option.some.inj hid

theorem argument_eq_of_encode {op op' : Operation}
    (h : Abi.encode (arguments op) = Abi.encode (arguments op')) : op.argument = op'.argument := by
  rw [encode_arguments, encode_arguments] at h
  have hlength := congrArg List.length h
  cases hop : op.argument with
  | none =>
      cases hop' : op'.argument with
      | none => rfl
      | some id' => simp [hop, hop', Word.length_toBytes] at hlength
  | some id =>
      cases hop' : op'.argument with
      | none => simp [hop, hop', Word.length_toBytes] at hlength
      | some id' =>
          rw [hop, hop'] at h
          exact congrArg some (eq_of_toBytes_ofUInt64 h)

/-- Functions with selectors of their own give no two calls the same call data. -/
theorem eq_of_calldata_eq {interface : Interface}
    (hdistinct : (interface.required.map (·.2.selector)).Nodup) {op op' : Operation}
    (h : interface.calldata op = interface.calldata op') : op = op' := by
  have hlength : (interface.function op).selector.length =
      (interface.function op').selector.length := by
    rw [Abi.Function.length_selector, Abi.Function.length_selector]
  rcases List.append_inj h hlength with ⟨hselector, harguments⟩
  have hfind := find?_selector hdistinct op
  rw [hselector, find?_selector hdistinct op'] at hfind
  have hname : op'.name = op.name := congrArg Prod.fst (Option.some.inj hfind)
  have hop := Operation.ofName?_name_argument op
  rw [← hname, argument_eq_of_encode harguments, Operation.ofName?_name_argument] at hop
  exact (Option.some.inj hop).symm

/-!
# The embedded interface
-/

/-- The selectors, as any other tool computes them from the signatures. -/
theorem selectors_embedded :
    embedded.required.map (·.2.selector) =
      [[0x3d, 0x09, 0x2b, 0x3d], [0x45, 0x51, 0x6a, 0xaa], [0x00, 0x8e, 0x0f, 0x1b],
        [0x83, 0x1b, 0xfb, 0x76]] := by
  decide +kernel

theorem callable_embedded : embedded.Callable where
  getMatch := ⟨256, rfl⟩
  getLeague := ⟨256, rfl⟩
  getTeam := ⟨256, rfl⟩
  getUnfinishedMatches := rfl
  distinct := by
    rw [selectors_embedded]
    decide

end Interface

end FixtureProbe
