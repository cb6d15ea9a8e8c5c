import FixtureProbe.Proofs.Probe.Failures

/-!
# The ways to make a call

A call can be read into a record, read and forgotten, left undecoded, or costed. All four ask with the
same call data, or not at all; and of the first three one can tell from another how it ends.
-/

namespace FixtureProbe

open Dialogue

variable {σ : Type}

namespace Reader

variable {reader : Reader} {op : Operation}

/-!
# Calls that are not sent
-/

section Unsent

variable {e : ProbeError} (h : reader.interface.encode op = .error e) (node : Node σ) (s : σ)

include h

theorem readEntity_runs_unsent : Runs node s (reader.readEntity op) (.error e) [] s := by
  have hcall : Runs node s (reader.call op) (.error e) [] s := by
    rw [call, h]
    exact Runs.pure _
  rw [readEntity_eq_read]
  exact hcall.silent_bind (Runs.pure _)

theorem invoke_runs_unsent : Runs node s (reader.invoke op) (.error e) [] s := by
  rw [invoke_eq_map_readEntity]
  exact (readEntity_runs_unsent h node s).map

theorem rawCall_runs_unsent : Runs node s (reader.rawCall op) (.error e) [] s := by
  rw [rawCall, h]
  exact Runs.pure _

theorem estimateGas_runs_unsent : Runs node s (reader.estimateGas op) (.error e) [] s := by
  rw [estimateGas, h]
  exact Runs.pure _

end Unsent

/-!
# Calls that are sent
-/

section Sent

variable (h : reader.interface.encode op = .ok (reader.interface.calldata op)) (node : Node σ)
  (s : σ)

include h

theorem readEntity_runs_sent :
    Runs node s (reader.readEntity op)
      (verdict op (reader.interface.decodeEntity op) (reader.reply node s op))
      [reader.called op (reader.reply node s op)] (reader.stateAfter node s op) := by
  rw [readEntity_eq_read]
  exact (call_runs_of_encode h node s).bind (Runs.pure _)

theorem invoke_runs_sent :
    Runs node s (reader.invoke op)
      ((verdict op (reader.interface.decodeEntity op) (reader.reply node s op)).map fun _ => ())
      [reader.called op (reader.reply node s op)] (reader.stateAfter node s op) := by
  rw [invoke_eq_map_readEntity]
  exact (readEntity_runs_sent h node s).map

end Sent

end Reader

/-!
# Previews
-/

/-- A report on an answer that is not decoded tells the call data, the length of the answer, and its
first bytes in lower-case hexadecimal digits. -/
structure RawCall.Previews (report : RawCall) (op : Operation) (calldata response : Bytes) :
    Prop where
  operation : report.operation = op
  calldata : report.calldata = calldata
  responseLength : report.responseLength = response.length
  preview : report.preview =
    "0x" ++ String.ofList (Bytes.hexDigits (response.take (min 32 response.length)))
  lower : forall c, c ∈ Bytes.hexDigits (response.take (min 32 response.length)) ->
    '0' ≤ c ∧ c ≤ '9' ∨ 'a' ≤ c ∧ c ≤ 'f'
  decoded : exists shown, Bytes.ofHex? report.preview = some shown ∧
    shown.length = min 32 response.length ∧ shown <+: response

theorem Bytes.hexDigit_lower {n : Nat} (h : n < 16) :
    '0' ≤ hexDigit n ∧ hexDigit n ≤ '9' ∨ 'a' ≤ hexDigit n ∧ hexDigit n ≤ 'f' := by
  have hall : forall n : Fin 16, '0' ≤ hexDigit n ∧ hexDigit n ≤ '9' ∨
      'a' ≤ hexDigit n ∧ hexDigit n ≤ 'f' := by
    decide
  exact hall ⟨n, h⟩

theorem Bytes.hexDigits_lower {bytes : Bytes} {c : Char} (h : c ∈ hexDigits bytes) :
    '0' ≤ c ∧ c ≤ '9' ∨ 'a' ≤ c ∧ c ≤ 'f' := by
  rcases List.mem_flatMap.mp h with ⟨b, -, hc⟩
  have hlt := b.toNat_lt
  rw [List.mem_cons, List.mem_singleton] at hc
  rcases hc with rfl | rfl
  · exact hexDigit_lower (by omega)
  · exact hexDigit_lower (by omega)

theorem Bytes.toHex_eq_append (bytes : Bytes) :
    toHex bytes = "0x" ++ String.ofList (hexDigits bytes) := by
  have hmark : "0x" = String.ofList ['0', 'x'] := by
    decide
  rw [hmark, ← String.ofList_append]
  rfl

theorem Reader.rawCallOf_previews (op : Operation) (calldata response : Bytes) :
    (rawCallOf op calldata response).Previews op calldata response := by
  have hshown : response.take RawCall.previewBytes = response.take (min 32 response.length) :=
    List.take_eq_take_min
  constructor
  · rfl
  · rfl
  · rfl
  · rw [rawCallOf, hshown, Bytes.toHex_eq_append]
  · exact fun _ => Bytes.hexDigits_lower
  · refine ⟨response.take RawCall.previewBytes, Bytes.ofHex?_toHex _, List.length_take, ?_⟩
    exact List.take_prefix _ _

/-!
# All four ways
-/

namespace Reader

/-- How the four ways to make a call go together, all of them from one state of a node. -/
structure CallWays (reader : Reader) (op : Operation) (node : Node σ) (s : σ) : Prop where
  /-- A call that cannot be encoded asks nothing and fails with one and the same failure. -/
  unsent : forall e, reader.interface.encode op = .error e ->
    (exists reason, e = .lookup op.name op.argument reason) ∧
    Runs node s (reader.readEntity op) (.error e) [] s ∧
    Runs node s (reader.invoke op) (.error e) [] s ∧
    Runs node s (reader.rawCall op) (.error e) [] s ∧
    Runs node s (reader.estimateGas op) (.error e) [] s
  /-- Any other call is one request. -/
  sent : forall calldata, reader.interface.encode op = .ok calldata ->
    ((reader.readEntity op).run node s).requests = [.call reader.address calldata] ∧
    ((reader.invoke op).run node s).requests = [.call reader.address calldata] ∧
    ((reader.rawCall op).run node s).requests = [.call reader.address calldata] ∧
    ((reader.estimateGas op).run node s).requests = [.estimateGas reader.address calldata]
  refused : forall e, ((reader.rawCall op).run node s).value = .error e ->
    ((reader.readEntity op).run node s).value = .error e ∧
    ((reader.invoke op).run node s).value = .error e
  /-- All three are given the same answer; whoever decodes it ends as the decoder does. -/
  answered : forall report, ((reader.rawCall op).run node s).value = .ok report ->
    exists calldata response, reader.interface.encode op = .ok calldata ∧
      report.Previews op calldata response ∧
      ((reader.rawCall op).run node s).exchanges =
        [⟨.call reader.address calldata, .ok response⟩] ∧
      ((reader.readEntity op).run node s).exchanges =
        [⟨.call reader.address calldata, .ok response⟩] ∧
      ((reader.invoke op).run node s).exchanges =
        [⟨.call reader.address calldata, .ok response⟩] ∧
      ((reader.readEntity op).run node s).value = reader.interface.decodeEntity op response ∧
      ((reader.invoke op).run node s).value =
        (reader.interface.decodeEntity op response).map fun _ => ()

theorem callWays_of_unsent {reader : Reader} {op : Operation} {e : ProbeError}
    (h : reader.interface.encode op = .error e) (node : Node σ) (s : σ) :
    reader.CallWays op node s := by
  have hread := readEntity_runs_unsent h node s
  have hinvoke := invoke_runs_unsent h node s
  have hraw := rawCall_runs_unsent h node s
  have hgas := estimateGas_runs_unsent h node s
  constructor
  · intro e' he
    rw [h] at he
    cases he
    exact ⟨reader.interface.encode_namesCall op e h, hread, hinvoke, hraw, hgas⟩
  · intro calldata hcalldata
    rw [h] at hcalldata
    cases hcalldata
  · intro e' he
    rw [hraw.value] at he
    cases he
    exact ⟨hread.value, hinvoke.value⟩
  · intro report hreport
    rw [hraw.value] at hreport
    cases hreport

theorem callWays_of_sent {reader : Reader} {op : Operation}
    (h : reader.interface.encode op = .ok (reader.interface.calldata op)) (node : Node σ)
    (s : σ) : reader.CallWays op node s := by
  have hread := readEntity_runs_sent h node s
  have hinvoke := invoke_runs_sent h node s
  have hraw := rawCall_runs_of_encode h node s
  have hgas := estimateGas_runs_of_encode h node s
  constructor
  · intro e he
    rw [h] at he
    cases he
  · intro calldata hcalldata
    rw [h] at hcalldata
    cases hcalldata
    exact ⟨hread.requests, hinvoke.requests, hraw.requests, hgas.requests⟩
  · intro e he
    rw [hraw.value] at he
    rw [hread.value, hinvoke.value]
    cases hreply : reader.reply node s op with
    | ok response =>
        rw [hreply] at he
        cases he
    | error reason =>
        rw [hreply] at he
        cases he
        exact ⟨rfl, rfl⟩
  · intro report hreport
    cases hreply : reader.reply node s op with
    | ok response =>
        rw [hreply] at hread hinvoke hraw
        rw [hraw.value] at hreport
        cases hreport
        exact ⟨_, response, h, rawCallOf_previews op _ response, hraw.exchanges, hread.exchanges,
          hinvoke.exchanges, hread.value, hinvoke.value⟩
    | error reason =>
        rw [hraw.value, hreply] at hreport
        cases hreport

/-- The ways of a call agree for any interface, fit for the call or not, and with any node. -/
theorem callWays (reader : Reader) (op : Operation) (node : Node σ) (s : σ) :
    reader.CallWays op node s := by
  cases hencode : reader.interface.encode op with
  | error e => exact callWays_of_unsent hencode node s
  | ok calldata =>
      obtain rfl := Interface.eq_calldata_of_encode hencode
      exact callWays_of_sent hencode node s

end Reader

end FixtureProbe
