import FixtureProbe.Probe.Survey
import FixtureProbe.Proofs.Node.Exchange
import FixtureProbe.Proofs.Precompile.CallData

/-!
# What the operations of a reader exchange

A call that does not fit the interface asks nothing; every other call is one request, made once, and
its outcome is what the reply says. Everything that goes on with the outcome of a call, and everything
that makes several calls in turn, inherits its requests.
-/

namespace FixtureProbe

open Dialogue

variable {α ω σ : Type}

/-!
# Entities
-/

/-- What the answer to a call holds. -/
abbrev Operation.Entity : Operation -> Type
  | .getMatch _ => Match
  | .getLeague _ => League
  | .getTeam _ => Team
  | .getUnfinishedMatches => List UInt64

/-- The entity in the answer to a call. -/
def Interface.decodeEntity (interface : Interface) :
    (op : Operation) -> Bytes -> Except ProbeError op.Entity
  | .getMatch id => interface.decodeMatch id
  | .getLeague id => interface.decodeLeague id
  | .getTeam id => interface.decodeTeam id
  | .getUnfinishedMatches => interface.decodeUnfinished

/-- Reads the entity that a call asks for. -/
def Reader.readEntity (reader : Reader) :
    (op : Operation) -> Dialogue Log.Record (Outcome op.Entity)
  | .getMatch id => reader.readMatch id
  | .getLeague id => reader.readLeague id
  | .getTeam id => reader.readTeam id
  | .getUnfinishedMatches => reader.readUnfinished

theorem Reader.readEntity_eq_read (reader : Reader) (op : Operation) :
    reader.readEntity op = reader.read op (reader.interface.decodeEntity op) := by
  cases op <;> rfl

/-- To invoke a call is to read its entity and to forget it. -/
theorem Reader.invoke_eq_map_readEntity (reader : Reader) (op : Operation) :
    reader.invoke op = Except.map (fun _ => ()) <$> reader.readEntity op := by
  cases op <;> rfl

namespace Reader

/-!
# Calls and the replies to them
-/

/-- The request that makes a call. -/
def callRequest (reader : Reader) (op : Operation) : Request :=
  .call reader.address (reader.interface.calldata op)

/-- The request that asks what a call would cost. -/
def gasRequest (reader : Reader) (op : Operation) : Request :=
  .estimateGas reader.address (reader.interface.calldata op)

/-- The requests that make a call: none if it cannot be encoded. -/
def callRequests (reader : Reader) (op : Operation) : List Request :=
  (reader.interface.encode op).toOption.toList.map (.call reader.address)

/-- The requests that ask what a call would cost: none if it cannot be encoded. -/
def gasRequests (reader : Reader) (op : Operation) : List Request :=
  (reader.interface.encode op).toOption.toList.map (.estimateGas reader.address)

/-- What a node in a given state replies to a call. -/
def reply (reader : Reader) (node : Node σ) (s : σ) (op : Operation) : Except String Bytes :=
  (node.answer s (reader.callRequest op)).1

/-- The state in which a call leaves the node. -/
def stateAfter (reader : Reader) (node : Node σ) (s : σ) (op : Operation) : σ :=
  (node.answer s (reader.callRequest op)).2

/-- A call with the reply to it. -/
def called (reader : Reader) (op : Operation) (reply : Except String Bytes) : Exchange :=
  ⟨reader.callRequest op, reply⟩

/-- What a reply says about the entity that a call asks for. -/
def verdict (op : Operation) (decode : Bytes -> Except ProbeError α)
    (reply : Except String Bytes) : Outcome α :=
  reply.mapError (ProbeError.ofOperation op) >>= decode

/-!
# One call

A refusal is noted, which is no exchange.
-/

theorem settle_runs (node : Node σ) (s : σ) (op : Operation) (reply : Except String α) :
    Runs node s (settle op reply) (reply.mapError (ProbeError.ofOperation op)) [] s := by
  cases reply with
  | ok value => exact Runs.pure _
  | error reason => exact (Runs.note _).silent_bind (Runs.pure _)

theorem settle_makes (op : Operation) (reply : Except String α) : (settle op reply).Makes [] := by
  intro σ node s s' a log h
  rcases (settle_runs node s op reply).unique h with ⟨-, rfl, -⟩
  rfl

section Requests

variable (reader : Reader) (op : Operation)

/-- Only the call data of a call leads to requests. -/
theorem encoded_makes {f : Bytes -> Dialogue Log.Record (Outcome α)} {request : Bytes -> Request}
    (hf : forall calldata, (f calldata).Makes [request calldata]) :
    Makes (match reader.interface.encode op with
      | .error e => return .error e
      | .ok calldata => f calldata)
      ((reader.interface.encode op).toOption.toList.map request) := by
  cases reader.interface.encode op with
  | error e => exact Makes.pure _
  | ok calldata => exact hf calldata

theorem call_makes_callRequests : (reader.call op).Makes (reader.callRequests op) := by
  apply reader.encoded_makes op
  intro calldata
  apply (Makes.note _).silent_bind
  intro _
  exact (Makes.request _).bind_silent fun reply => settle_makes op reply

theorem read_makes_callRequests (decode : Bytes -> Except ProbeError α) :
    (reader.read op decode).Makes (reader.callRequests op) :=
  (reader.call_makes_callRequests op).bind_silent fun _ => Makes.pure _

theorem invoke_makes_callRequests : (reader.invoke op).Makes (reader.callRequests op) := by
  rw [invoke_eq_map_readEntity, readEntity_eq_read]
  exact (reader.read_makes_callRequests op _).map

theorem rawCall_makes_callRequests : (reader.rawCall op).Makes (reader.callRequests op) := by
  apply reader.encoded_makes op
  intro calldata
  apply (Makes.request _).bind_silent
  intro reply
  exact (settle_makes op reply).bind_silent fun _ => Makes.pure _

theorem estimateGas_makes_gasRequests :
    (reader.estimateGas op).Makes (reader.gasRequests op) := by
  apply reader.encoded_makes op
  intro calldata
  apply (Makes.request _).bind_silent
  intro reply
  exact (settle_makes op reply).bind_silent fun _ => Makes.pure _

end Requests

/-!
# A call that is sent
-/

section Sent

variable {reader : Reader} {op : Operation}
  (h : reader.interface.encode op = .ok (reader.interface.calldata op)) (node : Node σ) (s : σ)

include h

theorem call_runs_of_encode :
    Runs node s (reader.call op)
      ((reader.reply node s op).mapError (ProbeError.ofOperation op))
      [reader.called op (reader.reply node s op)] (reader.stateAfter node s op) := by
  have hrequest := Runs.request (ω := Log.Record) node s (reader.callRequest op)
  have hsettle := settle_runs node (reader.stateAfter node s op) op (reader.reply node s op)
  rw [call, h]
  exact (Runs.note _).silent_bind (hrequest.bind hsettle)

theorem rawCall_runs_of_encode :
    Runs node s (reader.rawCall op)
      (((reader.reply node s op).mapError (ProbeError.ofOperation op)).map
        (rawCallOf op (reader.interface.calldata op)))
      [reader.called op (reader.reply node s op)] (reader.stateAfter node s op) := by
  have hrequest := Runs.request (ω := Log.Record) node s (reader.callRequest op)
  have hsettle := settle_runs node (reader.stateAfter node s op) op (reader.reply node s op)
  rw [rawCall, h]
  exact hrequest.bind (hsettle.bind (Runs.pure _))

theorem estimateGas_runs_of_encode :
    let answered := node.answer s (reader.gasRequest op)
    Runs node s (reader.estimateGas op)
      ((answered.1.mapError (ProbeError.ofOperation op)).map Word.low64)
      [⟨reader.gasRequest op, answered.1⟩] answered.2 := by
  intro answered
  have hrequest := Runs.request (ω := Log.Record) node s (reader.gasRequest op)
  have hsettle := settle_runs node answered.2 op answered.1
  rw [estimateGas, h]
  exact hrequest.bind (hsettle.bind (Runs.pure _))

end Sent

/-!
# With an interface that encodes every call
-/

section Calls

variable {reader : Reader} (h : reader.interface.Encodes) (node : Node σ) (s : σ)
  (op : Operation) (decode : Bytes -> Except ProbeError α)

include h

theorem callRequests_eq : reader.callRequests op = [reader.callRequest op] := by
  rw [callRequests, h.encode_eq]
  rfl

theorem gasRequests_eq : reader.gasRequests op = [reader.gasRequest op] := by
  rw [gasRequests, h.encode_eq]
  rfl

theorem call_runs :
    Runs node s (reader.call op)
      ((reader.reply node s op).mapError (ProbeError.ofOperation op))
      [reader.called op (reader.reply node s op)] (reader.stateAfter node s op) :=
  call_runs_of_encode (h.encode_eq op) node s

theorem read_runs :
    Runs node s (reader.read op decode) (verdict op decode (reader.reply node s op))
      [reader.called op (reader.reply node s op)] (reader.stateAfter node s op) :=
  (call_runs h node s op).bind (Runs.pure _)

theorem read_makes : (reader.read op decode).Makes [reader.callRequest op] := by
  rw [← callRequests_eq h]
  exact reader.read_makes_callRequests op decode

end Calls

end Reader
end FixtureProbe
