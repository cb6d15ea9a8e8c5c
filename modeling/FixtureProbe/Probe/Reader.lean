import FixtureProbe.Log.Record
import FixtureProbe.Node.Dialogue
import FixtureProbe.Precompile.Interface

/-!
# Reading from the precompile

A reader knows the interface and the address of the precompile. Each of its operations is a dialogue
with at most one request (two for the probe and the account), never repeated, and ends with a value
or with a failure that names the call.
-/

namespace FixtureProbe

structure Reader where
  interface : Interface
  address : Address

namespace Reader

def atAddress (interface : Interface) (address : String) : Except ProbeError Reader :=
  match Address.parse? address with
  | some address => .ok ⟨interface, address⟩
  | none => .error (.invalidAddress address)

/-!
# Log records
-/

def record (message : String) (values : List (String × Log.Value)) : Log.Record :=
  ⟨.debug, "futchain_harness::reader", message, values⟩

def connectedRecord (chain : ChainStatus) : Log.Record :=
  record "connected" [("chain_id", .number chain.chainId.toNat),
    ("block_number", .number chain.blockNumber.toNat)]

def callingRecord (op : Operation) : Log.Record :=
  record "calling precompile" [("operation", .shown op.text)]

def failedRecord (op : Operation) (reason : String) : Log.Record :=
  record "precompile call failed" [("operation", .shown op.text), ("error", .shown reason)]

/-!
# The node
-/

def probe : Dialogue Log.Record (Outcome ChainStatus) := do
  match ← Dialogue.request .blockNumber with
  | .error reason => return .error (.connectivity reason)
  | .ok blockNumber =>
      match ← Dialogue.request .chainId with
      | .error reason => return .error (.connectivity reason)
      | .ok chainId =>
          let chain : ChainStatus := ⟨chainId, blockNumber⟩
          Dialogue.note (connectedRecord chain)
          return .ok chain

/-- Code and balance of the account; the balance is asked for only after the code was given. -/
def accountInfo (reader : Reader) : Dialogue Log.Record (Outcome AccountInfo) := do
  match ← Dialogue.request (.code reader.address) with
  | .error reason => return .error (.lookup "eth_getCode" none reason)
  | .ok code =>
      match ← Dialogue.request (.balance reader.address) with
      | .error reason => return .error (.lookup "eth_getBalance" none reason)
      | .ok balance => return .ok ⟨reader.address, code, balance⟩

/-!
# Calls
-/

def settle (op : Operation) (reply : Except String α) : Dialogue Log.Record (Outcome α) :=
  match reply with
  | .ok value => return .ok value
  | .error reason => do
      Dialogue.note (failedRecord op reason)
      return .error (.ofOperation op reason)

/-- Calls the precompile; a call that cannot be encoded is never sent. -/
def call (reader : Reader) (op : Operation) : Dialogue Log.Record (Outcome Bytes) := do
  match reader.interface.encode op with
  | .error e => return .error e
  | .ok calldata =>
      Dialogue.note (callingRecord op)
      settle op (← Dialogue.request (.call reader.address calldata))

def read (reader : Reader) (op : Operation) (decode : Bytes -> Except ProbeError α) :
    Dialogue Log.Record (Outcome α) := do
  return (← reader.call op) >>= decode

def readMatch (reader : Reader) (id : UInt64) : Dialogue Log.Record (Outcome Match) :=
  reader.read (.getMatch id) (reader.interface.decodeMatch id)

def readLeague (reader : Reader) (id : UInt64) : Dialogue Log.Record (Outcome League) :=
  reader.read (.getLeague id) (reader.interface.decodeLeague id)

def readTeam (reader : Reader) (id : UInt64) : Dialogue Log.Record (Outcome Team) :=
  reader.read (.getTeam id) (reader.interface.decodeTeam id)

def readUnfinished (reader : Reader) : Dialogue Log.Record (Outcome (List UInt64)) :=
  reader.read .getUnfinishedMatches reader.interface.decodeUnfinished

/-- Reads whatever a call asks for, and keeps only whether that succeeded. -/
def invoke (reader : Reader) : Operation -> Dialogue Log.Record (Outcome Unit)
  | .getMatch id => Except.map (fun _ => ()) <$> reader.readMatch id
  | .getLeague id => Except.map (fun _ => ()) <$> reader.readLeague id
  | .getTeam id => Except.map (fun _ => ()) <$> reader.readTeam id
  | .getUnfinishedMatches => Except.map (fun _ => ()) <$> reader.readUnfinished

/-- The low 64 bits of the gas that a call would use. -/
def estimateGas (reader : Reader) (op : Operation) : Dialogue Log.Record (Outcome UInt64) := do
  match reader.interface.encode op with
  | .error e => return .error e
  | .ok calldata =>
      return (← settle op (← Dialogue.request (.estimateGas reader.address calldata))).map
        Word.low64

def rawCallOf (op : Operation) (calldata response : Bytes) : RawCall where
  operation := op
  calldata
  responseLength := response.length
  preview := Bytes.toHex (response.take RawCall.previewBytes)

def rawCall (reader : Reader) (op : Operation) : Dialogue Log.Record (Outcome RawCall) := do
  match reader.interface.encode op with
  | .error e => return .error e
  | .ok calldata =>
      return (← settle op (← Dialogue.request (.call reader.address calldata))).map
        (rawCallOf op calldata)

end Reader

end FixtureProbe
