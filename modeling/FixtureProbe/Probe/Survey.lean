import FixtureProbe.Latency.Sampler
import FixtureProbe.Probe.Defaults
import FixtureProbe.Probe.Reader

/-!
# Surveys of the four calls

Each survey does one thing with each of the four calls, in the same order, and records what came of
each.
-/

namespace FixtureProbe

structure OperationResult (α : Type) where
  operation : Operation
  result : Outcome α

namespace Survey

def readCurrentMatch (reader : Reader) (defaults : Defaults) :
    Dialogue Log.Record (Outcome Match × Defaults) := do
  let fixture ← reader.readMatch defaults.matchId
  match fixture with
  | .ok m => return (fixture, defaults.withMatch m)
  | .error _ => return (fixture, defaults)

def each (act : Operation -> Dialogue Log.Record α) : List Operation -> Dialogue Log.Record (List α)
  | [] => return []
  | op :: ops => do
      let first ← act op
      let others ← each act ops
      return first :: others

def record (act : Operation -> Dialogue Log.Record (Outcome α)) (op : Operation) :
    Dialogue Log.Record (OperationResult α) := do
  return ⟨op, ← act op⟩

def gas (reader : Reader) (defaults : Defaults) :
    Dialogue Log.Record (List (OperationResult UInt64)) :=
  each (record reader.estimateGas) defaults.operations

def rawCalls (reader : Reader) (defaults : Defaults) :
    Dialogue Log.Record (List (OperationResult RawCall)) :=
  each (record reader.rawCall) defaults.operations

/-- A call whose failure is known by its text only. -/
def timed (reader : Reader) (op : Operation) : Dialogue Log.Record (Except String Unit) := do
  return (← reader.invoke op).mapError ProbeError.message

def latency (reader : Reader) (defaults : Defaults) (iterations : UInt32) :
    Dialogue Log.Record (List LatencyReport) :=
  each (fun op => Latency.sample op.text iterations (timed reader op)) defaults.operations

end Survey

end FixtureProbe
