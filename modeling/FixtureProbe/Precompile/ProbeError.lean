import FixtureProbe.Precompile.Operation

/-!
# Failures

A failed call is reported and the probe goes on; every other failure leaves nothing to probe.
-/

namespace FixtureProbe

inductive ProbeError where
  /-- The node cannot be reached or does not say which chain it serves. -/
  | connectivity (reason : String)
  /-- One call failed; `operation` names a function of the precompile or a method of the node. -/
  | lookup (operation : String) (argument : Option UInt64) (reason : String)
  | invalidRpcUrl (url reason : String)
  | invalidAddress (address : String)
  /-- The interface description cannot be used, or call data does not fit it. -/
  | interface (reason : String)
  deriving DecidableEq

namespace ProbeError

def ofOperation (op : Operation) (reason : String) : ProbeError :=
  .lookup op.name op.argument reason

def message : ProbeError -> String
  | .connectivity reason => "Connectivity error: " ++ reason
  | .lookup operation argument reason =>
      operation ++ "(" ++ Operation.argumentText argument ++ ") failed: " ++ reason
  | .invalidRpcUrl url reason => "Invalid RPC URL '" ++ url ++ "': " ++ reason
  | .invalidAddress address => "Invalid precompile address: '" ++ address ++ "'"
  | .interface reason => "Interface description error: " ++ reason

def kind : ProbeError -> String
  | .connectivity _ => "connectivity"
  | .lookup .. => "lookup"
  | .invalidRpcUrl .. => "invalid_rpc_url"
  | .invalidAddress _ => "invalid_address"
  | .interface _ => "abi"

def isFatal : ProbeError -> Bool
  | .lookup .. => false
  | _ => true

end ProbeError

abbrev Outcome (α : Type) := Except ProbeError α

end FixtureProbe
