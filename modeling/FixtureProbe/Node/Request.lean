import FixtureProbe.Chain.Address

/-!
# Requests to a node

The six things that the probe asks of a node, and the type of the answer to each.
-/

namespace FixtureProbe

inductive Request where
  | chainId
  | blockNumber
  | code (address : Address)
  | balance (address : Address)
  /-- Run call data against an account, without a transaction. -/
  | call (target : Address) (calldata : Bytes)
  | estimateGas (target : Address) (calldata : Bytes)
  deriving DecidableEq

namespace Request

abbrev Answer : Request -> Type
  | .chainId | .blockNumber => UInt64
  | .code _ | .call .. => Bytes
  | .balance _ | .estimateGas .. => Word

abbrev Reply (r : Request) : Type :=
  Except String r.Answer

def method : Request -> String
  | .chainId => "eth_chainId"
  | .blockNumber => "eth_blockNumber"
  | .code _ => "eth_getCode"
  | .balance _ => "eth_getBalance"
  | .call .. => "eth_call"
  | .estimateGas .. => "eth_estimateGas"

end Request

end FixtureProbe
