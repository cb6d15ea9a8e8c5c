import FixtureProbe.Chain.Address
import FixtureProbe.Precompile.Operation

/-!
# Records

What the precompile reports about matches, leagues and teams, and what the node reports about the
chain and the account of the precompile. An id of zero stands for "none".
-/

namespace FixtureProbe

/-!
# Matches, leagues and teams
-/

def nonZero (id : UInt64) : Option UInt64 :=
  if id = 0 then none else some id

structure Match where
  id : UInt64
  leagueId : UInt64
  name : String
  time : String
  homeId : UInt64
  homeName : String
  homeScore : UInt64
  awayId : UInt64
  awayName : String
  awayScore : UInt64
  started : Bool
  finished : Bool
  cancelled : Bool
  deriving DecidableEq

namespace Match

def league (m : Match) : Option UInt64 :=
  nonZero m.leagueId

def homeTeam (m : Match) : Option UInt64 :=
  nonZero m.homeId

def awayTeam (m : Match) : Option UInt64 :=
  nonZero m.awayId

/-- What the flags say: a later stage of a match outweighs an earlier one. -/
def status (m : Match) : String :=
  if m.cancelled then "cancelled"
  else if m.finished then "finished"
  else if m.started then "live"
  else "scheduled"

end Match

structure League where
  id : UInt64
  name : String
  groupName : String
  deriving DecidableEq

structure Team where
  id : UInt64
  name : String
  deriving DecidableEq

/-!
# The chain and the account
-/

structure ChainStatus where
  chainId : UInt64
  blockNumber : UInt64
  deriving DecidableEq

structure AccountInfo where
  address : Address
  /-- Deployed code; a precompile usually has none. -/
  code : Bytes
  balance : Word
  deriving DecidableEq

structure RawCall where
  operation : Operation
  calldata : Bytes
  responseLength : Nat
  preview : String
  deriving DecidableEq

def RawCall.previewBytes : Nat := 32

end FixtureProbe
