/-!
# The calls of the precompile

The precompile answers four read-only calls: one match, one league, one team, and the ids of all
matches that are not finished yet.
-/

namespace FixtureProbe

inductive Operation where
  | getMatch (id : UInt64)
  | getLeague (id : UInt64)
  | getTeam (id : UInt64)
  | getUnfinishedMatches
  deriving DecidableEq

namespace Operation

def name : Operation -> String
  | .getMatch _ => "getMatch"
  | .getLeague _ => "getLeague"
  | .getTeam _ => "getTeam"
  | .getUnfinishedMatches => "getUnfinishedMatches"

def argument : Operation -> Option UInt64
  | .getMatch id | .getLeague id | .getTeam id => some id
  | .getUnfinishedMatches => none

def argumentText : Option UInt64 -> String
  | some id => toString id.toNat
  | none => ""

def text (op : Operation) : String :=
  op.name ++ "(" ++ argumentText op.argument ++ ")"

def ofName? : (name : String) -> (argument : Option UInt64) -> Option Operation
  | "getMatch", some id => some (.getMatch id)
  | "getLeague", some id => some (.getLeague id)
  | "getTeam", some id => some (.getTeam id)
  | "getUnfinishedMatches", none => some .getUnfinishedMatches
  | _, _ => none

@[simp]
theorem ofName?_name_argument (op : Operation) : ofName? op.name op.argument = some op := by
  cases op <;> rfl

end Operation

end FixtureProbe
