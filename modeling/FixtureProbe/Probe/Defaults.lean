import FixtureProbe.Precompile.Record

/-!
# Current ids

The ids that stand in where none is given. They begin at one, and are refined from the discovered
matches and from the match that was read; zero ids and empty lists leave them as they are.
-/

namespace FixtureProbe

structure Defaults where
  matchId : UInt64
  leagueId : UInt64
  teamId : UInt64
  deriving DecidableEq

namespace Defaults

def initial : Defaults := ⟨1, 1, 1⟩

/-- Takes the first discovered match as the current one. -/
def withDiscovery (defaults : Defaults) (ids : List UInt64) : Defaults :=
  { defaults with matchId := ids.head?.getD defaults.matchId }

def withMatch (defaults : Defaults) (m : Match) : Defaults :=
  { defaults with
    leagueId := m.league.getD defaults.leagueId
    teamId := m.homeTeam.getD defaults.teamId }

def operations (defaults : Defaults) : List Operation :=
  [.getMatch defaults.matchId, .getLeague defaults.leagueId, .getTeam defaults.teamId,
    .getUnfinishedMatches]

end Defaults

end FixtureProbe
