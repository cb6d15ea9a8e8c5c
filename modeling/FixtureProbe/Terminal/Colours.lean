/-!
# Whether to use colours

The environment can force colours or forbid them; without its word they are used on a terminal.
-/

namespace FixtureProbe
namespace Terminal

def isYes (value : String) : Bool :=
  value ≠ "0"

def wantsColours (env : String -> Option String) (isTerminal : Bool) : Bool :=
  if (env "CLICOLOR_FORCE").any isYes then true
  else if (env "NO_COLOR").isSome then false
  else ((env "CLICOLOR").map isYes).getD true && isTerminal

def wantsColouredLogs (env : String -> Option String) : Bool :=
  ((env "NO_COLOR").getD "").isEmpty

def isFilled (value : Option String) : Bool :=
  value.any (· ≠ "")

def showsColours (env : String -> Option String) : Bool :=
  (env "TERM").any (· ≠ "dumb") || (env "CLICOLOR").isSome

def wantsEmphasis (env : String -> Option String) (isTerminal : Bool) : Bool :=
  if isFilled (env "NO_COLOR") then false
  else if isFilled (env "CLICOLOR_FORCE") then true
  else if env "CLICOLOR" = some "0" then false
  else isTerminal && showsColours env

end Terminal
end FixtureProbe
