import FixtureProbe.Command.Help
import FixtureProbe.Decimal.Basic

/-!
# Mistakes on the command line

What can be wrong with the words of a command line, and how it is said: the mistake itself, a tip
how to mend it, the usage line and where to find help.
-/

namespace FixtureProbe

open Help (Piece Line Topic)

/-!
# Mistakes
-/

inductive Mistake where
  | unexpected (word : String)
  | invalidValue (word place reason : String)
  | missingValue (switch : Switch)
  | uselessValue (switch : Switch) (word : String)
  | repeated (switch : Switch)
  | unknownCommand (word : String)
  | noCommand

namespace Mistake

def choices : Line :=
  let names := CommandName.all.map (·.text) ++ [Help.helpCommand]
  [.plain "  [subcommands: "] ++
    [Piece.plain ", "].intercalate (names.map fun name => [.valid name]) ++ [.plain "]"]

def message : Mistake -> List Line
  | .unexpected word => [[.plain "unexpected argument '", .invalid word, .plain "' found"]]
  | .invalidValue word place reason =>
      [[.plain "invalid value '", .invalid word, .plain "' for '", .literal place,
        .plain ("': " ++ reason)]]
  | .missingValue switch =>
      [[.plain "a value is required for '", .invalid switch.title,
        .plain "' but none was supplied"]]
  | .uselessValue switch word =>
      [[.plain "unexpected value '", .invalid word, .plain "' for '", .literal switch.title,
        .plain "' found; no more were expected"]]
  | .repeated switch =>
      [[.plain "the argument '", .invalid switch.title,
        .plain "' cannot be used multiple times"]]
  | .unknownCommand word => [[.plain "unrecognized subcommand '", .invalid word, .plain "'"]]
  | .noCommand =>
      [[.plain "'", .invalid Help.program,
        .plain "' requires a subcommand but one was not provided"], choices]

/-- Whether the usage line helps to mend a mistake; it says nothing about values. -/
def isAboutUsage : Mistake -> Bool
  | .invalidValue .. | .missingValue _ => false
  | _ => true

end Mistake

/-!
# Tips
-/

inductive Tip where
  | similarSwitch (name : String)
  | switchOf (command name : String)
  | similarCommands (names : List String)
  /-- A word that begins with a hyphen can still be an id. -/
  | behindHyphens (word : String)
  /-- A command is none behind two hyphens. -/
  | withoutHyphens (command : String)

namespace Tip

def quoted (names : List String) : Line :=
  [Piece.plain ", "].intercalate
    (names.map fun name => [.plain "'", .valid name, .plain "'"])

def text : Tip -> Line
  | .similarSwitch name => [.plain "a similar argument exists: '", .valid name, .plain "'"]
  | .switchOf command name => [.plain "'", .valid (command ++ " " ++ name), .plain "' exists"]
  | .similarCommands [name] => .plain "a similar subcommand exists: " :: quoted [name]
  | .similarCommands names => .plain "some similar subcommands exist: " :: quoted names
  | .behindHyphens word =>
      [.plain "to pass '", .invalid word, .plain "' as a value, use '", .valid ("-- " ++ word),
        .plain "'"]
  | .withoutHyphens command =>
      [.plain "subcommand '", .valid command, .plain "' exists; to use it, remove the '",
        .invalid "--", .plain "' before it"]

def line (tip : Tip) : Line :=
  [.plain "  ", .valid "tip:", .plain " "] ++ tip.text

end Tip

/-!
# Findings
-/

structure Finding where
  mistake : Mistake
  topic : Topic
  /-- The switches that the usage line shows; with none of them and no ids it shows all. -/
  switches : List Switch := []
  /-- Whether the usage line shows that there are ids. -/
  hasIds : Bool := false
  tip : Option Tip := none

namespace Finding

def usage (finding : Finding) : Line :=
  if finding.switches.isEmpty && !finding.hasIds then Help.usage finding.topic
  else Help.usageWith finding.topic finding.switches finding.hasIds

/-- The lines that tell where more is said; the command for help has no page to point to. -/
def pointer (finding : Finding) : List Line :=
  if finding.topic = .help then []
  else
    [[], [.plain "For more information, try '", .literal "--help", .plain "'."]]

def text (colours : Bool) (finding : Finding) : String :=
  let message := match finding.mistake.message with
    | [] => []
    | first :: others => ([.alarm "error:", .plain " "] ++ first) :: others
  let tip := match finding.tip with
    | some tip => [[], tip.line]
    | none => []
  let usage := if finding.mistake.isAboutUsage then [[], finding.usage] else []
  Help.renderLines colours (message ++ tip ++ usage ++ finding.pointer)

end Finding

/-!
# Refusals
-/

inductive Refusal where
  | help (topic : Topic)
  | version (command : Option CommandName)
  | nothing
  | mistake (found : Finding)

namespace Refusal

def isAnswer : Refusal -> Bool
  | .help _ | .version _ => true
  | .nothing | .mistake _ => false

/-- What a refusal prints: answers on standard output, and everything else on standard error. -/
def text (env : String -> Option String) (colours : Bool) : Refusal -> String
  | .help topic => Help.page env colours topic
  | .version command => Help.versionLine command
  | .nothing => Help.page env colours .program
  | .mistake found => found.text colours

def exitCode (refusal : Refusal) : UInt8 :=
  if refusal.isAnswer then 0 else 2

end Refusal

end FixtureProbe
