import FixtureProbe.Command.Switch
import FixtureProbe.Terminal.Escapes

/-!
# Help

The pages that explain the command line. On a terminal with colours the headings and the words that
are typed as they stand are emphasised.
-/

namespace FixtureProbe
namespace Help

def program : String := "futchain-probe"

def version : String := "0.1.0-alpha"

def about : String := "Futchain precompile probe - sports-data precompile diagnostics"

def helpCommand : String := "help"

def helpAbout : String := "Print this message or the help of the given subcommand(s)"

/-!
# Emphasis
-/

inductive Emphasis where
  | none
  | bold
  | underlined
  | green
  | yellow
  | red

def Emphasis.start : Emphasis -> String
  | .none => ""
  | .bold => "\x1b[1m"
  | .underlined => "\x1b[1m\x1b[4m"
  | .green => "\x1b[32m"
  | .yellow => "\x1b[33m"
  | .red => "\x1b[1m\x1b[31m"

structure Piece where
  emphasis : Emphasis
  text : String

namespace Piece

def plain (text : String) : Piece := ⟨.none, text⟩

def literal (text : String) : Piece := ⟨.bold, text⟩

def heading (text : String) : Piece := ⟨.underlined, text⟩

def valid (text : String) : Piece := ⟨.green, text⟩

def invalid (text : String) : Piece := ⟨.yellow, text⟩

def alarm (text : String) : Piece := ⟨.red, text⟩

def render (colours : Bool) (piece : Piece) : String :=
  match colours, piece.emphasis with
  | false, _ | _, .none => piece.text
  | true, emphasis => emphasis.start ++ piece.text ++ "\x1b[0m"

end Piece

abbrev Line := List Piece

def plainLine (text : String) : Line := [.plain text]

def Line.width (line : Line) : Nat :=
  (line.map (·.text.length)).foldr (· + ·) 0

def Line.render (colours : Bool) (line : Line) : String :=
  String.join (line.map (·.render colours)) ++ "\n"

/-- The text of lines; what came from outside keeps its colours only if there are any. -/
def renderLines (colours : Bool) (lines : List Line) : String :=
  let text := String.join (lines.map (·.render colours))
  if colours then text else Terminal.withoutEscapes text

/-!
# Tables
-/

def blanks (count : Nat) : String :=
  String.ofList (List.replicate count ' ')

/-- Two columns, the first of which is filled up to a width; the second keeps to its column. -/
def row (width : Nat) (left : Line) (right : String) : Line :=
  left ++ [.plain (blanks (width - left.width) ++ right.replace "\n" ("\n" ++ blanks width))]

def table (rows : List (Line × String)) : List Line :=
  let width := (rows.map (·.1.width)).foldl max 0
  rows.map fun (left, right) => row (width + 2) left right

/-!
# Switches, commands and ids
-/

def switchName (switch : Switch) : Line :=
  let value := (switch.value?.map fun name => " <" ++ name ++ ">").getD ""
  [.literal ("--" ++ switch.long), .plain value]

def switchTitle (switch : Switch) : Line :=
  let short : Line := match switch.short? with
    | some c => [.plain "  ", .literal ("-" ++ String.singleton c), .plain ", "]
    | none => [.plain "      "]
  short ++ switchName switch

def switchAbout (env : String -> Option String) (command : Option CommandName)
    (switch : Switch) : String :=
  let value := match switch.environmentName? with
    | some name => " [env: " ++ name ++ "=" ++ (env name).getD "" ++ "]"
    | none => ""
  switch.about command ++ value

def switchLines (env : String -> Option String) (command : Option CommandName) : List Line :=
  [.heading "Options:"] :: table ((Switch.available command).map fun switch =>
    (switchTitle switch, switchAbout env command switch))

def commandLines : List Line :=
  let commands := CommandName.all.map fun command => (command.text, command.about)
  [.heading "Commands:"] :: table ((commands ++ [(helpCommand, helpAbout)]).map
    fun (name, about) => ([.plain "  ", .literal name], about))

def argumentLines (title about : String) : List Line :=
  [.heading "Arguments:"] :: table [(plainLine ("  " ++ title), about)]

/-!
# Pages
-/

inductive Topic where
  | program
  | command (name : CommandName)
  | help
  deriving DecidableEq

namespace Topic

def ofCommand (command : Option CommandName) : Topic :=
  (command.map .command).getD .program

def call : Topic -> String
  | .program => Help.program
  | .command name => Help.program ++ " " ++ name.text
  | .help => Help.program ++ " " ++ helpCommand

def about : Topic -> String
  | .program => Help.about
  | .command name => name.about
  | .help => helpAbout

def rest : Topic -> String
  | .program => " [OPTIONS] <COMMAND>"
  | .command name =>
      " [OPTIONS]" ++ (((IdCount.ofCommand name).title?).map (" " ++ ·)).getD ""
  | .help => " [COMMAND]..."

def lists (env : String -> Option String) : Topic -> List (List Line)
  | .program => [commandLines, switchLines env none]
  | .command name =>
      let ids := IdCount.ofCommand name
      (ids.title?.map fun title => argumentLines title ids.about).toList ++
        [switchLines env (some name)]
  | .help => [argumentLines "[COMMAND]..." "Print help for the subcommand(s)"]

end Topic

def usage (topic : Topic) : Line :=
  [.heading "Usage:", .plain " ", .literal topic.call, .plain topic.rest]

/-- The usage line with the switches and the ids that are in use, in place of all switches. -/
def usageWith (topic : Topic) (switches : List Switch) (withIds : Bool) : Line :=
  let rest := match topic with
    | .program => " <COMMAND>"
    | .command name =>
        let ids := IdCount.ofCommand name
        ((if withIds then ids.usedTitle? else ids.title?).map (" " ++ ·)).getD ""
    | .help => ""
  [.heading "Usage:", .plain " ", .literal topic.call] ++
    switches.flatMap (fun switch => .plain " " :: switchName switch) ++ [.plain rest]

def page (env : String -> Option String) (colours : Bool) (topic : Topic) : String :=
  let parts := [plainLine topic.about] :: [usage topic] :: topic.lists env
  renderLines colours ([plainLine ""].intercalate parts)

def versionLine (command : Option CommandName) : String :=
  program ++ ((command.map fun command => "-" ++ command.text).getD "") ++ " " ++ version ++ "\n"

end Help
end FixtureProbe
