import FixtureProbe.Json.Text
import FixtureProbe.Text.Quoted

/-!
# Log records

A record has a level, the part of the probe that speaks, a message and named values. It is written
as one line of text or as one JSON object.
-/

namespace FixtureProbe
namespace Log

inductive Level where
  | error
  | warn
  | info
  | debug
  | trace
  deriving DecidableEq

def Level.rank : Level -> Nat
  | .error => 1
  | .warn => 2
  | .info => 3
  | .debug => 4
  | .trace => 5

def Level.text : Level -> String
  | .error => "ERROR"
  | .warn => "WARN"
  | .info => "INFO"
  | .debug => "DEBUG"
  | .trace => "TRACE"

inductive Value where
  | number (n : Nat)
  /-- Text that is shown in quotes. -/
  | text (s : String)
  /-- Text that is shown as it is. -/
  | shown (s : String)

structure Record where
  level : Level
  target : String
  message : String
  values : List (String × Value)

def Value.lineText : Value -> String
  | .number n => toString n
  | .text s => Quoted.quote s
  | .shown s => s

def Value.json : Value -> Json
  | .number n => .nat n
  | .text s | .shown s => .string s

/-!
# Layouts
-/

inductive Layout where
  | line (coloured : Bool)
  | json
  deriving DecidableEq

def styled (coloured : Bool) (code text : String) : String :=
  if coloured then "\x1b[" ++ code ++ "m" ++ text ++ "\x1b[0m" else text

def Level.colour : Level -> String
  | .error => "31"
  | .warn => "33"
  | .info => "32"
  | .debug => "34"
  | .trace => "35"

def Level.column (level : Level) : String :=
  String.ofList (List.replicate (5 - level.text.length) ' ') ++ level.text

def Record.line (coloured : Bool) (time : String) (record : Record) : String :=
  let style := styled coloured
  let values := record.values.map fun (name, value) =>
    " " ++ style "3" name ++ style "2" "=" ++ value.lineText
  style "2" time ++ " " ++ style record.level.colour record.level.column ++ " " ++
    style "2" record.target ++ style "2" ":" ++ " " ++ record.message ++ String.join values

def Record.json (time : String) (record : Record) : Json :=
  .object [
    ("timestamp", .string time),
    ("level", .string record.level.text),
    ("fields", .object (("message", .string record.message) ::
      record.values.map fun (name, value) => (name, value.json))),
    ("target", .string record.target)]

def Record.text (layout : Layout) (time : String) (record : Record) : String :=
  match layout with
  | .line coloured => record.line coloured time
  | .json => (record.json time).compact

end Log
end FixtureProbe
