import FixtureProbe.Command.Arguments
import FixtureProbe.Log.Filter
import FixtureProbe.Node.Wire

/-!
# The program

How arguments, files and the environment become a dialogue with a node, and what is printed where.
Reading files and talking to the node are left to whoever runs the program.
-/

namespace FixtureProbe
namespace Program

/-!
# Settings
-/

def settings (arguments : Arguments) (file : Option (Except String String)) :
    Except String Settings := do
  let layer ← match file with
    | none => pure {}
    | some (.error reason) =>
        throw ("Cannot read config " ++ arguments.config.getD "" ++ ": " ++ reason)
    | some (.ok document) =>
        (SettingsLayer.ofToml document).mapError fun error =>
          "Invalid config: " ++ error.text document
  return Settings.resolve layer arguments.overrides

/--
The endpoint and the reader for given settings and for what reading the interface description gave.
The description comes first, then the URL, then the address.
-/
def build (settings : Settings) (description : Option (Except String String)) :
    Except ProbeError (Endpoint × Reader) := do
  let interface ← match description with
    | none => Interface.load Interface.embeddedText
    | some (.ok text) => Interface.load text
    | some (.error reason) => throw (.interface (settings.abiPath.getD "" ++ ": " ++ reason))
  let endpoint ← Endpoint.parse settings.rpcUrl
  return (endpoint, ← Reader.atAddress interface settings.precompileAddress)

/-!
# Logs
-/

def filter (env : String -> Option String) (verbose : Bool) : Log.Filter :=
  if verbose then [.upTo "futchain_harness" .debug, .upTo "futchain_cli" .debug]
  else ((env "RUST_LOG").bind Log.Filter.parse?).getD Log.Filter.quiet

def settingsRecord (settings : Settings) : Log.Record :=
  ⟨.debug, "futchain_probe", "settings resolved", [("settings", .shown settings.text)]⟩

def callRecord (request : Request) (target : Address) (calldata : Bytes) : Log.Record :=
  ⟨.debug, "futchain_harness::rpc", request.method,
    [("to", .shown target.abbreviated), ("calldata", .shown (Bytes.toHex calldata))]⟩

def requestRecords (request : Request) : List Log.Record :=
  match request with
  | .call target calldata | .estimateGas target calldata => [callRecord request target calldata]
  | _ => []

/-!
# The dialogue
-/

def context (arguments : Arguments) (settings : Settings) : Context where
  settings
  json := arguments.json

def dialogue (arguments : Arguments) (settings : Settings)
    (built : Except ProbeError (Endpoint × Reader)) : Dialogue Printed Ending := do
  Dialogue.note (.record (settingsRecord settings))
  (Command.execute (context arguments settings) (built.map (·.2)) arguments.command).announce
    fun request => (requestRecords request).map .record

end Program

/-!
# Printing
-/

def Printed.stream : Printed -> Terminal.Stream
  | .line l => l.stream
  | .record _ => .err

namespace Program

structure Looks where
  colours : Bool
  layout : Log.Layout

def layout (arguments : Arguments) (coloured : Bool) : Log.Layout :=
  if arguments.logJson then .json else .line coloured

/-- What is left of something that is printed: all lines, and the records that a filter admits. -/
def admitted (filter : Log.Filter) : Printed -> List Printed
  | .line l => [.line l]
  | .record r => if filter.admits r then [.record r] else []

def onBadSettings (reason : String) : List Printed :=
  [.line (.failure .error "" reason)]

end Program

def Printed.text (looks : Program.Looks) (time : String) : Printed -> String
  | .line l => l.text looks.colours
  | .record r => r.text looks.layout time ++ "\n"

namespace Program

/-!
# The whole program
-/

def withoutSettings (reason : String) : Dialogue Printed UInt8 := do
  Dialogue.noteAll (onBadSettings reason)
  return 1

def withSettings (filter : Log.Filter) (arguments : Arguments) (settings : Settings)
    (built : Except ProbeError (Endpoint × Reader)) : Dialogue Printed UInt8 :=
  Ending.code <$> (dialogue arguments settings built).expandNotes (admitted filter)

/-- Everything that the program does with arguments that it has accepted, for what the environment
holds and what reading a file gives. -/
def execution (env : String -> Option String) (files : String -> Except String String)
    (arguments : Arguments) : Dialogue Printed UInt8 :=
  match settings arguments (arguments.config.map files) with
  | .error reason => withoutSettings reason
  | .ok settings =>
      withSettings (filter env arguments.verbose) arguments settings
        (build settings (settings.abiPath.map files))

def written (looks : Looks) (time : String) (stream : Terminal.Stream) (printed : List Printed) :
    String :=
  String.join ((printed.filter (·.stream = stream)).map (·.text looks time))

end Program
end FixtureProbe
