import FixtureProbe.Command.Program
import FixtureProbe.Log.Time
import FixtureProbe.Node.Http
import FixtureProbe.Terminal.Colours
import Std.Async.DNS
import Std.Async.TCP
import Std.Time.DateTime.Timestamp

/-!
# Running the probe

The outermost layer: it reads the environment and the files, talks to the endpoint over a socket,
and writes what the program prints.
-/

namespace FixtureProbe
namespace Runner

/-!
# Failures of the system
-/

/-- The number of a failure of the operating system, whose sign does not count. -/
def failureNumber (code : UInt32) : Nat :=
  if code < 0x80000000 then code.toNat else UInt32.size - code.toNat

def failureText (detail : String) (code : UInt32) : String :=
  let number := failureNumber code
  let text := match number with
    | 36 => "File name too long"
    | 40 => "Too many levels of symbolic links"
    | 113 => "No route to host"
    | _ => detail.capitalize
  text ++ " (os error " ++ toString number ++ ")"

def causeText : IO.Error -> String
  | .noFileOrDirectory _ code detail | .noSuchThing _ code detail
  | .permissionDenied _ code detail | .inappropriateType _ code detail
  | .invalidArgument _ code detail | .resourceExhausted _ code detail
  | .resourceVanished code detail | .timeExpired code detail
  | .otherError code detail => failureText detail code
  | error => toString error

/-!
# Files
-/

def readText (path : String) : IO (Except String String) := do
  try
    match String.fromUTF8? (← IO.FS.readBinFile path) with
    | some text => return .ok text
    | none => return .error "stream did not contain valid UTF-8"
  catch error =>
    return .error (causeText error)

def readTextAt? : Option String -> IO (Option (Except String String))
  | some path => some <$> readText path
  | none => return none

/-!
# Addresses
-/

def lookupText : IO.Error -> String
  | .otherError code _ =>
      let number := failureNumber code
      if number = 3001 then "Temporary failure in name resolution"
      else if number = 3004 then "Non-recoverable failure in name resolution"
      else if number = 3007 then "No address associated with hostname"
      else "Name or service not known"
  | _ => "Name or service not known"

def lookupName (name : String) : IO (List Std.Net.IPAddr) := do
  try
    return (← (Std.Async.DNS.getAddrInfo name "").block).toList
  catch error =>
    throw (.userError ("dns error: failed to lookup address information: " ++ lookupText error))

def addresses (host : Host) : IO (List Std.Net.IPAddr) := do
  match host with
  | .name text => lookupName text
  | .address4 value =>
      let byte (shift : Nat) : UInt8 := .ofNat (value.toNat >>> shift)
      return [.v4 (.ofParts (byte 24) (byte 16) (byte 8) (byte 0))]
  | .address6 pieces =>
      let piece (i : Nat) : UInt16 := .ofNat (pieces.getD i 0)
      return [.v6 (.ofParts (piece 0) (piece 1) (piece 2) (piece 3) (piece 4) (piece 5) (piece 6)
        (piece 7))]

def withPort (number : UInt16) : Std.Net.IPAddr -> Std.Net.SocketAddress
  | .v4 address => .v4 ⟨address, number⟩
  | .v6 address => .v6 ⟨address, number⟩

/-!
# Sockets
-/

def receiveAll (socket : Std.Async.TCP.Socket.Client) : IO Bytes := do
  let mut received : ByteArray := .empty
  repeat
    match ← (socket.recv? 65536).block with
    | some part => received := received ++ part
    | none => break
  return received.toList

def connect (address : Std.Net.SocketAddress) : IO Std.Async.TCP.Socket.Client := do
  let socket ← Std.Async.TCP.Socket.Client.mk
  (socket.connect address).block
  return socket

def connectFirst (number : UInt16) : List Std.Net.IPAddr -> IO Std.Async.TCP.Socket.Client
  | [] => throw (.otherError 101 "network is unreachable")
  | [address] => connect (withPort number address)
  | address :: rest => do
      try connect (withPort number address) catch _ => connectFirst number rest

/-- Sends a request and waits for the text of the reply, or for the cause why there is none. -/
def exchange (endpoint : Endpoint) (body : String) : IO (Except String String) := do
  try
    let url := endpoint.url
    if url.scheme ≠ "http" then return .error "invalid URL, scheme is not http"
    let number := (url.port <|> Url.defaultPort url.scheme).getD 80
    let socket ← connectFirst (.ofNat number) (← addresses (url.host.getD (.name "")))
    (socket.send (Http.requestText endpoint body).toUTF8).block
    return .ok (Utf8.decodeLossy (Http.body (← receiveAll socket)))
  catch error =>
    match error with
    | .userError text => return .error text
    | _ => return .error ("tcp connect error: " ++ causeText error)

def answerFrom (endpoint : Endpoint) (counter : IO.Ref Nat) (request : Request) :
    IO request.Reply := do
  let number ← counter.modifyGet fun n => (n + 1, n + 1)
  let received ←
    if endpoint.isAsked then exchange endpoint (Wire.requestText number request)
    else pure (.error "")
  return Wire.reply endpoint request received

/-!
# The program
-/

def currentTime : IO String := do
  let now ← Std.Time.Timestamp.now
  return Log.timeText (now.toNanosecondsSinceUnixEpoch.val.toNat / 1000)

def write (looks : Program.Looks) (item : Printed) : IO Unit := do
  let text := item.text looks (← currentTime)
  let stream ← match item.stream with
    | .out => IO.getStdout
    | .err => IO.getStderr
  stream.putStr text
  stream.flush

def converse (endpoint : Option Endpoint) (looks : Program.Looks)
    (dialogue : Dialogue Printed UInt8) : IO UInt8 := do
  let counter ← IO.mkRef 0
  let answer (request : Request) : IO request.Reply :=
    match endpoint with
    | some endpoint => answerFrom endpoint counter request
    | none => return .error ""
  dialogue.drive answer (write looks) IO.monoNanosNow

def environment : IO (String -> Option String) := do
  let names := Switch.everywhere.filterMap Switch.environmentName? ++
    ["RUST_LOG", "NO_COLOR", "CLICOLOR", "CLICOLOR_FORCE", "TERM"]
  let values ← names.mapM fun name => return (name, ← IO.getEnv name)
  return fun name => (values.lookup name).join

def run (words : List String) : IO UInt32 := do
  let env ← environment
  match Arguments.parse env words with
  | .error refusal =>
      let stream ← if refusal.isAnswer then IO.getStdout else IO.getStderr
      stream.putStr (refusal.text env (Terminal.wantsEmphasis env (← stream.isTty)))
      return refusal.exitCode.toUInt32
  | .ok arguments =>
      let colours := Terminal.wantsColours env (← (← IO.getStdout).isTty)
      let looks : Program.Looks :=
        ⟨colours, Program.layout arguments (Terminal.wantsColouredLogs env)⟩
      let code ← match Program.settings arguments (← readTextAt? arguments.config) with
        | .error reason => converse none looks (Program.withoutSettings reason)
        | .ok settings =>
            let built := Program.build settings (← readTextAt? settings.abiPath)
            converse (built.toOption.map (·.1)) looks
              (Program.withSettings (Program.filter env arguments.verbose) arguments settings built)
      return code.toUInt32

end Runner
end FixtureProbe

def main (words : List String) : IO UInt32 :=
  FixtureProbe.Runner.run words
