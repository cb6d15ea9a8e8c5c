import FixtureProbe.Chain.Word
import FixtureProbe.Json.Parser
import FixtureProbe.Json.Shown
import FixtureProbe.Node.Endpoint
import FixtureProbe.Node.Request

/-!
# Requests and replies as text

A request is sent as one JSON object, and so is its reply, which holds either a result or the error
of the node. A reply that is anything else is reported with its text, and so is a result that does
not answer the request.
-/

namespace FixtureProbe
namespace Wire

/-!
# Requests
-/

def latest : Json := .string "latest"

def callJson (target : Address) (calldata : Bytes) : Json :=
  .object [("to", .string target.text), ("data", .string (Bytes.toHex calldata))]

def parameters : Request -> List Json
  | .chainId | .blockNumber => []
  | .code address | .balance address => [.string address.text, latest]
  | .call target calldata => [callJson target calldata, latest]
  | .estimateGas target calldata => [callJson target calldata]

def requestText (number : Nat) (request : Request) : String :=
  (Json.object [
    ("id", .nat number),
    ("jsonrpc", .string "2.0"),
    ("method", .string request.method),
    ("params", .array (parameters request))]).compact

/-!
# Replies
-/

structure NodeError where
  code : Int
  message : String
  data : Option Json

def NodeError.text (error : NodeError) : String :=
  let data := match error.data with
    | some value => "Some(" ++ value.shown ++ ")"
    | none => "None"
  "(code: " ++ toString error.code ++ ", message: " ++ error.message ++ ", data: " ++ data ++ ")"

/-- A value that stands once under a name; the outer `none` is for a repeated name. -/
def once? (name : String) (members : List (String × α)) : Option (Option α) :=
  match (members.filter (·.1 = name)).map (·.2) with
  | [] => some none
  | [value] => some (some value)
  | _ => none

def code? : Json -> Option Int
  | .number (.natural n) => if n < UInt64.size / 2 then some n else none
  | .number (.negative n) => some (-n)
  | _ => none

/-- The error in a reply; members that it need not have are passed over. -/
def nodeError? : Json -> Option NodeError
  | .object members => do
      let code ← code? (← (← once? "code" members))
      let message ← match ← once? "message" members with
        | some (.string message) => some message
        | _ => none
      let data ← match ← once? "data" members with
        | some .null => some none
        | data => some data
      return ⟨code, message, data⟩
  | _ => none

def readWithText (depth : Nat) (text : List Char) : Option ((Json × String) × List Char) := do
  let text := Json.skipBlanks text
  let (value, rest) ← Json.readValue depth text
  return ((value, String.ofList (text.take (text.length - rest.length))), rest)

def readPlainMember (text : List Char) : Option ((String × Json × String) × List Char) := do
  let ((name, value), rest) ← Json.readMember (readWithText (Json.maxDepth - 1)) text
  guard ((name.toList ++ ['"']).isPrefixOf ((Json.skipBlanks text).drop 1))
  return ((name, value), rest)

def members? (text : List Char) : Option (List (String × Json × String)) := do
  match Json.skipBlanks text with
  | '\x7b' :: rest =>
      let (members, rest) ← Json.readList '\x7d' readPlainMember rest
      guard (Json.skipBlanks rest = [])
      return members
  | _ => none

def isId : Json -> Bool
  | .number (.natural _) => true
  | _ => false

def reply? (text : String) : Option (Except NodeError (Json × String)) := do
  let members ← members? text.toList
  guard (members.all fun m => ["jsonrpc", "id", "result", "error"].contains m.1)
  match ← once? "jsonrpc" members, ← once? "id" members with
  | some (.string "2.0", text), some (id, _) =>
      guard (text = "\"2.0\"" ∧ isId id)
      match ← once? "result" members, ← once? "error" members with
      | some result, none => return .ok result
      | none, some (error, _) => return .error (← nodeError? error)
      | _, _ => none
  | _, _ => none

/-!
# Results
-/

/--
A quantity of at most `limit` digits: digits with blanks anywhere among them. A digit that is left
over when digits are taken in pairs is passed over.
-/
def quantity? (limit : Nat) (text : String) : Option Nat := do
  let digits := Bytes.dropHexMark text.toList
  guard (1 ≤ digits.length ∧ digits.length ≤ limit)
  let (blanks, digits) := digits.partition Address.isBlank
  let used := digits.length - blanks.length % 2
  let values ← digits.mapM Bytes.hexValue?
  return (values.take used).foldl (fun n d => n * 16 + d) 0

def word? : Json -> Option Word
  | .string s => (quantity? 64 s).map (.ofNat 256)
  | _ => none

def number? : Json -> Option UInt64
  | .string s => (quantity? 16 s).map .ofNat
  | _ => none

def bytes? : Json -> Option Bytes
  | .string s => Bytes.ofHex? s
  | _ => none

/-- The answer to a request that a result holds; of the number of a chain only 64 bits count. -/
def answer? (result : Json) : (request : Request) -> Option request.Answer
  | .chainId => (word? result).map Word.low64
  | .blockNumber => number? result
  | .code _ => bytes? result
  | .balance _ => word? result
  | .call .. => bytes? result
  | .estimateGas .. => word? result

/-!
# Failures
-/

def contains (part : List Char) : List Char -> Bool
  | [] => part.isEmpty
  | c :: rest => part.isPrefixOf (c :: rest) || contains part rest

def classify (message : String) : String :=
  let small := message.toList.map Char.toLower
  let mentions (part : String) := contains part.toList small
  if mentions "connection refused" || mentions "error sending request" then
    "endpoint unreachable (" ++ message ++ ")"
  else if mentions "rate limit" || mentions "too many requests" then
    "Rate limited by RPC provider. Try again later."
  else message

def unreadable (text : String) : String :=
  "Deserialization Error: <json>. Response: " ++ text

def answerOf (request : Request) (text : String) : Except String request.Answer :=
  match reply? text with
  | none => .error (unreadable text)
  | some (.error error) => .error error.text
  | some (.ok (result, resultText)) =>
      match answer? result request with
      | some answer => .ok answer
      | none => .error (unreadable resultText)

/--
The reply to a request, from the text that came back or from the cause for which nothing did. Some
endpoints are refused in any case.
-/
def reply (endpoint : Endpoint) (request : Request) (received : Except String String) :
    request.Reply :=
  let answer : Except String request.Answer :=
    match endpoint.refusal?, received with
    | some reason, _ => .error (endpoint.refused reason)
    | none, .ok text => answerOf request text
    | none, .error cause => .error (endpoint.unreachable cause)
  answer.mapError classify

end Wire
end FixtureProbe
