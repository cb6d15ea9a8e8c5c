import FixtureProbe.Node.Endpoint
import FixtureProbe.Text.Scan
import FixtureProbe.Text.Utf8

/-!
# Messages of the web

The text that is sent to an endpoint for one request, and the body of what comes back before the
connection is closed. The body ends where its length or its chunks say, or with the connection.
-/

namespace FixtureProbe
namespace Http

/-!
# Requests
-/

def base64Digit (n : Nat) : Char :=
  if n < 26 then Char.ofNat (65 + n)
  else if n < 52 then Char.ofNat (71 + n)
  else if n < 62 then Char.ofNat (n - 4)
  else if n = 62 then '+' else '/'

def base64 : Bytes -> List Char
  | [] => []
  | [a] => [base64Digit (a.toNat / 4), base64Digit (a.toNat % 4 * 16), '=', '=']
  | [a, b] => [base64Digit (a.toNat / 4), base64Digit (a.toNat % 4 * 16 + b.toNat / 16),
      base64Digit (b.toNat % 16 * 4), '=']
  | a :: b :: c :: rest =>
      [base64Digit (a.toNat / 4), base64Digit (a.toNat % 4 * 16 + b.toNat / 16),
        base64Digit (b.toNat % 16 * 4 + c.toNat / 64), base64Digit (c.toNat % 64)] ++ base64 rest

def credentialsLine (user password : String) : String :=
  let bytes := Percent.decode user.toList ++ [0x3A] ++ Percent.decode password.toList
  "authorization: Basic " ++ String.ofList (base64 bytes) ++ "\r\n"

def target (url : Url) : String :=
  url.path ++ (url.query.map ("?" ++ ·)).getD ""

def hostText (url : Url) : String :=
  (url.host.map Host.text).getD "" ++ (url.port.map fun n => ":" ++ toString n).getD ""

def requestText (endpoint : Endpoint) (body : String) : String :=
  let credentials := match endpoint.credentials with
    | some (user, password) => credentialsLine user password
    | none => ""
  "POST " ++ target endpoint.url ++ " HTTP/1.1\r\nhost: " ++ hostText endpoint.url ++ "\r\n" ++
    credentials ++ "accept: */*\r\ncontent-type: application/json\r\nconnection: close\r\n" ++
    "content-length: " ++ toString body.utf8ByteSize ++ "\r\n\r\n" ++ body

/-!
# Replies
-/

def cutLine : Bytes -> Bytes × Bytes
  | [] => ([], [])
  | 0x0D :: 0x0A :: rest => ([], rest)
  | b :: rest => (b :: (cutLine rest).1, (cutLine rest).2)

def cutHead : (fuel : Nat) -> Bytes -> List String × Bytes
  | 0, bytes => ([], bytes)
  | fuel + 1, bytes =>
      match cutLine bytes with
      | ([], rest) => ([], rest)
      | (line, rest) =>
          let (lines, body) := cutHead fuel rest
          (Utf8.decodeLossy line :: lines, body)

/-- The value of a header, in small letters and without blanks around it. -/
def header? (lines : List String) (name : String) : Option String :=
  lines.findSome? fun line =>
    let line := line.toList.map Char.toLower
    let value := (line.dropWhile (· ≠ ':')).drop 1
    let isBlank (c : Char) : Bool := c = ' ' || c = '\t'
    if line.takeWhile (· ≠ ':') = name.toList then
      some (String.ofList ((value.dropWhile isBlank).reverse.dropWhile isBlank).reverse)
    else none

/-- The content of chunks; each begins with a line that tells its length. -/
def chunks : (fuel : Nat) -> Bytes -> Bytes
  | 0, _ => []
  | fuel + 1, bytes =>
      let (line, rest) := cutLine bytes
      let digits := (Utf8.decodeLossy line).toList.takeWhile fun c => (Bytes.hexValue? c).isSome
      match Scan.hexNumber? digits with
      | none | some 0 => []
      | some length => rest.take length ++ chunks fuel ((rest.drop length).drop 2)

def body (reply : Bytes) : Bytes :=
  let (lines, body) := cutHead (reply.length + 1) reply
  if header? lines "transfer-encoding" = some "chunked" then chunks (body.length + 1) body
  else match (header? lines "content-length").bind (·.toNat?) with
    | some length => body.take length
    | none => body

end Http
end FixtureProbe
