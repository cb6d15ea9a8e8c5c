import FixtureProbe.Precompile.ProbeError
import FixtureProbe.Url.Parser

/-!
# Endpoints

An endpoint is a node behind a URL. Any URL can be given; only those of the web are ever asked, and
only if their hosts are written in the characters that the web admits.
-/

namespace FixtureProbe

structure Endpoint where
  given : String
  url : Url
  deriving DecidableEq

namespace Endpoint

def parse (text : String) : Except ProbeError Endpoint :=
  match Url.parse text with
  | .ok url => .ok ⟨text, url⟩
  | .error e => .error (.invalidRpcUrl text e.message)

def spellsText (text : String) : Bool :=
  (String.fromUTF8? ⟨(Percent.decode text.toList).toArray⟩).isSome

/-- The credentials that are shown to the node; a user name that spells no text is none. -/
def credentials (endpoint : Endpoint) : Option (String × String) := do
  let (user, password) ← endpoint.url.credentials
  guard (spellsText user && (user ≠ "" || spellsText password))
  return (user, password)

/-- The URL that is asked: without the credentials that travel beside it. -/
def address (endpoint : Endpoint) : Url :=
  if endpoint.credentials.isSome then { endpoint.url with credentials := none } else endpoint.url

/-!
# Refusals
-/

def longestAddress : Nat := 65534

/-- The characters, apart from letters and digits, that the web admits in a host. -/
def admitted : List Char :=
  ['!', '$', '&', '\'', '(', ')', '*', '+', ',', '-', '.', ':', ';', '=', '[', ']', '_', '~']

def isAdmitted (url : Url) : Bool :=
  url.text.utf8ByteSize ≤ longestAddress &&
    (((url.host.map Host.text).getD "").toList.all fun c => c.isAlphanum || admitted.contains c)

def refusal? (endpoint : Endpoint) : Option String :=
  if endpoint.url.scheme ≠ "http" ∧ endpoint.url.scheme ≠ "https" then
    some "URL scheme is not allowed"
  else if isAdmitted endpoint.address then none
  else some "Parsed Url is not a valid Uri"

def isAsked (endpoint : Endpoint) : Bool :=
  endpoint.refusal?.isNone

def refused (endpoint : Endpoint) (reason : String) : String :=
  "builder error for url (" ++ endpoint.address.text ++ "): " ++ reason

def unreachable (endpoint : Endpoint) (cause : String) : String :=
  "error sending request for url (" ++ endpoint.address.text ++
    "): error trying to connect: " ++ cause

end Endpoint

end FixtureProbe
