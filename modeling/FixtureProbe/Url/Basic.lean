import FixtureProbe.Url.Host

/-!
# URLs

A URL in the form in which it is used: its parts are escaped where that is needed, the host is
brought to one form, and a port that goes without saying is left out.
-/

namespace FixtureProbe

structure Url where
  scheme : String
  credentials : Option (String × String)
  /-- None if nothing is said about a host; the host itself may still be an empty name. -/
  host : Option Host
  port : Option Nat
  /-- The path, with the slash that it begins with if it is divided by slashes. -/
  path : String
  query : Option String
  fragment : Option String
  deriving DecidableEq

namespace Url

def defaultPort : String -> Option Nat
  | "http" | "ws" => some 80
  | "https" | "wss" => some 443
  | "ftp" => some 21
  | _ => none

/-- Whether a scheme is built on host names, so that its URLs cannot do without one. -/
def needsHost (scheme : String) : Bool :=
  (defaultPort scheme).isSome

def takesBackslashes (scheme : String) : Bool :=
  needsHost scheme || scheme = "file"

def credentialsText : String × String -> String
  | (user, "") => user ++ "@"
  | (user, password) => user ++ ":" ++ password ++ "@"

def authorityText (url : Url) : String :=
  match url.host with
  | none => ""
  | some host =>
      "//" ++ ((url.credentials.map credentialsText).getD "") ++ host.text ++
        ((url.port.map fun port => ":" ++ toString port).getD "")

/-- The mark in front of a path that would be read as the name of a host. -/
def pathMark (url : Url) : String :=
  if url.host.isNone ∧ "//".toList.isPrefixOf url.path.toList then "/." else ""

def text (url : Url) : String :=
  url.scheme ++ ":" ++ url.authorityText ++ url.pathMark ++ url.path ++
    ((url.query.map ("?" ++ ·)).getD "") ++ ((url.fragment.map ("#" ++ ·)).getD "")

end Url

end FixtureProbe
