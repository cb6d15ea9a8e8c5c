import FixtureProbe.Url.Basic
import FixtureProbe.Url.Path

/-!
# Reading URLs

A URL must have a scheme. Blanks around it and line breaks within it do not count. What follows the
scheme names a host, if it must or if it begins with two slashes, and then a path, which ends at the
first `?` or `#`.
-/

namespace FixtureProbe
namespace Url

/-!
# Dividing the text
-/

/-- The text without controls and blanks at its ends, and without tabs and line breaks. -/
def clean (text : List Char) : List Char :=
  let isOuter (c : Char) : Bool := c.toNat ≤ 0x20
  let text := ((text.dropWhile isOuter).reverse.dropWhile isOuter).reverse
  text.filter fun c => c ≠ '\t' && c ≠ '\n' && c ≠ '\r'

/-- A text up to the first of some characters, and the rest from there. -/
def divide (ends : Char -> Bool) (text : List Char) : List Char × List Char :=
  (text.takeWhile (!ends ·), text.dropWhile (!ends ·))

def cutAt (isSeparator : Char -> Bool) (text : List Char) : List Char × Option (List Char) :=
  match divide isSeparator text with
  | (before, []) => (before, none)
  | (before, _ :: after) => (before, some after)

def isSchemeChar (c : Char) : Bool :=
  c.isAlphanum || c = '+' || c = '-' || c = '.'

def scheme? (text : List Char) : Option (String × List Char) := do
  guard (text.head?.any Char.isAlpha)
  match divide (!isSchemeChar ·) text with
  | (scheme, ':' :: rest) => return (String.ofList (scheme.map Char.toLower), rest)
  | _ => none

def endsPath (c : Char) : Bool :=
  c = '?' || c = '#'

def endsAuthority (backslashes : Bool) (c : Char) : Bool :=
  Path.isSlash backslashes c || endsPath c

/-!
# Hosts
-/

def cutCredentials (authority : List Char) : Option (List Char) × List Char :=
  match cutAt (· = '@') authority.reverse with
  | (_, none) => (none, authority)
  | (after, some before) => (some before.reverse, after.reverse)

def credentials? (text : List Char) : Option (String × String) :=
  let (user, password) := cutAt (· = ':') text
  let escaped (text : List Char) := String.ofList (Percent.encode Percent.inUserInfo text)
  let password := password.getD []
  if user = [] ∧ password = [] then none else some (escaped user, escaped password)

/-- A host, and the rest from the colon in front of a port; a colon between brackets is its own. -/
def cutHost : (inBrackets : Bool) -> List Char -> List Char × List Char
  | _, [] => ([], [])
  | inBrackets, c :: rest =>
      if c = ':' ∧ ¬ inBrackets then ([], c :: rest)
      else
        let (host, after) := cutHost (c = '[' || (inBrackets && c ≠ ']')) rest
        (c :: host, after)

def port? (digits : List Char) : Except UrlError (Option Nat) :=
  if digits = [] then .ok none
  else if ¬ digits.all Char.isDigit then .error .invalidPort
  else
    let port := digits.foldl (fun n c => n * 10 + (c.toNat - 48)) 0
    if port < UInt16.size then .ok (some port) else .error .invalidPort

/-- A port behind its colon, and the rest; a backslash ends it in any scheme. -/
def cutPort (text : List Char) : Except UrlError (Option Nat × List Char) := do
  match text with
  | ':' :: text =>
      let (digits, rest) := divide (· = '\\') text
      return (← port? digits, rest)
  | _ => return (none, text)

structure Authority where
  credentials : Option (String × String)
  host : Host
  port : Option Nat
  rest : List Char

/-- Reads what is said about the host; `isWhole` tells whether nothing follows it. -/
def authority? (scheme : String) (text : List Char) (isWhole : Bool) :
    Except UrlError Authority := do
  let (userInfo, hostAndPort) := cutCredentials text
  if userInfo = some [] ∧ hostAndPort = [] ∧ ¬ isWhole then throw .emptyHost
  let credentials := userInfo.bind credentials?
  let (hostText, portText) := cutHost false hostAndPort
  if hostText = [] ∧ (needsHost scheme ∨ portText ≠ [] ∨ credentials.isSome) then
    throw .emptyHost
  let host ← if needsHost scheme then Host.ofName hostText else Host.ofText hostText
  let (port, rest) ← cutPort portText
  return ⟨credentials, host, if port = defaultPort scheme then none else port, rest⟩

/-!
# Whole URLs
-/

def withEnd (base : Url) (text : List Char) : Url :=
  let (before, fragment) := cutAt (· = '#') text
  let (_, query) := cutAt (· = '?') before
  let quote := if takesBackslashes base.scheme then ['\''] else []
  { base with
    query := query.map fun q => String.ofList (Percent.encode (Percent.inQuery ++ quote) q)
    fragment := fragment.map fun f => String.ofList (Percent.encode Percent.inFragment f) }

def withAuthority (base : Url) (text : List Char) : Except UrlError Url := do
  let backslashes := takesBackslashes base.scheme
  let (authority, text) := divide (endsAuthority backslashes) text
  let ⟨credentials, host, port, rest⟩ ← authority? base.scheme authority text.isEmpty
  let (path, text) := divide endsPath (rest ++ text)
  let path := if path = [] ∧ ¬ backslashes then "" else (Path.follow backslashes false path).text
  return withEnd { base with credentials, host := some host, port, path } text

def fileHost? (text : List Char) : Except UrlError Host := do
  if text = [] then return .name ""
  let host ← Host.ofName text
  return if host = .name "localhost" then .name "" else host

/-- The URL of a file, on a host unless its path begins with a drive. -/
def onHost (base : Url) (host : Host) (text : List Char) : Url :=
  let (path, text) := divide endsPath text
  let walk := Path.follow true true path
  let host := if walk.onDrive then .name "" else host
  withEnd { base with host := some host, path := walk.textWithOneSlash } text

def file (base : Url) (text : List Char) : Except UrlError Url := do
  if (text.take 2).length = 2 ∧ (text.take 2).all (Path.isSlash true) then
    let (hostText, rest) := divide (endsAuthority true) (text.drop 2)
    if Path.isDrive hostText then return onHost base (.name "") (text.drop 2)
    return onHost base (← fileHost? hostText) rest
  return onHost base (.name "") text

/-- A URL without a host: the path is divided by slashes if it begins with one. -/
def withoutHost (base : Url) (text : List Char) : Url :=
  let (path, text) := divide endsPath text
  let path :=
    if path.head? = some '/' then (Path.follow false false path).text
    else String.ofList (Percent.encode [] path)
  withEnd { base with path } text

def parse (text : String) : Except UrlError Url := do
  match scheme? (clean text.toList) with
  | none => throw .relative
  | some (scheme, text) =>
      let base : Url := {
        scheme, credentials := none, host := none, port := none, path := "", query := none,
        fragment := none }
      if needsHost scheme then withAuthority base (text.dropWhile (Path.isSlash true))
      else if scheme = "file" then file base text
      else match text with
        | '/' :: '/' :: rest => withAuthority base rest
        | _ => return withoutHost base text

end Url
end FixtureProbe
