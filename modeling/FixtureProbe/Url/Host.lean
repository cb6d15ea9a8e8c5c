import FixtureProbe.Text.Scan
import FixtureProbe.Url.Domain
import FixtureProbe.Url.Percent

/-!
# Hosts

A host is a domain name, an address of four bytes, or an address of eight pieces. A name whose last
part is a number is always meant as an address of four bytes.
-/

namespace FixtureProbe

inductive UrlError where
  | relative
  | emptyHost
  | invalidPort
  | invalidAddress4
  | invalidAddress6
  | invalidDomain
  /-- A character that no host may contain, in a scheme that takes hosts as they are. -/
  | invalidCharacter
  deriving DecidableEq

def UrlError.message : UrlError -> String
  | .relative => "relative URL without a base"
  | .emptyHost => "empty host"
  | .invalidPort => "invalid port number"
  | .invalidAddress4 => "invalid IPv4 address"
  | .invalidAddress6 => "invalid IPv6 address"
  | .invalidDomain => "invalid international domain name"
  | .invalidCharacter => "invalid domain character"

inductive Host where
  | name (text : String)
  | address4 (value : BitVec 32)
  | address6 (pieces : List Nat)
  deriving DecidableEq

namespace Host

/-!
# Addresses of four bytes
-/

def baseAndDigits : List Char -> Nat × List Char
  | '0' :: 'x' :: digits | '0' :: 'X' :: digits => (16, digits)
  | '0' :: digit :: digits => (8, digit :: digits)
  | digits => (10, digits)

def partNumber? (text : List Char) : Option Nat := do
  guard (text ≠ [])
  let (base, digits) := baseAndDigits text
  let values ← digits.mapM Bytes.hexValue?
  guard (values.all (· < base))
  return values.foldl (fun n d => n * base + d) 0

/-- The parts of a name; a full stop at its end begins no part. -/
def parts (name : List Char) : List (List Char) :=
  let parts := name.splitOn '.'
  if 1 < parts.length ∧ parts.getLast? = some [] then parts.dropLast else parts

def endsInNumber (name : List Char) : Bool :=
  match (parts name).getLast? with
  | none | some [] => false
  | some last => last.all Char.isDigit || (partNumber? last).isSome

/-- Numbers as an address: all but the last are bytes, and the last fills all the bytes left. -/
def address4OfNumbers? (numbers : List Nat) : Option (BitVec 32) := do
  let last ← numbers.getLast?
  let bytes := numbers.dropLast
  let bitsLeft := 32 - 8 * bytes.length
  guard (bytes.length ≤ 3 ∧ bytes.all (· < 256) ∧ last < 1 <<< bitsLeft)
  let high := bytes.foldl (fun n b => n * 256 + b) 0
  return .ofNat 32 (high <<< bitsLeft + last)

def address4? (name : List Char) : Option (BitVec 32) := do
  address4OfNumbers? (← (parts name).mapM partNumber?)

def address4Text (value : BitVec 32) : String :=
  String.intercalate "." ([24, 16, 8, 0].map fun shift =>
    toString ((value.toNat >>> shift) % 256))

/-!
# Addresses of eight pieces
-/

def byte? (text : List Char) : Option Nat := do
  guard (text ≠ [] ∧ text.all Char.isDigit ∧ (text.head? = some '0' -> text.length = 1))
  let n := Scan.digitsValue text
  guard (n < 256)
  return n

/-- The pieces of a group: one number of up to four digits, or at the end two from four bytes. -/
def group? (isLast : Bool) (group : List Char) : Option (List Nat) :=
  if group.contains '.' then do
    guard isLast
    match ← (group.splitOn '.').mapM byte? with
    | [a, b, c, d] => return [a * 256 + b, c * 256 + d]
    | _ => none
  else do
    guard (1 ≤ group.length ∧ group.length ≤ 4)
    return [← Scan.hexNumber? group]

def groupsOf? (endsAddress : Bool) : List (List Char) -> Option (List Nat)
  | [] => some []
  | group :: groups => do
      let pieces ← group? (endsAddress && groups.isEmpty) group
      return pieces ++ (← groupsOf? endsAddress groups)

/-- The pieces of a text of groups with colons between them; an empty text has none. -/
def pieces? (endsAddress : Bool) (text : List Char) : Option (List Nat) :=
  if text = [] then some [] else groupsOf? endsAddress (text.splitOn ':')

def cutAtGap : List Char -> List Char × Option (List Char)
  | ':' :: ':' :: rest => ([], some rest)
  | c :: rest =>
      let (before, after) := cutAtGap rest
      (c :: before, after)
  | [] => ([], none)

/-- Reads an address of eight pieces; a double colon stands for at least one piece of zero. -/
def address6? (text : List Char) : Option (List Nat) :=
  match cutAtGap text with
  | (text, none) => do
      let pieces ← pieces? true text
      guard (pieces.length = 8)
      return pieces
  | (before, some after) => do
      let head ← pieces? false before
      let tail ← pieces? true after
      guard (head.length + tail.length ≤ 7)
      return head ++ List.replicate (8 - head.length - tail.length) 0 ++ tail

def leadingZeros (pieces : List Nat) : Nat :=
  (pieces.takeWhile (· = 0)).length

/-- The first of the longest runs of at least two zeros: where it begins, and its length. -/
def longestGap (pieces : List Nat) : Option (Nat × Nat) :=
  (List.range pieces.length).foldl (fun best start =>
    let length := leadingZeros (pieces.drop start)
    let longest := (best.map (·.2)).getD 1
    if longest < length then some (start, length) else best) none

def piecesText (pieces : List Nat) : String :=
  String.intercalate ":" (pieces.map fun n => String.ofList (Nat.toDigits 16 n))

def address6Text (pieces : List Nat) : String :=
  match longestGap pieces with
  | some (start, length) =>
      piecesText (pieces.take start) ++ "::" ++ piecesText (pieces.drop (start + length))
  | none => piecesText pieces

/-!
# Hosts
-/

def text : Host -> String
  | .name text => text
  | .address4 value => address4Text value
  | .address6 pieces => "[" ++ address6Text pieces ++ "]"

def bracketed? (text : List Char) : Option (Except UrlError Host) :=
  match text with
  | '[' :: rest =>
      let pieces := if rest.getLast? = some ']' then address6? rest.dropLast else none
      match pieces with
      | some pieces => some (.ok (.address6 pieces))
      | none => some (.error .invalidAddress6)
  | _ => none

/-- The host of a URL whose scheme is built on names: a name, or an address that looks like one. -/
def ofName (text : List Char) : Except UrlError Host :=
  match bracketed? text with
  | some host => host
  | none =>
      match Domain.ascii? (Utf8.decodeLossy (Percent.decode text)).toList with
      | none => .error .invalidDomain
      | some [] => .error .emptyHost
      | some domain =>
          if endsInNumber domain then
            match address4? domain with
            | some value => .ok (.address4 value)
            | none => .error .invalidAddress4
          else .ok (.name (String.ofList domain))

def forbidden : List Char :=
  ['\x00', '\t', '\n', '\r', ' ', '#', '/', ':', '<', '>', '?', '@', '[', '\\', ']', '^', '|']

def ofText (text : List Char) : Except UrlError Host :=
  match bracketed? text with
  | some host => host
  | none =>
      if text.any forbidden.contains then .error .invalidCharacter
      else .ok (.name (String.ofList (Percent.encode [] text)))

end Host

end FixtureProbe
