import FixtureProbe.Bytes

/-!
# Names outside ASCII, spelled in ASCII

The characters of a name outside ASCII are spelled, in the order of their code points, by the
distances between them, and each distance by digits to the base 36. How many digits a distance takes
depends on a bias that follows the distances seen so far.
-/

namespace FixtureProbe
namespace Punycode

def digitChar (d : Nat) : Char :=
  if d < 26 then Char.ofNat (97 + d) else Char.ofNat (22 + d)

def digitValue? (c : Char) : Option Nat :=
  if 'a' ≤ c ∧ c ≤ 'z' then some (c.toNat - 97)
  else if 'A' ≤ c ∧ c ≤ 'Z' then some (c.toNat - 65)
  else if '0' ≤ c ∧ c ≤ '9' then some (c.toNat - 22)
  else none

/-- The least value of a digit that is followed by another one, at position `k`. -/
def threshold (k bias : Nat) : Nat :=
  min 26 (max 1 (k - bias))

theorem one_le_threshold (k bias : Nat) : 1 ≤ threshold k bias := by
  unfold threshold
  omega

/-- Divides a distance by 35 until it is small; `k` counts 36 for each division. -/
def shrink (delta k : Nat) : Nat × Nat :=
  if 455 < delta then shrink (delta / 35) (k + 36) else (delta, k)
termination_by delta

def adapt (delta count : Nat) (first : Bool) : Nat :=
  let delta := if first then delta / 700 else delta / 2
  let (delta, k) := shrink (delta + delta / count) 0
  k + 36 * delta / (delta + 38)

/-!
# Spelling
-/

def digits (bias k q : Nat) : List Char :=
  let t := threshold k bias
  if q < t then [digitChar q]
  else digitChar (t + (q - t) % (36 - t)) :: digits bias (k + 36) ((q - t) / (36 - t))
termination_by q
decreasing_by
  have h := one_le_threshold k bias
  exact Nat.lt_of_le_of_lt (Nat.div_le_self _ _) (by omega)

structure Speller where
  delta : Nat
  bias : Nat
  placed : Nat
  first : Bool
  spelled : List Char

/-- Passes a character while the characters with the code point `n` are being placed. -/
def Speller.pass (s : Speller) (n : Nat) (c : Char) : Speller :=
  if c.toNat < n then { s with delta := s.delta + 1 }
  else if c.toNat = n then {
    delta := 0
    bias := adapt s.delta (s.placed + 1) s.first
    placed := s.placed + 1
    first := false
    spelled := s.spelled ++ digits s.bias 36 s.delta }
  else s

/-- Places the characters with each code point of an ascending list, from `n` on. -/
def spell (name : List Char) : (points : List Nat) -> (n : Nat) -> Speller -> List Char
  | [], _, s => s.spelled
  | point :: points, n, s =>
      let s := { s with delta := s.delta + (point - n) * (s.placed + 1) }
      let s := name.foldl (fun s c => s.pass point c) s
      spell name points (point + 1) { s with delta := s.delta + 1 }

/-- The spelling of a name: its ASCII characters, a hyphen if there are any, and the distances. -/
def encode (name : List Char) : List Char :=
  let basic := name.filter (·.toNat < 128)
  let others := (name.filter (128 ≤ ·.toNat)).map (·.toNat)
  let points := (others.mergeSort (· ≤ ·)).eraseDups
  let start : Speller := ⟨0, 72, basic.length, true, []⟩
  basic ++ (if basic = [] then [] else ['-']) ++ spell name points 128 start

/-!
# Reading
-/

/--
A distance: its value is added to `i`, and `weight` belongs to the digit at position `k`. Neither
may leave the range of 32 bits.
-/
def readDistance (bias : Nat) : (text : List Char) -> (k weight i : Nat) ->
    Option (Nat × List Char)
  | [], _, _, _ => none
  | c :: rest, k, weight, i => do
      let d ← digitValue? c
      let t := threshold k bias
      let i := i + d * weight
      guard (i < UInt32.size)
      if d < t then return (i, rest)
      else
        let weight := weight * (36 - t)
        guard (weight < UInt32.size)
        readDistance bias rest (k + 36) weight i

/-- Places the characters spelled by a text. Each one uses up text, so its length is fuel enough. -/
def place : (fuel : Nat) -> (text : List Char) -> (n i bias : Nat) -> (first : Bool) ->
    (name : List Char) -> Option (List Char)
  | _, [], _, _, _, _, name => some name
  | 0, _, _, _, _, _, _ => none
  | fuel + 1, text, n, i, bias, first, name => do
      let (j, rest) ← readDistance bias text 36 1 i
      let count := name.length + 1
      let n := n + j / count
      guard n.isValidChar
      let position := j % count
      let name := name.take position ++ Char.ofNat n :: name.drop position
      place fuel rest n (position + 1) (adapt (j - i) count first) false name

/-- The name with a given spelling; a hyphen stands last before the distances, never first. -/
def decode? (text : List Char) : Option (List Char) :=
  let tail := (text.reverse.takeWhile (· ≠ '-')).reverse
  let head := text.take (text.length - tail.length)
  if head = ['-'] ∨ ¬ head.all (·.toNat < 128) then none
  else place tail.length tail 128 0 72 true head.dropLast

end Punycode
end FixtureProbe
