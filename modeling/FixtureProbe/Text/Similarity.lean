/-!
# Similar words

How alike two words are: a number from 0 to 1 that counts the characters which both have at about
the same place, and takes off a little for those that stand in another order.
-/

namespace FixtureProbe
namespace Similarity

/-- The characters of a word, each with a mark that it has been matched. -/
abbrev Marked := List (Char × Bool)

def mark? (c : Char) (first behind : Nat) : (place : Nat) -> Marked -> Option Marked
  | _, [] => none
  | place, (d, marked) :: rest =>
      if behind ≤ place then none
      else if first ≤ place ∧ c = d ∧ !marked then some ((d, true) :: rest)
      else (mark? c first behind (place + 1) rest).map ((d, marked) :: ·)

/-- The characters of a word that match another word, which they mark, no farther off than `far`. -/
def matched (far : Nat) : (place : Nat) -> List Char -> Marked -> List Char × Marked
  | _, [], other => ([], other)
  | place, c :: rest, other =>
      match mark? c (place - far) (place + far + 1) 0 other with
      | none => matched far (place + 1) rest other
      | some other =>
          let (found, other) := matched far (place + 1) rest other
          (c :: found, other)

def degree (a b : List Char) : Float :=
  if a = [] ∧ b = [] then 1
  else
    let far := max a.length b.length / 2 - 1
    let (found, other) := matched far 0 a (b.map (·, false))
    let partners := (other.filter (·.2)).map (·.1)
    let moved := ((found.zip partners).filter fun (c, d) => c ≠ d).length / 2
    let count := found.length
    if count = 0 then 0
    else
      (count.toFloat / a.length.toFloat + count.toFloat / b.length.toFloat +
        (count - moved).toFloat / count.toFloat) / 3

/-- The names that are like a word, the most similar one last. -/
def similar (word : String) (names : List String) : List String :=
  let degrees := names.map fun name => (degree word.toList name.toList, name)
  let near := degrees.filter fun (d, _) => 0.7 < d
  (near.mergeSort fun a b => a.1 ≤ b.1).map (·.2)

end Similarity
end FixtureProbe
