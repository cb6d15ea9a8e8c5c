import FixtureProbe.Chain.Keccak

/-!
# The length of a digest

Every round keeps the 25 lanes of the state, so there are always lanes enough for a digest.
-/

namespace FixtureProbe
namespace Keccak

theorem length_tabulate (f : Nat -> UInt64) : (tabulate f).length = 25 := by
  rw [tabulate, List.length_map, List.length_range]

theorem length_round (state : List UInt64) (constant : UInt64) :
    (round state constant).length = 25 := by
  have hrows : (mixRows (rotateAndMove (mixColumns state))).length = 25 := length_tabulate _
  unfold round
  split
  · next first rest heq =>
    rw [heq] at hrows
    exact hrows
  · next heq =>
    rw [heq] at hrows
    cases hrows

theorem length_foldl_round {state : List UInt64} (hstate : state.length = 25)
    (constants : List UInt64) : (constants.foldl round state).length = 25 := by
  induction constants generalizing state with
  | nil => exact hstate
  | cons constant rest ih => exact ih (length_round state constant)

theorem length_absorb (state : List UInt64) (block : Bytes) : (absorb state block).length = 25 := by
  rw [absorb, permute]
  exact length_foldl_round (length_tabulate _) _

theorem length_absorbBlocks {state : List UInt64} (hstate : state.length = 25) (count : Nat)
    (message : Bytes) : (absorbBlocks count state message).length = 25 := by
  induction count generalizing state message with
  | zero => exact hstate
  | succ count ih => exact ih (length_absorb _ _) _

theorem length_flatMap_bytesOfLane (lanes : List UInt64) :
    (lanes.flatMap bytesOfLane).length = 8 * lanes.length := by
  induction lanes with
  | nil => rfl
  | cons lane rest ih =>
      have hlane : (bytesOfLane lane).length = 8 := by
        rw [bytesOfLane, List.length_reverse, Bytes.length_ofNat]
      rw [List.flatMap_cons, List.length_append, hlane, ih, List.length_cons]
      omega

theorem length_digest (message : Bytes) : (digest message).length = 32 := by
  have hstate : (List.replicate 25 (0 : UInt64)).length = 25 := List.length_replicate
  rw [digest, length_flatMap_bytesOfLane, List.length_take, length_absorbBlocks hstate]
  rfl

end Keccak
end FixtureProbe
