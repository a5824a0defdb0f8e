import VesselBus.Number.Word

/-!
# Dice

Numbers that look random, each made from the one before it.
-/

namespace VesselBus

/-- A source of numbers, in the state of a 64-bit linear congruential generator. -/
structure Dice where
  state : UInt64
  deriving DecidableEq, Repr, Inhabited

namespace Dice

def next (d : Dice) : Dice := ⟨d.state * 6364136223846793005 + 1442695040888963407⟩

/-- The highest 24 bits, which are the ones that look random, as a number from `-2 ^ 23` up. -/
def throw (d : Dice) : Int := (d.state.toNat / 2 ^ (40 : Nat) : Nat) - 2 ^ (23 : Nat)

theorem throw_bounds (d : Dice) : -(2 ^ (23 : Nat)) ≤ d.throw ∧ d.throw < 2 ^ (23 : Nat) := by
  have := d.state.toNat_lt
  simp only [throw]
  omega

/-- A number of either sign, at most `most` thousandths. -/
def draw (most : Nat) (d : Dice) : Single × Dice :=
  ((Double.ofRatio (d.throw < 0) (d.throw.natAbs * most) (2 ^ (23 : Nat) * 1000)).toSingle, d.next)

end Dice

end VesselBus
