import Mathlib.Data.Rat.Floor
import Mathlib.Tactic.Linarith

/-!
# Exact values of doubles

A finite double is a rational number.  Rounding it to an integer is exact, and so
is the distance to the rounded value, so both are stated on rationals here,
beside the rule that a double is near an integer exactly when it is near the
rounded one.
-/

namespace ExactDouble

/-- The number that a double stands for, if it is finite. -/
def value (double : Float.Model) : Option Rat :=
  match double.unpack with
  | .finite .positive mantissa exponent _ => some (mantissa * 2 ^ exponent)
  | .finite .negative mantissa exponent _ => some (-(mantissa * 2 ^ exponent))
  | .zero _ => some 0
  | .infinity _ | .notANumber => none

/-- The nearest integer, halves away from zero. -/
def roundAway (number : Rat) : Int :=
  if 0 ≤ number then ⌊number + 1 / 2⌋ else -⌊-number + 1 / 2⌋

theorem roundAway_of_near {number : Rat} {integer : Int}
    (near : |number - integer| < 1 / 2) : roundAway number = integer := by
  rw [abs_lt] at near
  rw [roundAway]
  split
  · rw [Int.floor_eq_iff]
    constructor <;> linarith
  · have floor : ⌊-number + 1 / 2⌋ = -integer := by
      rw [Int.floor_eq_iff]
      push_cast
      constructor <;> linarith
    rw [floor, neg_neg]

/-- Being near to the rounded number is being near to some integer, which is then
the rounded number. -/
theorem near_roundAway_iff {number bound : Rat} (small : bound ≤ 1 / 2) (integer : Int) :
    |number - roundAway number| < bound ∧ roundAway number = integer ↔
      |number - integer| < bound := by
  constructor
  · intro ⟨near, rounded⟩
    rw [rounded] at near
    exact near
  · intro near
    have rounded := roundAway_of_near (near.trans_le small)
    rw [rounded]
    exact ⟨near, rfl⟩

end ExactDouble
