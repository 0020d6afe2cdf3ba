import Mathlib.Data.Int.Order.Basic

/-!
# Bounded integers with checked arithmetic

A machine integer type is an interval of the integers. Its checked operations compute the exact
result and give it back only when it lies in the interval.
-/

/-- An integer that lies between two fixed bounds. -/
@[ext]
structure BoundedInt (lowest highest : Int) where
  value : Int
  lowest_le : lowest ≤ value
  le_highest : value ≤ highest
deriving DecidableEq

namespace BoundedInt

variable {lowest highest : Int}

/-- The bounded integer with the given value, if the value is in range. -/
def checked (value : Int) : Option (BoundedInt lowest highest) :=
  if inRange : lowest ≤ value ∧ value ≤ highest then
    some ⟨value, inRange.1, inRange.2⟩
  else
    none

@[simp]
theorem checked_eq_some_iff {value : Int} {result : BoundedInt lowest highest} :
    checked value = some result ↔ result.value = value := by
  unfold checked
  split
  · next inRange =>
    constructor
    · rintro ⟨⟩
      rfl
    · rintro rfl
      rfl
  · next outOfRange =>
    simp only [reduceCtorEq, false_iff]
    rintro rfl
    exact outOfRange ⟨result.lowest_le, result.le_highest⟩

/-- Addition that gives nothing when the sum leaves the range. -/
def checkedAdd (left right : BoundedInt lowest highest) : Option (BoundedInt lowest highest) :=
  checked (left.value + right.value)

/-- Subtraction that gives nothing when the difference leaves the range. -/
def checkedSub (left right : BoundedInt lowest highest) : Option (BoundedInt lowest highest) :=
  checked (left.value - right.value)

/-- Negation that gives nothing when the negative leaves the range. -/
def checkedNeg (operand : BoundedInt lowest highest) : Option (BoundedInt lowest highest) :=
  checked (-operand.value)

end BoundedInt
