import Mathlib.Algebra.Group.Subgroup.ZPowers.Basic
import Mathlib.Data.Rat.Floor
import Mathlib.Tactic.FieldSimp
import Mathlib.Tactic.Linarith

/-!
# Numeric columns

A column of type `numeric(precision, scale)` rounds a value half away from zero and refuses it when
it then needs more than `precision` digits.
-/

structure NumericColumn where
  precision : Nat
  scale : Nat

namespace NumericColumn

/-- The nearest integer, halves away from zero. -/
def roundHalfAway (value : ℚ) : ℤ :=
  if 0 ≤ value then ⌊value + 1 / 2⌋ else ⌈value - 1 / 2⌉

def assign (column : NumericColumn) (value : ℚ) : Option ℚ :=
  let units := roundHalfAway (value * 10 ^ column.scale)
  if units.natAbs < 10 ^ column.precision then
    some (units / 10 ^ column.scale)
  else
    none

/-- A number that the column can hold. -/
def Stores (column : NumericColumn) (value : ℚ) : Prop :=
  column.assign value = some value

instance (column : NumericColumn) (value : ℚ) : Decidable (column.Stores value) :=
  inferInstanceAs (Decidable (_ = _))

theorem roundHalfAway_intCast (units : ℤ) : roundHalfAway units = units := by
  unfold roundHalfAway
  split
  · rw [Int.floor_eq_iff]
    constructor <;> linarith
  · rw [Int.ceil_eq_iff]
    constructor <;> linarith

theorem assign_intCast_div (column : NumericColumn) (units : ℤ) :
    column.assign (units / 10 ^ column.scale) = if units.natAbs < 10 ^ column.precision then
        some (units / 10 ^ column.scale : ℚ) else none := by
  have scaled : (units / 10 ^ column.scale : ℚ) * 10 ^ column.scale = units := by
    field_simp
  simp only [assign, scaled, roundHalfAway_intCast]

variable {column : NumericColumn} {value : ℚ}

theorem stores_of_assign {stored : ℚ} (assigned : column.assign value = some stored) :
    column.Stores stored := by
  simp only [assign] at assigned
  split at assigned
  · next inRange =>
    cases assigned
    rw [Stores, assign_intCast_div, if_pos inRange]
  · cases assigned

/-! ## Rounding and order -/

theorem roundHalfAway_mono {low high : ℚ} (ordered : low ≤ high) :
    roundHalfAway low ≤ roundHalfAway high := by
  unfold roundHalfAway
  split_ifs with lowSign highSign highSign
  · exact Int.floor_mono (by linarith)
  · exact absurd (lowSign.trans ordered) highSign
  · have below : ⌈low - 1 / 2⌉ ≤ 0 := Int.ceil_le.mpr (by push_cast; linarith)
    have above : 0 ≤ ⌊high + 1 / 2⌋ := Int.floor_nonneg.mpr (by linarith)
    exact below.trans above
  · exact Int.ceil_mono (by linarith)

/-- The numbers with at most the column's fractional digits, of any size. -/
def grid (column : NumericColumn) : AddSubgroup ℚ :=
  AddSubgroup.zmultiples ((10 ^ column.scale)⁻¹)

theorem mem_grid_iff : value ∈ column.grid ↔ ∃ units : ℤ, value = units / 10 ^ column.scale := by
  simp only [grid, AddSubgroup.mem_zmultiples_iff, zsmul_eq_mul, div_eq_mul_inv, eq_comm]

variable {stored bound : ℚ}

theorem assign_eq_some (assigned : column.assign value = some stored) :
    stored = roundHalfAway (value * 10 ^ column.scale) / 10 ^ column.scale := by
  simp only [assign] at assigned
  split at assigned
  · exact (Option.some.inj assigned).symm
  · cases assigned

theorem mem_grid_of_stores (stores : column.Stores value) : value ∈ column.grid :=
  mem_grid_iff.mpr ⟨_, assign_eq_some stores⟩

theorem le_assign (onGrid : bound ∈ column.grid) (below : bound ≤ value)
    (assigned : column.assign value = some stored) : bound ≤ stored := by
  obtain ⟨units, rfl⟩ := mem_grid_iff.mp onGrid
  have positive : (0 : ℚ) < 10 ^ column.scale := by positivity
  have scaled : (units : ℚ) ≤ value * 10 ^ column.scale := (div_le_iff₀ positive).mp below
  have rounded : units ≤ roundHalfAway (value * 10 ^ column.scale) :=
    (roundHalfAway_intCast units).symm.le.trans (roundHalfAway_mono scaled)
  rw [assign_eq_some assigned]
  exact div_le_div_of_nonneg_right (Int.cast_le.mpr rounded) positive.le

theorem assign_le (onGrid : bound ∈ column.grid) (above : value ≤ bound)
    (assigned : column.assign value = some stored) : stored ≤ bound := by
  obtain ⟨units, rfl⟩ := mem_grid_iff.mp onGrid
  have positive : (0 : ℚ) < 10 ^ column.scale := by positivity
  have scaled : value * 10 ^ column.scale ≤ (units : ℚ) := (le_div_iff₀ positive).mp above
  have rounded : roundHalfAway (value * 10 ^ column.scale) ≤ units :=
    (roundHalfAway_mono scaled).trans (roundHalfAway_intCast units).le
  rw [assign_eq_some assigned]
  exact div_le_div_of_nonneg_right (Int.cast_le.mpr rounded) positive.le

end NumericColumn
