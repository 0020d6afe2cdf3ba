import FuboxApi.BoundedInt
import FuboxApi.CheckedFold
import Mathlib.Data.Rat.Cast.Order
import Mathlib.Tactic.FieldSimp
import Mathlib.Tactic.Linarith
import Mathlib.Tactic.Positivity

/-!
# Fixed-point money

`FixedDecimal` of the rating module: units in an `i128` with a decimal scale. Every constructor of
the source validates the scale, so its bound is a field. The derived order compares the units first,
and agrees with that of the amounts only within one scale.
-/

namespace FuboxApi

open CheckedFold

/-- The signed 128-bit integers. -/
abbrev I128 := BoundedInt (-2 ^ 127) (2 ^ 127 - 1)

def defaultMoneyScale : Nat := 8

def maxMoneyScale : Nat := 18

theorem defaultMoneyScale_le : defaultMoneyScale ≤ maxMoneyScale := by
  decide

def zeroUnits : I128 :=
  ⟨0, by decide, by decide⟩

/-- A currency code: an upper-case letter, then such letters, digits and underscores. -/
def isCurrencyCode (currency : String) : Bool :=
  match currency.toList with
  | [] => false
  | first :: characters =>
    first.isUpper && 3 ≤ currency.utf8ByteSize && currency.utf8ByteSize ≤ 32 &&
      characters.all fun character => character.isUpper || character.isDigit || character == '_'

inductive RatingError where
  | invalidScale (scale : Nat)
  | scaleMismatch (left right : Nat)
  | arithmeticOverflow
deriving DecidableEq

@[ext]
structure FixedDecimal where
  units : I128
  scale : Nat
  scale_le : scale ≤ maxMoneyScale
deriving DecidableEq

namespace FixedDecimal

def fromUnits (units : I128) (scale : Nat) : Except RatingError FixedDecimal :=
  if scaleLe : scale ≤ maxMoneyScale then
    .ok ⟨units, scale, scaleLe⟩
  else
    .error (.invalidScale scale)

def zero (scale : Nat) : Except RatingError FixedDecimal :=
  fromUnits zeroUnits scale

def isZero (amount : FixedDecimal) : Bool :=
  amount.units.value == 0

def checkedAdd (left right : FixedDecimal) : Except RatingError FixedDecimal :=
  if left.scale ≠ right.scale then
    .error (.scaleMismatch left.scale right.scale)
  else
    match left.units.checkedAdd right.units with
    | none => .error .arithmeticOverflow
    | some units => .ok { left with units := units }

/-- Checked negation, with the error that the calling module gives an
overflow. -/
def negateOr {ε : Type} (overflow : ε) (value : FixedDecimal) : Except ε FixedDecimal := do
  let units ← okOr overflow value.units.checkedNeg
  (fromUnits units value.scale).mapError fun _ => overflow

/-- The scale comparison that both ledger modules make before they combine
two amounts. -/
def sameScaleOr {ε : Type} (mismatch : Nat → Nat → ε) (expected actual : FixedDecimal) :
    Except ε Unit :=
  ensure (expected.scale = actual.scale) (mismatch expected.scale actual.scale)

/-- The derived lexicographic order: units first, then scale. -/
instance : LT FixedDecimal where
  lt left right :=
    left.units.value < right.units.value ∨
      left.units.value = right.units.value ∧ left.scale < right.scale

instance : LE FixedDecimal where
  le left right :=
    left.units.value < right.units.value ∨
      left.units.value = right.units.value ∧ left.scale ≤ right.scale

instance (left right : FixedDecimal) : Decidable (left < right) :=
  inferInstanceAs (Decidable (_ ∨ _))

instance (left right : FixedDecimal) : Decidable (left ≤ right) :=
  inferInstanceAs (Decidable (_ ∨ _))

/-- The amount of money that a fixed decimal stands for. -/
def toRat (amount : FixedDecimal) : ℚ :=
  amount.units.value / 10 ^ amount.scale

variable {left right result value : FixedDecimal} {scale : Nat} {ε : Type}

theorem lt_def : left < right ↔ left.units.value < right.units.value ∨
        left.units.value = right.units.value ∧ left.scale < right.scale :=
  Iff.rfl

theorem le_def : left ≤ right ↔ left.units.value < right.units.value ∨
        left.units.value = right.units.value ∧ left.scale ≤ right.scale :=
  Iff.rfl

theorem not_lt_iff : ¬ left < right ↔ right ≤ left := by
  rw [lt_def, le_def]
  omega

theorem not_le_iff : ¬ left ≤ right ↔ right < left := by
  rw [← not_lt_iff, not_not]

@[simp]
theorem fromUnits_eq_ok {units : I128} :
    fromUnits units scale = .ok result ↔ result.units = units ∧ result.scale = scale := by
  unfold fromUnits
  split
  · constructor
    · rintro ⟨⟩
      exact ⟨rfl, rfl⟩
    · rintro ⟨rfl, rfl⟩
      rfl
  · next outOfRange =>
    simp only [reduceCtorEq, false_iff, not_and]
    rintro - rfl
    exact outOfRange result.scale_le

@[simp]
theorem zero_eq_ok : zero scale = .ok result ↔ result.units.value = 0 ∧ result.scale = scale := by
  simp [zero, zeroUnits, BoundedInt.ext_iff]

@[simp]
theorem isZero_iff {amount : FixedDecimal} : amount.isZero = true ↔ amount.units.value = 0 := by
  simp [isZero]

@[simp]
theorem checkedAdd_eq_ok : left.checkedAdd right = .ok result ↔
      left.scale = right.scale ∧ result.scale = left.scale ∧
        result.units.value = left.units.value + right.units.value := by
  unfold checkedAdd
  split
  · next differs => simp [differs]
  · next same =>
    simp only [ne_eq, not_not] at same
    cases added : left.units.checkedAdd right.units with
    | none =>
      simp only [reduceCtorEq, same, true_and, false_iff, not_and]
      intro _ sum
      have overflow := added.symm.trans (BoundedInt.checked_eq_some_iff.mpr sum)
      cases overflow
    | some units =>
      have sum := BoundedInt.checked_eq_some_iff.mp added
      simp only [Except.ok.injEq, same, true_and]
      constructor
      · rintro rfl
        exact ⟨rfl, sum⟩
      · rintro ⟨scaleEq, unitsEq⟩
        ext
        · exact sum.trans unitsEq.symm
        · exact scaleEq.symm

theorem exists_checkedAdd (left right : FixedDecimal) (sameScale : left.scale = right.scale)
    (above : -2 ^ 127 ≤ left.units.value + right.units.value)
    (below : left.units.value + right.units.value ≤ 2 ^ 127 - 1) :
    ∃ result, left.checkedAdd right = .ok result ∧ result.scale = left.scale ∧
      result.units.value = left.units.value + right.units.value :=
  ⟨⟨⟨_, above, below⟩, left.scale, left.scale_le⟩,
    checkedAdd_eq_ok.mpr ⟨sameScale, rfl, rfl⟩, rfl, rfl⟩

@[simp]
theorem negateOr_eq_ok {overflow : ε} : negateOr overflow value = .ok result ↔
      result.scale = value.scale ∧ result.units.value = -value.units.value := by
  simp only [negateOr, bind_eq_ok, okOr_eq_ok,
    mapError_eq_ok, fromUnits_eq_ok, BoundedInt.checkedNeg,
    BoundedInt.checked_eq_some_iff]
  constructor
  · rintro ⟨units, unitsEq, rfl, scaleEq⟩
    exact ⟨scaleEq, unitsEq⟩
  · rintro ⟨scaleEq, unitsEq⟩
    exact ⟨result.units, unitsEq, rfl, scaleEq⟩

theorem yields_negateOr {overflow : ε} {tolerated : ε → Prop}
    (overflowTolerated : tolerated overflow) :
    Yields (fun negated => negated.scale = value.scale) tolerated (negateOr overflow value) := by
  apply (yields_okOr overflowTolerated fun units _ => trivial).bind
  intro units _
  apply yields_mapError_const overflowTolerated
  intro negated built
  exact (fromUnits_eq_ok.mp built).2

section

variable {left right total : FixedDecimal} {amount : FixedDecimal}

theorem toRat_eq_zero_iff : amount.toRat = 0 ↔ amount.units.value = 0 := by
  simp [toRat]

theorem toRat_lt_zero_iff : amount.toRat < 0 ↔ amount.units.value < 0 := by
  have scalePos : (0 : ℚ) < 10 ^ amount.scale := by positivity
  rw [toRat, div_lt_iff₀ scalePos, zero_mul]
  exact_mod_cast Iff.rfl

theorem toRat_pos_iff : 0 < amount.toRat ↔ 0 < amount.units.value := by
  have scalePos : (0 : ℚ) < 10 ^ amount.scale := by positivity
  rw [toRat, lt_div_iff₀ scalePos, zero_mul]
  exact_mod_cast Iff.rfl

theorem toRat_add (scaleLeft : left.scale = total.scale) (scaleRight : right.scale = total.scale)
    (sum : total.units.value = left.units.value + right.units.value) :
    total.toRat = left.toRat + right.toRat := by
  simp only [toRat, scaleLeft, scaleRight, sum, Int.cast_add, add_div]

theorem toRat_sub (scaleLeft : left.scale = total.scale) (scaleRight : right.scale = total.scale)
    (difference : total.units.value = left.units.value - right.units.value) :
    total.toRat = left.toRat - right.toRat := by
  simp only [toRat, scaleLeft, scaleRight, difference, Int.cast_sub, sub_div]

theorem toRat_neg (scaleEq : left.scale = total.scale)
    (negated : total.units.value = -left.units.value) : total.toRat = -left.toRat := by
  simp [toRat, scaleEq, negated, neg_div]

variable (same : left.scale = right.scale)

include same

theorem toRat_le_iff : left.toRat ≤ right.toRat ↔ left ≤ right := by
  have scalePos : (0 : ℚ) < 10 ^ right.scale := by positivity
  rw [toRat, toRat, same, div_le_div_iff_of_pos_right scalePos, Int.cast_le, le_def, same]
  omega

theorem toRat_lt_iff : left.toRat < right.toRat ↔ left < right := by
  rw [← not_le, toRat_le_iff same.symm, not_le_iff]

theorem eq_of_toRat_eq (amountEq : left.toRat = right.toRat) : left = right := by
  have forward := (toRat_le_iff same).mp amountEq.le
  have backward := (toRat_le_iff same.symm).mp amountEq.ge
  rw [le_def] at forward backward
  ext
  · omega
  · exact same

end

theorem foldlM_eq_ok_toRat {α : Type} {step : FixedDecimal → α → Except ε FixedDecimal}
    (weight : α → ℚ) (itemScale : α → Nat) (adds : ∀ {total item next}, step total item = .ok next →
      total.scale = itemScale item ∧ next.scale = total.scale ∧
        next.toRat = total.toRat + weight item) {items : List α} {start total : FixedDecimal}
    (folded : items.foldlM step start = .ok total) : total.scale = start.scale ∧
      total.toRat = start.toRat + (items.map weight).sum ∧
      ∀ item ∈ items, itemScale item = start.scale := by
  have scaleKept : total.scale = start.scale := foldlM_eq_ok_invariant
      folded (fun current => current.scale = start.scale)
      (fun added currentScale => (adds added).2.1.trans currentScale) rfl
  have sum : total.toRat = start.toRat + (items.map weight).sum :=
    foldlM_eq_ok_sum folded toRat weight fun added => (adds added).2.2
  have scales : ∀ item ∈ items, itemScale item = start.scale := foldlM_eq_ok_forall
      folded (fun current => current.scale = start.scale)
      (fun item => itemScale item = start.scale)
      (fun added currentScale => by
        obtain ⟨same, nextScale, _⟩ := adds added
        exact ⟨nextScale.trans currentScale, same.symm.trans currentScale⟩) rfl
  exact ⟨scaleKept, sum, scales⟩

end FixedDecimal

end FuboxApi
