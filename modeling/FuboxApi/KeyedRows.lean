import Mathlib.Algebra.BigOperators.Group.List.Basic
import Mathlib.Algebra.Order.BigOperators.Group.List
import Mathlib.Data.List.Nodup

/-!
# Rows with distinct keys

Tables are lists of rows, and a key function names each row. When the keys are distinct, changing
the rows with some keys is changing the rows that the keys were selected by.
-/

namespace KeyedRows

variable {Row Key : Type*} {key : Row → Key} {rows : List Row} {target : Key}

theorem mem_keys_filter_iff (distinct : (rows.map key).Nodup) {row : Row} (rowMem : row ∈ rows)
    (selected : Row → Bool) : key row ∈ (rows.filter selected).map key ↔ selected row = true := by
  constructor
  · intro keyMem
    obtain ⟨other, otherMem, keyEq⟩ := List.mem_map.mp keyMem
    have otherSelected := List.mem_filter.mp otherMem
    have same := List.inj_on_of_nodup_map distinct otherSelected.1 rowMem keyEq
    exact same ▸ otherSelected.2
  · intro rowSelected
    exact List.mem_map_of_mem (List.mem_filter.mpr ⟨rowMem, rowSelected⟩)

theorem sum_map_change {Amount : Type*} [AddCommMonoid Amount] (weight : Row → Amount)
    (selected : Row → Bool) (change : Row → Row) (difference : Amount)
    (changes : ∀ row ∈ rows, selected row = true → weight (change row) = weight row + difference) :
    ((rows.map fun row => if selected row = true then change row else row).map weight).sum =
      (rows.map weight).sum + rows.countP selected • difference := by
  induction rows with
  | nil => simp
  | cons row rest ih =>
    have restSum := ih fun other otherMem => changes other (by simp [otherMem])
    by_cases isSelected : selected row = true
    · have rowChange := changes row (by simp) isSelected
      simp only [List.map_cons, List.sum_cons, if_pos isSelected, restSum,
        rowChange, List.countP_cons_of_pos isSelected, succ_nsmul]
      ac_rfl
    · simp only [List.map_cons, List.sum_cons, if_neg isSelected, restSum,
        List.countP_cons_of_neg isSelected]
      ac_rfl

variable {Amount : Type*}

section

variable [AddCommMonoid Amount] (selected : Row → Bool) (weight : Row → Amount)

def selectedSum (rows : List Row) : Amount :=
  ((rows.filter selected).map weight).sum

/-- What one row adds to the total. -/
def contribution (row : Row) : Amount :=
  if selected row = true then weight row else 0

theorem contribution_nonneg [Preorder Amount] {row : Row} (nonneg : 0 ≤ weight row) :
    0 ≤ contribution selected weight row := by
  unfold contribution
  split
  · exact nonneg
  · exact le_rfl

@[simp]
theorem selectedSum_nil : selectedSum selected weight [] = 0 :=
  rfl

theorem selectedSum_cons (row : Row) (rows : List Row) : selectedSum selected weight (row :: rows) =
      contribution selected weight row + selectedSum selected weight rows := by
  by_cases isSelected : selected row = true
  · simp [selectedSum, contribution, isSelected]
  · simp [selectedSum, contribution, isSelected]

@[simp]
theorem selectedSum_append (first second : List Row) :
    selectedSum selected weight (first ++ second) =
      selectedSum selected weight first + selectedSum selected weight second := by
  simp [selectedSum]

theorem selectedSum_singleton (row : Row) :
    selectedSum selected weight [row] = contribution selected weight row := by
  rw [selectedSum_cons, selectedSum_nil, add_zero]

theorem selectedSum_eq_nsmul {amount : Amount}
    (contributes : ∀ row ∈ rows, contribution selected weight row = amount) :
    selectedSum selected weight rows = rows.length • amount := by
  induction rows with
  | nil => simp
  | cons row rest ih =>
    have restSum := ih fun other otherMem => contributes other (by simp [otherMem])
    rw [selectedSum_cons, contributes row (by simp), restSum, List.length_cons, succ_nsmul']

theorem selectedSum_le_of_sublist [PartialOrder Amount] [IsOrderedAddMonoid Amount]
    {fewer : List Row} (sublist : fewer.Sublist rows) (nonneg : ∀ row ∈ rows, 0 ≤ weight row) :
    selectedSum selected weight fewer ≤ selectedSum selected weight rows := by
  apply ((sublist.filter selected).map weight).sum_le_sum
  intro amount amountMem
  obtain ⟨row, rowMem, rfl⟩ := List.mem_map.mp amountMem
  exact nonneg row (List.mem_of_mem_filter rowMem)

theorem selectedSum_map {Source : Type*} (view : Source → Row) (rows : List Source) :
    selectedSum selected weight (rows.map view) =
      selectedSum (selected ∘ view) (weight ∘ view) rows := by
  simp [selectedSum, List.filter_map]

theorem selectedSum_or {other : Row → Bool}
    (disjoint : ∀ row ∈ rows, selected row = true → other row = false) :
    selectedSum (fun row => selected row || other row) weight rows =
      selectedSum selected weight rows + selectedSum other weight rows := by
  induction rows with
  | nil => simp
  | cons row rest ih =>
    have restSum := ih fun later laterMem => disjoint later (by simp [laterMem])
    have rowSum : contribution (fun row => selected row || other row) weight row =
        contribution selected weight row + contribution other weight row := by
      by_cases isSelected : selected row = true
      · simp [contribution, isSelected, disjoint row (by simp) isSelected]
      · simp [contribution, isSelected]
    simp only [selectedSum_cons, rowSum, restSum]
    ac_rfl

theorem selectedSum_and_add_and_not (other : Row → Bool) (rows : List Row) :
    selectedSum (fun row => selected row && other row) weight rows +
        selectedSum (fun row => selected row && !other row) weight rows =
      selectedSum selected weight rows := by
  have disjoint : ∀ row ∈ rows, (selected row && other row) = true →
      (selected row && !other row) = false := by
    intro row _ both
    rw [(Bool.and_eq_true_iff.mp both).2, Bool.not_true, Bool.and_false]
  rw [← selectedSum_or _ _ disjoint]
  simp only [← Bool.and_or_distrib_left, Bool.or_not_self, Bool.and_true]

theorem selectedSum_add_difference (other : Row → Bool) (rows : List Row) :
    selectedSum selected weight rows +
        selectedSum (fun row => other row && !selected row) weight rows =
      selectedSum other weight rows +
        selectedSum (fun row => selected row && !other row) weight rows := by
  have both : (fun row => other row && selected row) = fun row => selected row && other row :=
    funext fun row => Bool.and_comm _ _
  rw [← selectedSum_and_add_and_not selected weight other,
    ← selectedSum_and_add_and_not other weight selected, both]
  ac_rfl

section

variable [PartialOrder Amount] [IsOrderedAddMonoid Amount] {change : Row → Row}
  (raises : ∀ row ∈ rows, contribution selected weight row ≤ contribution selected weight (change
    row))

include raises

theorem selectedSum_le_map_change :
    selectedSum selected weight rows ≤ selectedSum selected weight (rows.map change) := by
  induction rows with
  | nil => simp
  | cons row rest ih =>
    rw [List.map_cons, selectedSum_cons, selectedSum_cons]
    exact add_le_add (raises row (by simp))
      (ih fun other otherMem => raises other (by simp [otherMem]))

theorem selectedSum_add_le_map_change {target : Row} (targetMem : target ∈ rows) :
    selectedSum selected weight rows + contribution selected weight (change target) ≤
      selectedSum selected weight (rows.map change) + contribution selected weight target := by
  obtain ⟨before, after, rfl⟩ := List.append_of_mem targetMem
  rw [List.forall_mem_append, List.forall_mem_cons] at raises
  have beforeLe := selectedSum_le_map_change selected weight raises.1
  have afterLe := selectedSum_le_map_change selected weight raises.2.2
  simp only [List.map_append, List.map_cons, selectedSum_append, selectedSum_cons]
  calc
    _ = (selectedSum selected weight before + selectedSum selected weight after) +
          (contribution selected weight target + contribution selected weight (change target)) := by
        ac_rfl
    _ ≤ (selectedSum selected weight (before.map change) +
          selectedSum selected weight (after.map change)) +
          (contribution selected weight target + contribution selected weight (change target)) :=
        add_le_add (add_le_add beforeLe afterLe) le_rfl
    _ = _ := by ac_rfl

end

end

variable [DecidableEq Key]

/-- Change the rows with the given key. -/
def modify (key : Row → Key) (target : Key) (change : Row → Row) (rows : List Row) : List Row :=
  rows.map fun row => if key row = target then change row else row

theorem modify_eq_self (change : Row → Row) (absent : target ∉ rows.map key) :
    modify key target change rows = rows := by
  have untouched : ∀ row ∈ rows, (if key row = target then change row else row) = id row := by
    intro row rowMem
    apply if_neg
    intro keyEq
    exact absent (List.mem_map.mpr ⟨row, rowMem, keyEq⟩)
  rw [modify, List.map_congr_left untouched, List.map_id]

theorem filter_ne_eq_self (absent : target ∉ rows.map key) :
    rows.filter (fun row => decide (key row ≠ target)) = rows := by
  apply List.filter_eq_self.mpr
  intro row rowMem
  rw [decide_eq_true_eq]
  intro keyEq
  exact absent (keyEq ▸ List.mem_map_of_mem rowMem)

section

variable [AddCommMonoid Amount] (selected : Row → Bool) (weight : Row → Amount)

theorem selectedSum_remove (distinct : (rows.map key).Nodup) {row : Row} (rowMem : row ∈ rows) :
    selectedSum selected weight
        (rows.filter fun other => decide (key other ≠ key row)) + contribution selected weight row =
      selectedSum selected weight rows := by
  induction rows with
  | nil => simp at rowMem
  | cons head rest ih =>
    obtain ⟨headFresh, restDistinct⟩ := List.nodup_cons.mp distinct
    rw [selectedSum_cons]
    rcases List.mem_cons.mp rowMem with rfl | restMem
    · rw [List.filter_cons_of_neg (by simp), filter_ne_eq_self headFresh, add_comm]
    · have headDiffers : key head ≠ key row := by
        intro keyEq
        exact headFresh (keyEq ▸ List.mem_map_of_mem restMem)
      rw [List.filter_cons_of_pos (by simpa using headDiffers), selectedSum_cons,
        add_assoc, ih restDistinct restMem]

end

variable {change : Row → Row} (stable : ∀ row, key (change row) = key row)
include stable

theorem map_key_modify (target : Key) (rows : List Row) :
    (modify key target change rows).map key = rows.map key := by
  simp only [modify, List.map_map]
  apply List.map_congr_left
  intro row _
  simp only [Function.comp_apply]
  split
  · exact stable row
  · rfl

theorem foldl_modify_eq_map {keys : List Key} (distinct : keys.Nodup) (rows : List Row) :
    keys.foldl (fun current target => modify key target change current) rows =
      rows.map fun row => if key row ∈ keys then change row else row := by
  induction keys generalizing rows with
  | nil => simp
  | cons target rest ih =>
    obtain ⟨targetFresh, restDistinct⟩ := List.nodup_cons.mp distinct
    rw [List.foldl_cons, ih restDistinct, modify, List.map_map]
    apply List.map_congr_left
    intro row _
    by_cases rowEq : key row = target
    · simp [rowEq, stable, targetFresh]
    · simp [rowEq]

end KeyedRows
