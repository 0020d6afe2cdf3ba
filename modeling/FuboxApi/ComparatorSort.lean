import Mathlib.Data.List.Sort

/-!
# Stable sorting with a comparator

Sorting by a comparator keeps the elements and orders them; those that it cannot tell apart stay in
their input order.
-/

namespace ComparatorSort

variable {Item : Type*}

/-- Whether the comparator lets the first item stand before the second. -/
abbrev MayPrecede (compareItems : Item → Item → Ordering) (left right : Item) : Prop :=
  (compareItems left right).isLE = true

def sortBy (compareItems : Item → Item → Ordering) (items : List Item) : List Item :=
  items.insertionSort (MayPrecede compareItems)

theorem sortBy_perm (compareItems : Item → Item → Ordering) (items : List Item) :
    (sortBy compareItems items).Perm items :=
  List.perm_insertionSort _ items

@[simp]
theorem mem_sortBy {compareItems : Item → Item → Ordering} {items : List Item} {item : Item} :
    item ∈ sortBy compareItems items ↔ item ∈ items :=
  (sortBy_perm compareItems items).mem_iff

theorem sortBy_replicate (compareItems : Item → Item → Ordering) (count : Nat) (item : Item) :
    sortBy compareItems (List.replicate count item) = List.replicate count item :=
  List.perm_replicate.mp (sortBy_perm compareItems _)

variable (compareItems : Item → Item → Ordering) [Std.TransCmp compareItems]

instance mayPrecede_trans : IsTrans Item (MayPrecede compareItems) where
  trans _ _ _ := Std.TransCmp.isLE_trans

instance mayPrecede_total : Std.Total (MayPrecede compareItems) where
  total left right := by
    have swapped : compareItems right left = (compareItems left right).swap :=
      Std.OrientedCmp.eq_swap
    rw [MayPrecede, MayPrecede, swapped]
    cases compareItems left right <;> simp

theorem pairwise_sortBy (items : List Item) :
    (sortBy compareItems items).Pairwise (MayPrecede compareItems) :=
  List.pairwise_insertionSort _ items

theorem sortBy_eq_of_perm {first second : List Item} (perm : first.Perm second)
    (distinguished : ∀ left ∈ first, ∀ right ∈ first,
      compareItems left right = .eq → left = right) :
    sortBy compareItems first = sortBy compareItems second := by
  apply List.Perm.eq_of_pairwise _ (pairwise_sortBy compareItems first)
    (pairwise_sortBy compareItems second)
    ((sortBy_perm compareItems first).trans (perm.trans (sortBy_perm compareItems second).symm))
  intro left right leftMem rightMem leftFirst rightFirst
  rw [mem_sortBy] at leftMem rightMem
  apply distinguished left leftMem right (perm.mem_iff.mpr rightMem)
  exact Std.OrientedCmp.isLE_antisymm leftFirst rightFirst

end ComparatorSort
