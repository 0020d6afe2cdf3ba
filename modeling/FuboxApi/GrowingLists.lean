import Mathlib.Data.List.Forall2

/-!
# Lists that only grow
-/

namespace GrowingLists

variable {Item : Type*} {form : Item → Item → Prop} {earlier later : List Item}

/-- The later list has the items of the earlier one at their places, each in a form that it has
taken on, and new items behind them. -/
def Grows (form : Item → Item → Prop) (earlier later : List Item) : Prop :=
  ∃ stored added, later = stored ++ added ∧ List.Forall₂ form earlier stored

theorem grows_refl (same : ∀ item, form item item) (items : List Item) : Grows form items items :=
  ⟨items, [], (List.append_nil _).symm, List.forall₂_same.mpr fun item _ => same item⟩

theorem Grows.append (grows : Grows form earlier later) (more : List Item) :
    Grows form earlier (later ++ more) := by
  obtain ⟨stored, added, rfl, forms⟩ := grows
  exact ⟨stored, added ++ more, List.append_assoc .., forms⟩

theorem Grows.map (grows : Grows form earlier later) {change : Item → Item}
    (kept : ∀ item stored, form item stored → form item (change stored)) :
    Grows form earlier (later.map change) := by
  obtain ⟨stored, added, rfl, forms⟩ := grows
  exact ⟨stored.map change, added.map change, List.map_append,
    List.forall₂_map_right_iff.mpr (forms.imp kept)⟩

end GrowingLists
