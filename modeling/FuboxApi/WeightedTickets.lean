import Mathlib

/-!
# Picking by weighted tickets

The items of a list share the tickets below their total weight: the first item has as many of the
lowest tickets as it has weight, the next one the tickets after those.
-/

namespace WeightedTickets

variable {Item : Type*} (weight : Item → Nat)

def total (items : List Item) : Nat :=
  (items.map weight).sum

/-- The item that owns a ticket. -/
def pick : List Item → Nat → Option Item
  | [], _ => none
  | item :: later, ticket =>
    if ticket < weight item then some item else pick later (ticket - weight item)

@[simp]
theorem total_nil : total weight [] = 0 :=
  rfl

@[simp]
theorem total_cons (item : Item) (later : List Item) :
    total weight (item :: later) = weight item + total weight later :=
  List.sum_cons

theorem total_perm {first second : List Item} (perm : first.Perm second) :
    total weight first = total weight second :=
  (perm.map weight).sum_eq

variable {item : Item} {items : List Item} {ticket : Nat}

theorem mem_of_pick (picked : pick weight items ticket = some item) : item ∈ items := by
  induction items generalizing ticket with
  | nil => simp [pick] at picked
  | cons head later ih =>
    unfold pick at picked
    split at picked
    · next owns =>
      rw [← Option.some.inj picked]
      exact List.mem_cons_self
    · exact List.mem_cons_of_mem head (ih picked)

theorem isSome_pick_iff : (pick weight items ticket).isSome ↔ ticket < total weight items := by
  induction items generalizing ticket with
  | nil => simp [pick]
  | cons head later ih =>
    rw [total_cons]
    unfold pick
    split
    · next owns =>
      simp only [Option.isSome_some, true_iff]
      omega
    · next ownsNot =>
      rw [ih]
      omega

theorem pick_own {later : List Item} (owns : ticket < weight item) :
    pick weight (item :: later) ticket = some item :=
  if_pos owns

theorem pick_add (item : Item) (later : List Item) (ticket : Nat) :
    pick weight (item :: later) (weight item + ticket) = pick weight later ticket := by
  rw [pick, if_neg (by omega), Nat.add_sub_cancel_left]

theorem exists_ticket_of_mem (member : item ∈ items) (weightPos : 0 < weight item) :
    ∃ ticket < total weight items, pick weight items ticket = some item := by
  induction items with
  | nil => cases member
  | cons head later ih =>
    rcases List.mem_cons.mp member with rfl | laterMem
    · exact ⟨0, by rw [total_cons]; omega, pick_own weight weightPos⟩
    · obtain ⟨ticket, ticketLt, owns⟩ := ih laterMem
      refine ⟨weight head + ticket, by rw [total_cons]; omega, ?_⟩
      rw [pick_add, owns]

theorem count_pick (property : Item → Bool) (items : List Item) :
    Nat.count (fun ticket => (pick weight items ticket).any property = true) (total weight items) =
      total weight (items.filter property) := by
  induction items with
  | nil => simp
  | cons head later ih =>
    simp only [total_cons, Nat.count_add, pick_add, ih]
    cases holds : property head with
    | true =>
      rw [List.filter_cons_of_pos holds, total_cons, Nat.count_of_forall]
      intro ticket owns
      rw [pick_own weight owns]
      exact holds
    | false =>
      rw [List.filter_cons_of_neg (by simp [holds]), Nat.count_of_forall_not, Nat.zero_add]
      intro ticket owns
      rw [pick_own weight owns]
      simp [holds]

end WeightedTickets
