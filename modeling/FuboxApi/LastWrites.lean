import Mathlib.Data.List.Basic

/-!
# The last write wins

What a fold that overwrites a variable ends with is the last value written, or the initial one.
-/

namespace LastWrites

variable {α β : Type*}

def lastWritten (write : α → Option β) (items : List α) : Option β :=
  (items.filterMap write).getLast?

variable {write : α → Option β}

@[simp]
theorem lastWritten_nil : lastWritten write [] = none :=
  rfl

@[simp]
theorem lastWritten_cons (item : α) (later : List α) :
    lastWritten write (item :: later) = (lastWritten write later).or (write item) := by
  unfold lastWritten
  cases written : write item with
  | none => rw [List.filterMap_cons_none written, Option.or_none]
  | some value =>
    rw [List.filterMap_cons_some written, List.getLast?_cons]
    cases (later.filterMap write).getLast? <;> rfl

theorem lastWritten_append (first second : List α) : lastWritten write (first ++ second) =
      (lastWritten write second).or (lastWritten write first) := by
  induction first with
  | nil => simp
  | cons item later ih =>
    rw [List.cons_append, lastWritten_cons, ih, lastWritten_cons, Option.or_assoc]

theorem lastWritten_comp {γ : Type*} (convert : γ → α) (items : List γ) :
    lastWritten (write ∘ convert) items = lastWritten write (items.map convert) := by
  rw [lastWritten, lastWritten, List.filterMap_map]

variable {items : List α}

theorem lastWritten_eq_none_iff :
    lastWritten write items = none ↔ ∀ item ∈ items, write item = none := by
  simp [lastWritten]

theorem exists_of_lastWritten {value : β} (last : lastWritten write items = some value) :
    ∃ item ∈ items, write item = some value :=
  List.mem_filterMap.mp (List.mem_of_getLast? last)

end LastWrites
