import Mathlib.Logic.Function.Basic

/-!
# Tables with a primary key

A table finds at most one row under a key, and a row is found under its own key only.
-/

structure KeyedTable {Row Key : Type} (key : Row → Key) where
  find : Key → Option Row
  key_of_find : ∀ {name row}, find name = some row → key row = name

namespace KeyedTable

variable {Row Key : Type} {key : Row → Key} [DecidableEq Key]

def empty : KeyedTable key :=
  ⟨fun _ => none, fun found => by cases found⟩

/-- The table with a row in the place of the one under its key. -/
def replace (table : KeyedTable key) (row : Row) : KeyedTable key where
  find name := if name = key row then some row else table.find name
  key_of_find {name other} found := by
    split at found
    · next nameEq => exact (Option.some.inj found) ▸ nameEq.symm
    · exact table.key_of_find found

variable {name other : Key} {row : Row} {table : KeyedTable key} {update : Row → Option Row}

theorem find_replace_self (table : KeyedTable key) (keyEq : key row = name) :
    (table.replace row).find name = some row :=
  if_pos keyEq.symm

theorem find_replace_ne (table : KeyedTable key) (keyNe : key row ≠ name) :
    (table.replace row).find name = table.find name :=
  if_neg (Ne.symm keyNe)

/-- A statement on the row under a key: what it answers when it changes the row
to another, and the table it leaves. -/
def updateAt (table : KeyedTable key) (name : Key) (update : Row → Option Row) :
    Bool × KeyedTable key :=
  match (table.find name).bind update with
  | some row => (true, table.replace row)
  | none => (false, table)

/-- The same for a statement that a row may abort. -/
def tryUpdateAt {Error : Type} (table : KeyedTable key) (name : Key)
    (update : Row → Except Error (Option Row)) : Except Error (Bool × KeyedTable key) :=
  match table.find name with
  | none => .ok (false, table)
  | some row => (update row).map fun updated => table.updateAt name fun _ => updated

theorem updateAt_of_some {updated : Row} (found : table.find name = some row)
    (updates : update row = some updated) :
    table.updateAt name update = (true, table.replace updated) := by
  rw [updateAt, found, Option.bind_some, updates]

theorem updateAt_of_none (found : table.find name = some row) (refuses : update row = none) :
    table.updateAt name update = (false, table) := by
  rw [updateAt, found, Option.bind_some, refuses]

theorem updateAt_of_tryUpdateAt {Error : Type} {update : Row → Except Error (Option Row)}
    {result : Bool × KeyedTable key} (executed : table.tryUpdateAt name update = .ok result) :
    result = table.updateAt name fun row => (update row).toOption.join := by
  cases found : table.find name with
  | none =>
    simp only [tryUpdateAt, found, Except.ok.injEq] at executed
    rw [updateAt, found]
    exact executed.symm
  | some row =>
    cases updateEq : update row with
    | error error => simp [tryUpdateAt, found, updateEq, Except.map] at executed
    | ok updated =>
      simp only [tryUpdateAt, found, updateEq, Except.map, Except.ok.injEq] at executed
      rw [← executed, updateAt, updateAt, found, Option.bind_some, Option.bind_some, updateEq]
      rfl

variable (keepsKey : ∀ row updated, update row = some updated → key updated = key row)

include keepsKey

theorem find_updateAt_ne (distinct : other ≠ name) :
    (table.updateAt name update).2.find other = table.find other := by
  unfold updateAt
  split
  · next updated updatedEq =>
    obtain ⟨row, found, updates⟩ := Option.bind_eq_some_iff.mp updatedEq
    have keyEq : key updated = name :=
      (keepsKey row updated updates).trans (table.key_of_find found)
    exact table.find_replace_ne (keyEq ▸ distinct.symm)
  · rfl

theorem exists_find_updateAt {property : Row → Prop}
    (keeps : ∀ row updated, update row = some updated → property row → property updated)
    (found : ∃ row, table.find other = some row ∧ property row) :
    ∃ row, (table.updateAt name update).2.find other = some row ∧ property row := by
  obtain ⟨row, rowFound, holds⟩ := found
  by_cases same : other = name
  · subst same
    cases updateEq : update row with
    | none =>
      rw [updateAt_of_none rowFound updateEq]
      exact ⟨row, rowFound, holds⟩
    | some updated =>
      rw [updateAt_of_some rowFound updateEq]
      have keyEq := (keepsKey row updated updateEq).trans (table.key_of_find rowFound)
      exact ⟨updated, table.find_replace_self keyEq, keeps row updated updateEq holds⟩
  · exact ⟨row, (find_updateAt_ne keepsKey same).trans rowFound, holds⟩

end KeyedTable
