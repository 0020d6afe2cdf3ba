import Mathlib.Data.List.Basic

/-!
# Frames of a delimited stream

A reader that receives a stream in chunks keeps the bytes after the last delimiter. When a
delimiter, once found, stays the first one however the buffer grows, the frames do not depend on the
chunks.
-/

namespace DelimitedFrames

variable {Symbol : Type*}

section

variable [DecidableEq Symbol]

/-- The first offset at which the pattern starts. -/
def windowPosition (pattern : List Symbol) : List Symbol → Option Nat
  | [] => none
  | head :: tail =>
    if pattern <+: head :: tail then some 0
    else (windowPosition pattern tail).map (· + 1)

variable {buffer pattern : List Symbol} {offset : Nat}

theorem windowPosition_eq_some_iff (patternNonempty : pattern ≠ []) :
    windowPosition pattern buffer = some offset ↔ pattern <+: buffer.drop offset ∧
        ∀ earlier < offset, ¬ pattern <+: buffer.drop earlier := by
  induction buffer generalizing offset with
  | nil => simp [windowPosition, patternNonempty]
  | cons head tail ih =>
    unfold windowPosition
    split
    · next starts =>
      cases offset with
      | zero => simp [starts]
      | succ offset =>
        simp only [Option.some.injEq, reduceCtorEq, false_iff, not_and]
        intro _ none
        exact none 0 (Nat.succ_pos offset) starts
    · next startsNot =>
      cases offset with
      | zero => simp [startsNot]
      | succ offset =>
        simp only [Option.map_eq_some_iff, Nat.add_right_cancel_iff, exists_eq_right, ih,
          List.drop_succ_cons, and_congr_right_iff]
        intro _
        constructor
        · intro earlierNone earlier earlierLt
          cases earlier with
          | zero => exact startsNot
          | succ earlier => exact earlierNone earlier (Nat.lt_of_succ_lt_succ earlierLt)
        · intro earlierNone earlier earlierLt
          exact earlierNone (earlier + 1) (Nat.succ_lt_succ earlierLt)

omit [DecidableEq Symbol] in
theorem isPrefix_drop_append_iff (patternNonempty : pattern ≠ []) (buffer more : List Symbol)
    (offset : Nat) : pattern <+: buffer.drop offset ↔ pattern <+: (buffer ++ more).drop offset ∧
        offset + pattern.length ≤ buffer.length := by
  have lengthPos : 0 < pattern.length := List.length_pos_iff.mpr patternNonempty
  constructor
  · intro starts
    have lengthLe := starts.length_le
    rw [List.length_drop] at lengthLe
    have offsetLe : offset ≤ buffer.length := by omega
    rw [List.drop_append_of_le_length offsetLe]
    exact ⟨starts.trans (List.prefix_append _ _), by omega⟩
  · rintro ⟨starts, fits⟩
    have offsetLe : offset ≤ buffer.length := by omega
    rw [List.drop_append_of_le_length offsetLe] at starts
    apply List.prefix_of_prefix_length_le starts (List.prefix_append _ _)
    rw [List.length_drop]
    omega

/-- In a longer buffer the first occurrence stays where it was, and only an
occurrence that ends beyond the old buffer can be new. -/
theorem windowPosition_append_iff (patternNonempty : pattern ≠ []) (buffer more : List Symbol)
    (offset : Nat) : windowPosition pattern buffer = some offset ↔
      windowPosition pattern (buffer ++ more) = some offset ∧
        offset + pattern.length ≤ buffer.length := by
  simp only [windowPosition_eq_some_iff patternNonempty,
    isPrefix_drop_append_iff patternNonempty buffer more]
  constructor
  · rintro ⟨⟨starts, fits⟩, earlierNone⟩
    refine ⟨⟨starts, ?_⟩, fits⟩
    intro earlier earlierLt earlierStarts
    exact earlierNone earlier earlierLt ⟨earlierStarts, by omega⟩
  · rintro ⟨⟨starts, earlierNone⟩, fits⟩
    refine ⟨⟨starts, fits⟩, ?_⟩
    intro earlier earlierLt earlierStarts
    exact earlierNone earlier earlierLt earlierStarts.1

theorem windowPosition_le (patternNonempty : pattern ≠ [])
    (found : windowPosition pattern buffer = some offset) :
    offset + pattern.length ≤ buffer.length :=
  ((windowPosition_append_iff patternNonempty buffer [] offset).mp found).2

end

/-- How a stream finds its first delimiter: its offset and its width. A
delimiter that has been found stays the first one when the buffer grows. -/
structure Delimiter (Symbol : Type*) where
  find : List Symbol → Option (Nat × Nat)
  width_pos : ∀ {buffer offset width}, find buffer = some (offset, width) → 0 < width
  within : ∀ {buffer offset width}, find buffer = some (offset, width) →
    offset + width ≤ buffer.length
  stable : ∀ {buffer found}, find buffer = some found → ∀ more, find (buffer ++ more) = some found

namespace Delimiter

variable (delimiter : Delimiter Symbol) {buffer : List Symbol} {offset width count : Nat}

theorem length_drop_lt (found : delimiter.find buffer = some (offset, width)) :
    (buffer.drop (offset + width)).length < buffer.length := by
  have widthPos := delimiter.width_pos found
  have fits := delimiter.within found
  rw [List.length_drop]
  omega

/-- The frames that end in a delimiter, and the remainder. -/
def split (buffer : List Symbol) : List (List Symbol) × List Symbol :=
  match _found : delimiter.find buffer with
  | none => ([], buffer)
  | some (offset, width) =>
    let later := split (buffer.drop (offset + width))
    (buffer.take offset :: later.1, later.2)
termination_by buffer.length
decreasing_by exact delimiter.length_drop_lt _found

theorem split_of_none (found : delimiter.find buffer = none) :
    delimiter.split buffer = ([], buffer) := by
  unfold split
  split
  · rfl
  · next foundSome => simp [found] at foundSome

theorem split_of_some (found : delimiter.find buffer = some (offset, width)) :
    delimiter.split buffer =
      (buffer.take offset :: (delimiter.split (buffer.drop (offset + width))).1,
        (delimiter.split (buffer.drop (offset + width))).2) := by
  rw [split]
  split
  · next foundNone => simp [found] at foundNone
  · next foundSome =>
    rw [found] at foundSome
    obtain ⟨rfl, rfl⟩ := Prod.mk.inj (Option.some.inj foundSome)
    rfl

theorem split_append (buffer more : List Symbol) : delimiter.split (buffer ++ more) =
      ((delimiter.split buffer).1 ++ (delimiter.split ((delimiter.split buffer).2 ++ more)).1,
        (delimiter.split ((delimiter.split buffer).2 ++ more)).2) := by
  cases found : delimiter.find buffer with
  | none => simp [delimiter.split_of_none found]
  | some position =>
    obtain ⟨offset, width⟩ := position
    have fits := delimiter.within found
    have foundLonger := delimiter.stable found more
    have takeEq : (buffer ++ more).take offset = buffer.take offset :=
      List.take_append_of_le_length (by omega)
    have dropEq : (buffer ++ more).drop (offset + width) = buffer.drop (offset + width) ++ more :=
      List.drop_append_of_le_length fits
    rw [delimiter.split_of_some foundLonger, delimiter.split_of_some found, takeEq, dropEq,
      split_append (buffer.drop (offset + width)) more]
    rfl
termination_by buffer.length
decreasing_by exact delimiter.length_drop_lt found

theorem find_nil : delimiter.find [] = none := by
  cases found : delimiter.find [] with
  | none => rfl
  | some position =>
    have fits := delimiter.within found
    have widthPos := delimiter.width_pos found
    rw [List.length_nil] at fits
    omega

theorem find_split_snd (buffer : List Symbol) :
    delimiter.find (delimiter.split buffer).2 = none := by
  cases found : delimiter.find buffer with
  | none => rwa [delimiter.split_of_none found]
  | some position =>
    rw [delimiter.split_of_some found]
    exact find_split_snd (buffer.drop (position.1 + position.2))
termination_by buffer.length
decreasing_by exact delimiter.length_drop_lt found

/-! ## What a reader has to hold -/

def frameSizes (buffer : List Symbol) : List (Nat × Nat) :=
  match _found : delimiter.find buffer with
  | none => []
  | some (offset, width) => (offset, width) :: frameSizes (buffer.drop (offset + width))
termination_by buffer.length
decreasing_by exact delimiter.length_drop_lt _found

theorem frameSizes_of_none (found : delimiter.find buffer = none) :
    delimiter.frameSizes buffer = [] := by
  unfold frameSizes
  split
  · rfl
  · next foundSome => simp [found] at foundSome

theorem frameSizes_of_some (found : delimiter.find buffer = some (offset, width)) :
    delimiter.frameSizes buffer =
      (offset, width) :: delimiter.frameSizes (buffer.drop (offset + width)) := by
  rw [frameSizes]
  split
  · next foundNone => simp [found] at foundNone
  · next foundSome =>
    rw [found] at foundSome
    obtain ⟨rfl, rfl⟩ := Prod.mk.inj (Option.some.inj foundSome)
    rfl

/-- A delimiter that is found as soon as its last symbol has arrived. -/
def Prompt : Prop :=
  ∀ {buffer offset width}, delimiter.find buffer = some (offset, width) →
    delimiter.find (buffer.take (offset + width)) = some (offset, width)

variable {delimiter}

theorem find_of_find_take {position : Nat × Nat}
    (earlier : delimiter.find (buffer.take count) = some position) :
    delimiter.find buffer = some position := by
  have stays := delimiter.stable earlier (buffer.drop count)
  rwa [List.take_append_drop] at stays

theorem find_take_eq_none (found : delimiter.find buffer = some (offset, width))
    (early : count < offset + width) : delimiter.find (buffer.take count) = none := by
  cases earlier : delimiter.find (buffer.take count) with
  | none => rfl
  | some position =>
    have fits := delimiter.within (earlier.trans ((find_of_find_take earlier).symm.trans found))
    rw [List.length_take] at fits
    omega

theorem find_take_eq_none_of_none (found : delimiter.find buffer = none) (count : Nat) :
    delimiter.find (buffer.take count) = none := by
  cases earlier : delimiter.find (buffer.take count) with
  | none => rfl
  | some position => cases found.symm.trans (find_of_find_take earlier)

theorem split_take_of_le (prompt : delimiter.Prompt)
    (found : delimiter.find buffer = some (offset, width)) (late : offset + width ≤ count) :
    (delimiter.split (buffer.take count)).2 =
      (delimiter.split ((buffer.drop (offset + width)).take (count - (offset + width)))).2 := by
  have cut : buffer.take count = buffer.take (offset + width) ++
      (buffer.drop (offset + width)).take (count - (offset + width)) := by
    rw [← List.take_add, Nat.add_sub_cancel' late]
  have foundEarly := delimiter.stable (prompt found)
    ((buffer.drop (offset + width)).take (count - (offset + width)))
  have wholeLength : (buffer.take (offset + width)).length = offset + width :=
    List.length_take_of_le (delimiter.within found)
  rw [cut, delimiter.split_of_some foundEarly, List.drop_left' wholeLength]

/-- How much a prompt reader has to hold at most: a frame with all of its
delimiter but the last symbol, or the remainder. -/
theorem length_pending_le_iff (prompt : delimiter.Prompt) (limit : Nat) (buffer : List Symbol) :
    (∀ count, (delimiter.split (buffer.take count)).2.length ≤ limit) ↔
      (∀ size ∈ delimiter.frameSizes buffer, size.1 + size.2 ≤ limit + 1) ∧
        (delimiter.split buffer).2.length ≤ limit := by
  cases found : delimiter.find buffer with
  | none =>
    have pendingEq : ∀ count, (delimiter.split (buffer.take count)).2 = buffer.take count :=
      fun count => congrArg Prod.snd
        (delimiter.split_of_none (find_take_eq_none_of_none found count))
    simp only [pendingEq, delimiter.split_of_none found, delimiter.frameSizes_of_none found,
      List.not_mem_nil, false_implies, implies_true, true_and, List.length_take]
    constructor
    · intro held
      have all := held buffer.length
      omega
    · intro held count
      omega
  | some position =>
    obtain ⟨offset, width⟩ := position
    have fits := delimiter.within found
    have widthPos := delimiter.width_pos found
    have later := length_pending_le_iff prompt limit (buffer.drop (offset + width))
    have early : ∀ count < offset + width,
        (delimiter.split (buffer.take count)).2 = buffer.take count :=
      fun count isEarly => congrArg Prod.snd
        (delimiter.split_of_none (find_take_eq_none found isEarly))
    rw [delimiter.split_of_some found, delimiter.frameSizes_of_some found,
      List.forall_mem_cons, and_assoc, ← later]
    constructor
    · intro held
      refine ⟨?_, fun count => ?_⟩
      · have most := held (offset + width - 1)
        rw [early _ (by omega), List.length_take] at most
        omega
      · have same := held (offset + width + count)
        rwa [split_take_of_le prompt found (by omega), Nat.add_sub_cancel_left] at same
    · rintro ⟨first, held⟩ count
      by_cases isEarly : count < offset + width
      · rw [early count isEarly, List.length_take]
        omega
      · rw [split_take_of_le prompt found (by omega)]
        exact held _
termination_by buffer.length
decreasing_by exact delimiter.length_drop_lt found

theorem exists_before_pending (prompt : delimiter.Prompt) (buffer : List Symbol) :
    ∃ before, buffer = before ++ (delimiter.split buffer).2 ∧ (delimiter.split before).2 = [] := by
  cases found : delimiter.find buffer with
  | none =>
    refine ⟨[], ?_, ?_⟩
    · rw [delimiter.split_of_none found, List.nil_append]
    · rw [delimiter.split_of_none delimiter.find_nil]
  | some position =>
    obtain ⟨offset, width⟩ := position
    obtain ⟨later, laterEq, nothing⟩ := exists_before_pending prompt (buffer.drop (offset + width))
    have wholeLength : (buffer.take (offset + width)).length = offset + width :=
      List.length_take_of_le (delimiter.within found)
    refine ⟨buffer.take (offset + width) ++ later, ?_, ?_⟩
    · rw [delimiter.split_of_some found, List.append_assoc, ← laterEq, List.take_append_drop]
    · rw [delimiter.split_of_some (delimiter.stable (prompt found) later),
        List.drop_left' wholeLength]
      exact nothing
termination_by buffer.length
decreasing_by exact delimiter.length_drop_lt found

end Delimiter

end DelimitedFrames
