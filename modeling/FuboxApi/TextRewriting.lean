import Mathlib.Data.List.Infix

/-!
# Scanning and rewriting a text from the left

A rule looks at a position of a text and at the symbol before it. Where it matches, it reports a
finding or writes an output in place of the next symbols, and the text behind them is read on.
-/

namespace TextRewriting

variable {α β γ : Type}

/-- What is found at a position, and how many symbols it takes. -/
abbrev Rule (α γ : Type) :=
  (previous : Option α) → (rest : List α) → Option (γ × Nat)

def scan (rule : Rule α γ) : (previous : Option α) → (skipped : Nat) → List α → List γ
  | _, _, [] => []
  | _, skipped + 1, symbol :: rest => scan rule (some symbol) skipped rest
  | previous, 0, symbol :: rest =>
    match rule previous (symbol :: rest) with
    | some (finding, length) => finding :: scan rule (some symbol) (length - 1) rest
    | none => scan rule (some symbol) 0 rest

/-- Writes what a rule finds in place of the symbols that it takes. -/
def rewrite (rule : Rule α (List α)) : (previous : Option α) → (skipped : Nat) → List α → List α
  | _, _, [] => []
  | _, skipped + 1, symbol :: rest => rewrite rule (some symbol) skipped rest
  | previous, 0, symbol :: rest =>
    match rule previous (symbol :: rest) with
    | some (output, length) => output ++ rewrite rule (some symbol) (length - 1) rest
    | none => symbol :: rewrite rule (some symbol) 0 rest

/-- Matches where a pattern stands, with the symbols read through a map. -/
def replacing [BEq β] (fold : α → β) (pattern : List β) (marker : List α) : Rule α (List α) :=
  fun _ rest =>
    if pattern.isPrefixOf (rest.map fold) then some (marker, pattern.length) else none

/-- The rule matches nowhere. -/
def Unmatched (rule : Rule α γ) : (previous : Option α) → List α → Prop
  | _, [] => True
  | previous, symbol :: rest =>
    rule previous (symbol :: rest) = none ∧ Unmatched rule (some symbol) rest

instance decidableUnmatched (rule : Rule α γ) : (previous : Option α) → (text : List α) →
    Decidable (Unmatched rule previous text)
  | _, [] => .isTrue trivial
  | previous, symbol :: rest =>
    have := decidableUnmatched rule (some symbol) rest
    inferInstanceAs (Decidable
      (rule previous (symbol :: rest) = none ∧ Unmatched rule (some symbol) rest))

/-- Neither of two texts contains the other one, and no end of one begins the other one. -/
structure Apart (pattern marker : List α) : Prop where
  notInside : ¬ pattern <:+: marker
  notAround : ¬ marker <:+: pattern
  endsOff : ∀ piece, piece <:+ pattern → piece ≠ [] → ¬ piece <+: marker
  startsOff : ∀ piece, piece <:+ marker → piece ≠ [] → ¬ piece <+: pattern

theorem scan_eq_nil_iff {rule : Rule α γ} {previous : Option α} {text : List α} :
    scan rule previous 0 text = [] ↔ Unmatched rule previous text := by
  induction text generalizing previous with
  | nil => simp [scan, Unmatched]
  | cons symbol rest ih =>
    rw [Unmatched, ← ih, scan]
    cases rule previous (symbol :: rest) with
    | none => simp
    | some found => simp

theorem of_mem_scan {rule : Rule α γ} {holds : γ → Prop}
    (finds : ∀ previous rest finding length, rule previous rest = some (finding, length) →
      holds finding) {previous : Option α} {skipped : Nat} {text : List α} {finding : γ}
    (member : finding ∈ scan rule previous skipped text) : holds finding := by
  induction text generalizing previous skipped with
  | nil => cases member
  | cons symbol rest ih =>
    cases skipped with
    | succ skipped => exact ih member
    | zero =>
      unfold scan at member
      split at member
      · next found =>
        rcases List.mem_cons.mp member with rfl | later
        · exact finds _ _ _ _ found
        · exact ih later
      · exact ih member

theorem unmatched_and_iff {γ₁ γ₂ γ₃ γ₄ : Type} {rule₁ : Rule α γ₁} {rule₂ : Rule α γ₂}
    {rule₃ : Rule α γ₃} {rule₄ : Rule α γ₄}
    (same : ∀ previous rest, rule₁ previous rest = none ∧ rule₂ previous rest = none ↔
      rule₃ previous rest = none ∧ rule₄ previous rest = none)
    {previous : Option α} {text : List α} :
    Unmatched rule₁ previous text ∧ Unmatched rule₂ previous text ↔
      Unmatched rule₃ previous text ∧ Unmatched rule₄ previous text := by
  induction text generalizing previous with
  | nil => simp [Unmatched]
  | cons symbol rest ih =>
    rw [Unmatched, Unmatched, Unmatched, Unmatched, and_and_and_comm, same, ih, and_and_and_comm]

theorem apart_iff {pattern marker : List α} : Apart pattern marker ↔
    ¬ pattern <:+: marker ∧ ¬ marker <:+: pattern ∧
      (∀ piece ∈ pattern.tails, piece ≠ [] → ¬ piece <+: marker) ∧
        ∀ piece ∈ marker.tails, piece ≠ [] → ¬ piece <+: pattern := by
  simp only [List.mem_tails]
  exact ⟨fun ⟨inside, around, ends, starts⟩ => ⟨inside, around, ends, starts⟩,
    fun ⟨inside, around, ends, starts⟩ => ⟨inside, around, ends, starts⟩⟩

instance [DecidableEq α] (pattern marker : List α) : Decidable (Apart pattern marker) :=
  decidable_of_iff' _ apart_iff

variable {rule : Rule α (List α)} {marker text : List α} {previous : Option α}

theorem rewrite_of_unmatched (unmatched : Unmatched rule previous text) :
    rewrite rule previous 0 text = text := by
  induction text generalizing previous with
  | nil => rfl
  | cons symbol rest ih => rw [rewrite, unmatched.1, ih unmatched.2]

theorem infix_rewrite_of_matched
    (marked : ∀ previous rest output length, rule previous rest = some (output, length) →
      marker <:+: output) (matched : ¬ Unmatched rule previous text) :
    marker <:+: rewrite rule previous 0 text := by
  induction text generalizing previous with
  | nil => exact absurd trivial matched
  | cons symbol rest ih =>
    unfold rewrite
    split
    · next output length found =>
      exact (marked _ _ _ _ found).trans (List.prefix_append _ _).isInfix
    · next passed =>
      refine List.infix_cons (ih fun unmatched => matched ⟨passed, unmatched⟩)

/-! ### Texts that are kept -/

variable {first : α} {others : List α}

theorem rewrite_append {piece : List α}
    (through : ∀ previous piece rest, piece ≠ [] → piece <:+ others →
      rule previous (piece ++ rest) = none) (ending : piece <:+ others) (previous : Option α)
    (rest : List α) : piece <+: rewrite rule previous 0 (piece ++ rest) := by
  induction piece generalizing previous with
  | nil => exact List.nil_prefix
  | cons symbol later ih =>
    have passed := through previous (symbol :: later) rest (List.cons_ne_nil _ _) ending
    rw [List.cons_append] at passed
    rw [List.cons_append, rewrite, passed, List.prefix_cons_inj]
    exact ih ((List.suffix_cons _ _).trans ending) _

theorem infix_drop {count : Nat} (occurs : first :: others <:+: text)
    (clear : first ∉ text.take count) : first :: others <:+: text.drop count := by
  induction count generalizing text with
  | zero => exact occurs
  | succ count ih =>
    cases text with
    | nil => exact occurs
    | cons symbol rest =>
      rw [List.take_succ_cons, List.mem_cons, not_or] at clear
      rcases List.infix_cons_iff.mp occurs with start | later
      · exact absurd (List.cons_prefix_cons.mp start).1 clear.1
      · exact ih later clear.2

/-- A text is kept if no match begins inside it and no match reaches its first symbol. -/
theorem infix_rewrite_of_infix
    (positive : ∀ previous rest output length, rule previous rest = some (output, length) →
      0 < length ∧ first ∉ rest.take length)
    (through : ∀ previous piece rest, piece ≠ [] → piece <:+ others →
      rule previous (piece ++ rest) = none) {skipped : Nat}
    (occurs : first :: others <:+: text.drop skipped) :
    first :: others <:+: rewrite rule previous skipped text := by
  induction text generalizing previous skipped with
  | nil => simp at occurs
  | cons symbol rest ih =>
    cases skipped with
    | succ skipped => exact ih occurs
    | zero =>
      unfold rewrite
      split
      · next output length found =>
        obtain ⟨lengthPos, clear⟩ := positive _ _ _ _ found
        obtain ⟨less, rfl⟩ := Nat.exists_eq_add_one.mpr lengthPos
        have behind := infix_drop occurs clear
        exact (ih behind).trans (List.suffix_append _ _).isInfix
      · rcases List.infix_cons_iff.mp occurs with start | later
        · obtain ⟨rfl, begins⟩ := List.cons_prefix_cons.mp start
          obtain ⟨behind, rfl⟩ := begins
          exact (List.prefix_cons_inj first |>.mpr
            (rewrite_append through (List.suffix_refl _) _ _)).isInfix
        · exact List.infix_cons (ih later)

/-! ### Patterns that are removed -/

variable {fold : α → β} {pattern : List β}

theorem infix_append_cases {front back : List β} (occurs : pattern <:+: front ++ back) :
    (∃ piece ≠ [], piece <:+ front ∧ pattern <+: piece ++ back) ∨ pattern <:+: back := by
  induction front with
  | nil => exact .inr occurs
  | cons symbol rest ih =>
    rcases List.infix_cons_iff.mp occurs with start | later
    · exact .inl ⟨symbol :: rest, List.cons_ne_nil _ _, List.suffix_refl _, start⟩
    · rcases ih later with ⟨piece, nonempty, ending, start⟩ | behind
      · exact .inl ⟨piece, nonempty, ending.trans (List.suffix_cons _ _), start⟩
      · exact .inr behind

/-- What begins the rewritten text and ends the pattern begins the text. -/
theorem prefix_of_rewrite (apart : Apart pattern (marker.map fold))
    (writes : ∀ previous rest output length, rule previous rest = some (output, length) →
      output = marker) {piece : List β} (ending : piece <:+ pattern)
    (start : piece <+: (rewrite rule previous 0 text).map fold) : piece <+: text.map fold := by
  induction text generalizing previous piece with
  | nil => exact start
  | cons symbol rest ih =>
    cases piece with
    | nil => exact List.nil_prefix
    | cons head tail =>
      unfold rewrite at start
      split at start
      · next output length found =>
        rw [writes _ _ _ _ found, List.map_append] at start
        rcases List.prefix_or_prefix_of_prefix start (List.prefix_append _ _) with
          inside | around
        · exact absurd inside (apart.endsOff _ ending (List.cons_ne_nil _ _))
        · exact absurd (around.isInfix.trans ending.isInfix) apart.notAround
      · obtain ⟨same, later⟩ := List.cons_prefix_cons.mp start
        exact List.cons_prefix_cons.mpr ⟨same, ih ((List.suffix_cons _ _).trans ending) later⟩

/-- A pattern apart from what is written is left only where the rule does not match. -/
theorem exists_unmatched_of_infix (apart : Apart pattern (marker.map fold))
    (writes : ∀ previous rest output length, rule previous rest = some (output, length) →
      output = marker) {skipped : Nat}
    (occurs : pattern <:+: (rewrite rule previous skipped text).map fold) :
    ∃ earlier rest, rest <:+ text ∧ pattern <+: rest.map fold ∧ rule earlier rest = none := by
  induction text generalizing previous skipped with
  | nil =>
    have empty := List.infix_nil.mp occurs
    exact absurd (empty ▸ List.nil_infix) apart.notInside
  | cons symbol rest ih =>
    have later {skipped : Nat}
        (behind : pattern <:+: (rewrite rule (some symbol) skipped rest).map fold) :
        ∃ earlier left, left <:+ symbol :: rest ∧ pattern <+: left.map fold ∧
          rule earlier left = none := by
      obtain ⟨earlier, left, ending, start, passed⟩ := ih behind
      exact ⟨earlier, left, ending.trans (List.suffix_cons _ _), start, passed⟩
    cases skipped with
    | succ skipped => exact later occurs
    | zero =>
      cases found : rule previous (symbol :: rest) with
      | none =>
        have whole : pattern <+: (rewrite rule previous 0 (symbol :: rest)).map fold →
            pattern <+: (symbol :: rest).map fold :=
          prefix_of_rewrite apart writes (List.suffix_refl _)
        rw [rewrite, found] at occurs whole
        rcases List.infix_cons_iff.mp occurs with start | behind
        · exact ⟨previous, _, List.suffix_refl _, whole start, found⟩
        · exact later behind
      | some write =>
        rw [rewrite, found] at occurs
        simp only [writes _ _ _ _ found, List.map_append] at occurs
        rcases infix_append_cases occurs with ⟨piece, nonempty, ending, start⟩ | behind
        · rcases List.prefix_or_prefix_of_prefix start (List.prefix_append _ _) with
            inside | around
          · exact absurd (inside.isInfix.trans ending.isInfix) apart.notInside
          · exact absurd around (apart.startsOff piece ending nonempty)
        · exact later behind

variable [BEq β]

theorem output_of_replacing (rest : List α) (output : List α) (length : Nat)
    (found : replacing fold pattern marker previous rest = some (output, length)) :
    output = marker := by
  unfold replacing at found
  split at found
  · simp only [Option.some.injEq, Prod.mk.injEq] at found
    exact found.1.symm
  · cases found

theorem not_infix_replacing [LawfulBEq β] (apart : Apart pattern (marker.map fold))
    (skipped : Nat) : ¬ pattern <:+:
      (rewrite (replacing fold pattern marker) previous skipped text).map fold := by
  intro occurs
  obtain ⟨earlier, rest, -, start, passed⟩ :=
    exists_unmatched_of_infix apart (fun _ => output_of_replacing) occurs
  simp [replacing, List.isPrefixOf_iff_prefix.mpr start] at passed

end TextRewriting
