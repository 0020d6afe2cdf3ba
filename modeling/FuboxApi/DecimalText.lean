import Mathlib

/-!
# Decimal text

Digits, the number they stand for, and the text of a fixed-point number with its point, which a
reader with more places gets back.
-/

namespace DecimalText

def digitValue (digit : Char) : Nat :=
  digit.toNat - '0'.toNat

/-- The number that a list of digits stands for. -/
def value (digits : List Char) : Nat :=
  digits.foldl (fun number digit => 10 * number + digitValue digit) 0

def wholeDigits (number : Nat) : List Char :=
  if number = 0 then ['0'] else ((Nat.digits 10 number).map Nat.digitChar).reverse

/-- The last digits of a number, as many as the width says. -/
def fixedDigits : (width number : Nat) → List Char
  | 0, _ => []
  | width + 1, number => fixedDigits width (number / 10) ++ [Nat.digitChar (number % 10)]

/-- Zeros behind the digits up to a width. -/
def padded (width : Nat) (digits : List Char) : List Char :=
  digits ++ List.replicate (width - digits.length) '0'

/-- The units of a text with a point, at a number of places. -/
def unitsAt (places : Nat) (whole fraction : List Char) : Nat :=
  value whole * 10 ^ places + value (padded places fraction)

/-- The text of a number of units with the given number of places behind the
point. -/
def text (places : Nat) (units : Int) : List Char :=
  (if units < 0 then ['-'] else []) ++ wholeDigits (units.natAbs / 10 ^ places) ++
    '.' :: fixedDigits places (units.natAbs % 10 ^ places)

/-- A text without its minus sign. -/
def unsigned : List Char → List Char
  | '-' :: rest => rest
  | text => text

/-- The text before the first point. -/
def wholePart (unsigned : List Char) : List Char :=
  unsigned.takeWhile (· ≠ '.')

/-- The text behind the first point. -/
def fractionPart (unsigned : List Char) : List Char :=
  (unsigned.dropWhile (· ≠ '.')).drop 1

/-- The number that a plain decimal text stands for. -/
def number (text : List Char) : Option ℚ :=
  let whole := wholePart (unsigned text)
  let fraction := fractionPart (unsigned text)
  if whole ≠ [] ∧ whole.all Char.isDigit = true ∧ fraction.all Char.isDigit = true then
    let magnitude : ℚ := value whole + value fraction / 10 ^ fraction.length
    some (if text.head? = some '-' then -magnitude else magnitude)
  else none

/-! ## Digits -/

theorem toNat_of_isDigit {char : Char} (isDigit : char.isDigit = true) :
    48 ≤ char.toNat ∧ char.toNat ≤ 57 := by
  simpa [Char.isDigit, UInt32.le_iff_toNat_le] using isDigit

theorem digit_of_digitChar : ∀ digit < 10, (Nat.digitChar digit).isDigit = true ∧
    digitValue (Nat.digitChar digit) = digit := by
  decide

theorem value_append (first second : List Char) :
    value (first ++ second) = value first * 10 ^ second.length + value second := by
  induction second using List.reverseRecOn with
  | nil => simp [value]
  | append_singleton rest digit ih =>
    have step : ∀ digits : List Char,
        value (digits ++ [digit]) = 10 * value digits + digitValue digit := by
      simp [value]
    rw [← List.append_assoc, step, ih, step, List.length_append, List.length_singleton, pow_succ]
    ring

theorem value_replicate_zero (count : Nat) : value (List.replicate count '0') = 0 := by
  induction count with
  | zero => rfl
  | succ count ih =>
    rw [List.replicate_succ', value_append, ih]
    rfl

theorem value_padded (width : Nat) (digits : List Char) :
    value (padded width digits) = value digits * 10 ^ (width - digits.length) := by
  rw [padded, value_append, value_replicate_zero, List.length_replicate, add_zero]

theorem isDigit_padded {width : Nat} {digits : List Char}
    (isDigits : ∀ digit ∈ digits, digit.isDigit = true) :
    ∀ digit ∈ padded width digits, digit.isDigit = true := by
  intro digit member
  rcases List.mem_append.mp member with own | zero
  · exact isDigits digit own
  · rw [List.eq_of_mem_replicate zero]
    decide

theorem value_singleton (digit : Char) : value [digit] = digitValue digit := by
  simp [value]

theorem value_digits {digits : List Nat} (small : ∀ digit ∈ digits, digit < 10) :
    value (digits.map Nat.digitChar).reverse = Nat.ofDigits 10 digits := by
  induction digits with
  | nil => rfl
  | cons digit rest ih =>
    obtain ⟨digitSmall, restSmall⟩ := List.forall_mem_cons.mp small
    rw [List.map_cons, List.reverse_cons, value_append, ih restSmall, value_singleton,
      (digit_of_digitChar digit digitSmall).2, Nat.ofDigits_cons, List.length_singleton]
    ring

theorem value_wholeDigits (number : Nat) : value (wholeDigits number) = number := by
  unfold wholeDigits
  split
  · next zero =>
    rw [zero]
    decide
  · rw [value_digits fun digit member => Nat.digits_lt_base (by decide) member, Nat.ofDigits_digits]

theorem wholeDigits_ne_nil (number : Nat) : wholeDigits number ≠ [] := by
  unfold wholeDigits
  split
  · simp
  · next nonzero => simpa [Nat.digits_ne_nil_iff_ne_zero] using nonzero

theorem isDigit_wholeDigits (number : Nat) :
    ∀ digit ∈ wholeDigits number, digit.isDigit = true := by
  unfold wholeDigits
  split
  · simp
  · intro digit member
    obtain ⟨numeral, numeralMem, rfl⟩ := List.mem_map.mp (List.mem_reverse.mp member)
    exact (digit_of_digitChar numeral (Nat.digits_lt_base (by decide) numeralMem)).1

theorem length_fixedDigits (width number : Nat) : (fixedDigits width number).length = width := by
  induction width generalizing number with
  | zero => rfl
  | succ width ih => rw [fixedDigits, List.length_append, ih, List.length_singleton]

theorem value_fixedDigits (width number : Nat) :
    value (fixedDigits width number) = number % 10 ^ width := by
  induction width generalizing number with
  | zero => simp [fixedDigits, value, Nat.mod_one]
  | succ width ih =>
    rw [fixedDigits, value_append, ih, value_singleton,
      (digit_of_digitChar _ (Nat.mod_lt _ (by decide))).2, List.length_singleton, pow_one,
      pow_succ' 10 width, Nat.mod_mul]
    ring

theorem isDigit_fixedDigits (width number : Nat) :
    ∀ digit ∈ fixedDigits width number, digit.isDigit = true := by
  induction width generalizing number with
  | zero => simp [fixedDigits]
  | succ width ih =>
    intro digit member
    rcases List.mem_append.mp member with before | last
    · exact ih _ digit before
    · rw [List.mem_singleton.mp last]
      exact (digit_of_digitChar _ (Nat.mod_lt _ (by decide))).1

/-! ## Reading the text again -/

theorem unitsAt_text {places wider : Nat} (fits : places ≤ wider) (units : Nat) :
    unitsAt wider (wholeDigits (units / 10 ^ places)) (fixedDigits places (units % 10 ^ places)) =
      units * 10 ^ (wider - places) := by
  have split : 10 ^ wider = 10 ^ places * 10 ^ (wider - places) := by
    rw [← pow_add, Nat.add_sub_cancel' fits]
  rw [unitsAt, value_wholeDigits, value_padded, value_fixedDigits, length_fixedDigits,
    Nat.mod_mod, split, ← mul_assoc, ← add_mul, Nat.div_add_mod']

theorem ne_of_isDigit {char other : Char} (isDigit : char.isDigit = true)
    (otherNot : other.isDigit = false) : char ≠ other := by
  rintro rfl
  exact absurd isDigit (by simp [otherNot])

section

variable {whole fraction : List Char}

theorem parts_append (noPoint : '.' ∉ whole) {rest : List Char}
    (ends : rest = [] ∨ rest.head? = some '.') :
    wholePart (whole ++ rest) = whole ∧ fractionPart (whole ++ rest) = rest.drop 1 := by
  have others : ∀ char ∈ whole, decide (char ≠ '.') = true := by
    intro char member
    refine decide_eq_true ?_
    rintro rfl
    exact noPoint member
  have stops : rest.takeWhile (· ≠ '.') = [] ∧ rest.dropWhile (· ≠ '.') = rest := by
    rcases ends with rfl | point
    · exact ⟨rfl, rfl⟩
    · obtain ⟨tail, rfl⟩ := List.head?_eq_some_iff.mp point
      simp
  constructor
  · rw [wholePart, List.takeWhile_append_of_pos others, stops.1, List.append_nil]
  · rw [fractionPart, List.dropWhile_append_of_pos others, stops.2]

theorem point_notMem_digits {digits : List Char}
    (isDigits : ∀ digit ∈ digits, digit.isDigit = true) : '.' ∉ digits := by
  intro member
  exact ne_of_isDigit (isDigits '.' member) (by decide) rfl

theorem wholePart_digits (wholeDigits : ∀ digit ∈ whole, digit.isDigit = true) {rest : List Char}
    (ends : rest = [] ∨ rest.head? = some '.') :
    wholePart (whole ++ rest) = whole ∧ fractionPart (whole ++ rest) = rest.drop 1 :=
  parts_append (point_notMem_digits wholeDigits) ends

theorem splitOn_eq_singleton {separator : Char} {text : List Char} (absent : separator ∉ text) :
    text.splitOn separator = [text] := by
  refine List.splitOnP_eq_singleton fun char member => ?_
  rw [beq_eq_false_iff_ne]
  rintro rfl
  exact absent member

theorem splitOn_cases (text : List Char) :
    (text.splitOn '.' = [wholePart text] ∧ fractionPart text = []) ∨
      text.splitOn '.' = wholePart text :: (fractionPart text).splitOn '.' := by
  by_cases point : '.' ∈ text
  · obtain ⟨whole, rest, rfl, noPoint⟩ := List.eq_append_cons_of_mem point
    obtain ⟨wholeEq, fractionEq⟩ := parts_append noPoint (.inr (List.head?_cons (l := rest)))
    have notPoint : ∀ char ∈ whole, (char == '.') = false := by
      intro char member
      rw [beq_eq_false_iff_ne]
      rintro rfl
      exact noPoint member
    right
    rw [wholeEq, fractionEq, List.splitOn, List.splitOn,
      List.splitOnP_append_cons_of_forall_mem notPoint '.' (by simp)]
    rfl
  · obtain ⟨wholeEq, fractionEq⟩ := parts_append point (.inl rfl)
    rw [List.append_nil] at wholeEq fractionEq
    exact .inl ⟨by rw [wholeEq, splitOn_eq_singleton point], fractionEq⟩

/-- Digits, and at most one point with digits behind it. -/
structure IsPlain (unsigned : List Char) : Prop where
  nonempty : wholePart unsigned ≠ []
  wholeDigits : ∀ digit ∈ wholePart unsigned, digit.isDigit = true
  fractionDigits : ∀ digit ∈ fractionPart unsigned, digit.isDigit = true

theorem isPlain_iff_splitOn {text : List Char} :
    ((text.splitOn '.').length ≤ 2 ∧ (text.splitOn '.').headD [] ≠ [] ∧
        ((text.splitOn '.').headD []).all Char.isDigit = true ∧
        ((text.splitOn '.').getD 1 []).all Char.isDigit = true) ↔ IsPlain text := by
  rcases splitOn_cases text with ⟨splitEq, fractionEq⟩ | splitEq
  · rw [splitEq]
    constructor
    · rintro ⟨_, nonempty, wholeDigits, _⟩
      exact ⟨nonempty, List.all_eq_true.mp wholeDigits, by simp [fractionEq]⟩
    · intro plain
      exact ⟨by simp, plain.nonempty, List.all_eq_true.mpr plain.wholeDigits, rfl⟩
  · have single : (fractionPart text).splitOn '.' = [fractionPart text] →
        (text.splitOn '.').getD 1 [] = fractionPart text := by
      intro singleEq
      rw [splitEq, singleEq]
      rfl
    constructor
    · rintro ⟨count, nonempty, wholeDigits, fractionDigits⟩
      -- one part is left for what stands behind the first point
      have joined : ['.'].intercalate ((fractionPart text).splitOn '.') = fractionPart text :=
        List.intercalate_splitOn '.'
      have one : ((fractionPart text).splitOn '.').length = 1 := by
        have parts := List.length_pos_iff.mpr (List.splitOn_ne_nil '.' (fractionPart text))
        rw [splitEq, List.length_cons] at count
        omega
      obtain ⟨fraction, fractionEq⟩ := List.length_eq_one_iff.mp one
      rw [fractionEq, List.intercalate_singleton] at joined
      rw [joined] at fractionEq
      rw [single fractionEq] at fractionDigits
      rw [splitEq] at nonempty wholeDigits
      exact ⟨nonempty, List.all_eq_true.mp wholeDigits, List.all_eq_true.mp fractionDigits⟩
    · intro plain
      have fractionEq := splitOn_eq_singleton (point_notMem_digits plain.fractionDigits)
      rw [single fractionEq, splitEq, fractionEq]
      exact ⟨by simp, plain.nonempty, List.all_eq_true.mpr plain.wholeDigits,
        List.all_eq_true.mpr plain.fractionDigits⟩

theorem IsPlain.splitOn {text : List Char} (plain : IsPlain text) :
    (text.splitOn '.').headD [] = wholePart text ∧
      (text.splitOn '.').getD 1 [] = fractionPart text := by
  rcases splitOn_cases text with ⟨splitEq, fractionEq⟩ | splitEq
  · rw [splitEq, fractionEq]
    exact ⟨rfl, rfl⟩
  · rw [splitEq, splitOn_eq_singleton (point_notMem_digits plain.fractionDigits)]
    exact ⟨rfl, rfl⟩

theorem number_eq {text : List Char} {places : Nat} (wholeEq : wholePart (unsigned text) = whole)
    (fractionEq : fractionPart (unsigned text) = fraction) (nonempty : whole ≠ [])
    (wholeDigits : ∀ digit ∈ whole, digit.isDigit = true)
    (fractionDigits : ∀ digit ∈ fraction, digit.isDigit = true) (fits : fraction.length ≤ places) :
    number text = some ((if text.head? = some '-' then -(unitsAt places whole fraction : ℚ)
      else unitsAt places whole fraction) / 10 ^ places) := by
  have split : (10 : ℚ) ^ places = 10 ^ fraction.length * 10 ^ (places - fraction.length) := by
    rw [← pow_add, Nat.add_sub_cancel' fits]
  have magnitude : (value whole : ℚ) + value fraction / 10 ^ fraction.length =
      unitsAt places whole fraction / 10 ^ places := by
    rw [unitsAt, value_padded]
    push_cast
    rw [split]
    field_simp
  have digits : whole ≠ [] ∧ whole.all Char.isDigit = true ∧ fraction.all Char.isDigit = true :=
    ⟨nonempty, List.all_eq_true.mpr wholeDigits, List.all_eq_true.mpr fractionDigits⟩
  simp only [number, wholeEq, fractionEq, if_pos digits, magnitude]
  split
  · rw [neg_div]
  · rfl

end

theorem unsigned_text (places : Nat) (units : Int) :
    unsigned (text places units) = wholeDigits (units.natAbs / 10 ^ places) ++
      '.' :: fixedDigits places (units.natAbs % 10 ^ places) ∧
    ((text places units).head? = some '-' ↔ units < 0) := by
  unfold text
  split
  · next negative => simp [unsigned, negative]
  · next nonneg =>
    obtain ⟨first, rest, wholeEq⟩ :=
      List.exists_cons_of_ne_nil (wholeDigits_ne_nil (units.natAbs / 10 ^ places))
    have firstDigit : first.isDigit = true :=
      isDigit_wholeDigits (units.natAbs / 10 ^ places) first (by simp [wholeEq])
    have noSign : first ≠ '-' := ne_of_isDigit firstDigit (by decide)
    rw [wholeEq]
    constructor
    · unfold unsigned
      split
      · next heq => exact absurd (List.cons.inj heq).1 noSign
      · rfl
    · simp [noSign, nonneg]

theorem number_text (places : Nat) (units : Int) :
    number (text places units) = some ((units : ℚ) / 10 ^ places) := by
  obtain ⟨unsignedEq, signEq⟩ := unsigned_text places units
  have parts := wholePart_digits (isDigit_wholeDigits (units.natAbs / 10 ^ places))
    (.inr (List.head?_cons (l := fixedDigits places (units.natAbs % 10 ^ places))))
  rw [← unsignedEq, List.drop_one, List.tail_cons] at parts
  have magnitude : (if units < 0 then -(units.natAbs : ℚ) else units.natAbs) = units := by
    rw [← Int.cast_natCast, Int.natCast_natAbs]
    split
    · next negative =>
      rw [abs_of_neg negative]
      push_cast
      ring
    · next nonneg => rw [abs_of_nonneg (not_lt.mp nonneg)]
  rw [number_eq parts.1 parts.2 (wholeDigits_ne_nil _) (isDigit_wholeDigits _)
    (isDigit_fixedDigits _ _) (length_fixedDigits _ _).le, unitsAt_text le_rfl]
  simp only [signEq, Nat.sub_self, pow_zero, mul_one, magnitude]

/-- The number of a text that may also begin with a plus sign. -/
def signedNumber : List Char → Option ℚ
  | '+' :: text => if text.head? = some '-' then none else number text
  | text => number text

def wholeText (units : Int) : List Char :=
  (if units < 0 then ['-'] else []) ++ wholeDigits units.natAbs

theorem mem_wholeText {units : Int} {char : Char} (member : char ∈ wholeText units) :
    char = '-' ∨ char.isDigit = true := by
  rcases List.mem_append.mp member with sign | digit
  · split at sign
    · exact .inl (List.mem_singleton.mp sign)
    · cases sign
  · exact .inr (isDigit_wholeDigits _ char digit)

theorem IsPlain.exists_digit {text : List Char} (plain : IsPlain text) :
    ∃ digit rest, text = digit :: rest ∧ digit.isDigit = true := by
  obtain ⟨digit, others, wholeEq⟩ := List.exists_cons_of_ne_nil plain.nonempty
  obtain ⟨behind, textEq⟩ := List.takeWhile_prefix (fun char => decide (char ≠ '.')) (l := text)
  have isDigit := plain.wholeDigits digit (by rw [wholeEq]; exact List.mem_cons_self)
  change wholePart text ++ behind = text at textEq
  rw [wholeEq] at textEq
  exact ⟨digit, others ++ behind, textEq.symm, isDigit⟩

theorem IsPlain.unsigned_eq {text : List Char} (plain : IsPlain text) :
    unsigned text = text ∧ text.head? ≠ some '-' := by
  obtain ⟨digit, rest, rfl, isDigit⟩ := plain.exists_digit
  have noSign : digit ≠ '-' := ne_of_isDigit isDigit (by decide)
  refine ⟨?_, by simpa using noSign⟩
  unfold unsigned
  split
  · next heq => exact absurd (List.cons.inj heq).1 noSign
  · rfl

theorem IsPlain.number_eq {text behind : List Char} {places : Nat} (plain : IsPlain behind)
    (unsignedEq : unsigned text = behind) (fits : (fractionPart behind).length ≤ places) :
    number text = some ((if text.head? = some '-' then
        -(unitsAt places (wholePart behind) (fractionPart behind) : ℚ)
      else unitsAt places (wholePart behind) (fractionPart behind)) / 10 ^ places) :=
  DecimalText.number_eq (by rw [unsignedEq]) (by rw [unsignedEq]) plain.nonempty
    plain.wholeDigits plain.fractionDigits fits

end DecimalText
