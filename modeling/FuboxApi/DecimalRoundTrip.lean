import FuboxApi.PricingDocument

/-!
# Decimal texts and back

The parser accepts the plain texts with as many digits behind the point as the scale allows, whose
units fit into 128 bits. What an amount displays is such a text, unless it is the least integer.
-/

namespace FuboxApi

open CheckedFold DecimalText FixedDecimal RustText

/-- The text of an amount. -/
def FixedDecimal.display (amount : FixedDecimal) : String :=
  if amount.scale = 0 then String.ofList (wholeText amount.units.value)
  else String.ofList (text amount.scale amount.units.value)

/-! ## What the parser accepts -/

section

variable {field value : String} {scale : Nat} {money : FixedDecimal} {invalid : PricingError}
  {whole fraction : List Char}

theorem fractionUnits_eq_ok (isDigits : ∀ digit ∈ fraction, digit.isDigit = true) {units : Int}
    (parsed : fractionUnits invalid scale fraction = .ok units) :
    units = DecimalText.value (padded scale fraction) :=
  parseI128_or_zero_eq_ok (isDigit_padded isDigits) parsed

theorem decimalUnits_eq_ok_iff (nonempty : whole ≠ [])
    (wholeDigits : ∀ digit ∈ whole, digit.isDigit = true)
    (fractionDigits : ∀ digit ∈ fraction, digit.isDigit = true) {units : I128} :
    decimalUnits invalid scale whole fraction = .ok units ↔
      unitsAt scale whole fraction < 2 ^ 127 ∧ units.value = unitsAt scale whole fraction := by
  constructor
  · intro computed
    obtain ⟨wholeNumber, wholeParsed, computed⟩ := bind_eq_ok.mp computed
    obtain ⟨wholeUnits, wholeScaled, computed⟩ := bind_eq_ok.mp computed
    obtain ⟨fractionNumber, fractionParsed, added⟩ := bind_eq_ok.mp computed
    have wholeEq := parseI128_eq_some nonempty wholeDigits (okOr_eq_ok.mp wholeParsed)
    have fractionEq := fractionUnits_eq_ok fractionDigits fractionParsed
    have wholeUnitsEq := BoundedInt.checked_eq_some_iff.mp (okOr_eq_ok.mp wholeScaled)
    have unitsEq : units.value = unitsAt scale whole fraction := by
      rw [BoundedInt.checked_eq_some_iff.mp (okOr_eq_ok.mp added), wholeUnitsEq, wholeEq,
        fractionEq, unitsAt]
      rfl
    have bounded := units.le_highest
    exact ⟨by omega, unitsEq⟩
  · rintro ⟨small, unitsEq⟩
    obtain ⟨result, computed, resultEq⟩ :=
      decimalUnits_eq invalid nonempty wholeDigits fractionDigits small
    rw [computed, BoundedInt.ext (resultEq.trans unitsEq.symm)]

variable {negative : Bool} {unsigned : List Char}

theorem signedUnits_eq_ok_iff {magnitude signed : I128} (nonneg : 0 ≤ magnitude.value) :
    signedUnits negative magnitude = .ok signed ↔
      signed.value = if negative then -magnitude.value else magnitude.value := by
  obtain ⟨result, computed, resultEq⟩ := signedUnits_eq nonneg negative
  rw [computed, ← resultEq]
  constructor
  · intro same
    rw [Except.ok.inj same]
  · intro same
    rw [BoundedInt.ext same]

theorem parseDecimalString_eq_ok_iff
    (reading : stripSign (trim value.toList) = (negative, unsigned)) :
    parseDecimalString field value scale = .ok money ↔
      scale ≤ maxMoneyScale ∧ IsPlain unsigned ∧ (fractionPart unsigned).length ≤ scale ∧
        unitsAt scale (wholePart unsigned) (fractionPart unsigned) < 2 ^ 127 ∧ money.scale = scale ∧
        money.units.value =
          if negative then -(unitsAt scale (wholePart unsigned) (fractionPart unsigned) : Int)
          else unitsAt scale (wholePart unsigned) (fractionPart unsigned) := by
  unfold parseDecimalString
  simp only [reading]
  constructor
  · intro parsed
    obtain ⟨_, validScale, parsed⟩ := bind_eq_ok.mp parsed
    obtain ⟨_, _, parsed⟩ := bind_eq_ok.mp parsed
    obtain ⟨_, _, parsed⟩ := bind_eq_ok.mp parsed
    obtain ⟨_, plain, parsed⟩ := bind_eq_ok.mp parsed
    obtain ⟨_, fits, parsed⟩ := bind_eq_ok.mp parsed
    obtain ⟨magnitude, computed, parsed⟩ := bind_eq_ok.mp parsed
    obtain ⟨signed, signedEq, built⟩ := bind_eq_ok.mp parsed
    have plain := isPlain_iff_splitOn.mp (ensure_eq_ok.mp plain)
    rw [plain.splitOn.1, plain.splitOn.2] at computed
    rw [plain.splitOn.2] at fits
    obtain ⟨small, magnitudeEq⟩ := (decimalUnits_eq_ok_iff plain.nonempty plain.wholeDigits
      plain.fractionDigits).mp computed
    have signedValue := (signedUnits_eq_ok_iff (by omega)).mp signedEq
    obtain ⟨unitsEq, scaleEq⟩ := fromUnits_eq_ok.mp (mapError_eq_ok.mp built)
    refine ⟨ensure_eq_ok.mp validScale, plain, ensure_eq_ok.mp fits, small, scaleEq, ?_⟩
    rw [unitsEq, signedValue, magnitudeEq]
  · rintro ⟨scaleLe, plain, fits, small, scaleEq, unitsEq⟩
    obtain ⟨digit, rest, unsignedEq, _⟩ := plain.exists_digit
    have unsignedNonempty : unsigned ≠ [] := by simp [unsignedEq]
    have valueNonempty : trim value.toList ≠ [] := by
      intro empty
      rw [empty] at reading
      exact unsignedNonempty (Prod.mk.inj reading).2.symm
    obtain ⟨magnitude, computed, magnitudeEq⟩ :=
      decimalUnits_eq (.invalidDecimal field (String.ofList (trim value.toList)))
        plain.nonempty plain.wholeDigits plain.fractionDigits small
    have signedEq : signedUnits negative magnitude = .ok money.units := by
      rw [signedUnits_eq_ok_iff (by omega), unitsEq, magnitudeEq]
    rw [← plain.splitOn.1, ← plain.splitOn.2] at computed
    rw [← plain.splitOn.2] at fits
    refine bind_eq_ok.mpr ⟨(), ensure_eq_ok.mpr scaleLe, ?_⟩
    refine bind_eq_ok.mpr ⟨(), ensure_eq_ok.mpr valueNonempty, ?_⟩
    refine bind_eq_ok.mpr ⟨(), ensure_eq_ok.mpr unsignedNonempty, ?_⟩
    refine bind_eq_ok.mpr ⟨(), ensure_eq_ok.mpr (isPlain_iff_splitOn.mpr plain), ?_⟩
    refine bind_eq_ok.mpr ⟨(), ensure_eq_ok.mpr fits, ?_⟩
    refine bind_eq_ok.mpr ⟨magnitude, computed, ?_⟩
    refine bind_eq_ok.mpr ⟨money.units, signedEq, ?_⟩
    exact mapError_eq_ok.mpr (fromUnits_eq_ok.mpr ⟨rfl, scaleEq⟩)

theorem signedNumber_of_reading {text : List Char} (reading : stripSign text = (negative, unsigned))
    (plain : IsPlain unsigned) (fits : (fractionPart unsigned).length ≤ scale) :
    signedNumber text = some
      ((if negative then -(unitsAt scale (wholePart unsigned) (fractionPart unsigned) : ℚ)
        else unitsAt scale (wholePart unsigned) (fractionPart unsigned)) / 10 ^ scale) := by
  obtain ⟨unsignedEq, noMinus⟩ := plain.unsigned_eq
  unfold stripSign at reading
  split at reading
  · next behind =>
    obtain ⟨rfl, rfl⟩ := Prod.mk.inj reading
    exact plain.number_eq rfl fits
  · next behind =>
    obtain ⟨rfl, rfl⟩ := Prod.mk.inj reading
    rw [signedNumber, if_neg noMinus, plain.number_eq unsignedEq fits, if_neg noMinus]
    rfl
  · next notMinus notPlus =>
    obtain ⟨rfl, rfl⟩ := Prod.mk.inj reading
    have plainNumber : signedNumber text = number text := by
      unfold signedNumber
      split
      · next behind => exact absurd rfl (notPlus behind)
      · rfl
    rw [plainNumber, plain.number_eq unsignedEq fits, if_neg noMinus]
    rfl

end

/-! ## What is printed -/

section

variable {places scale : Nat} {units : Int} {money : FixedDecimal}

theorem reading_text (places : Nat) (units : Int) : ∃ unsigned,
      stripSign (trim (text places units)) = (decide (units < 0), unsigned) ∧
        IsPlain unsigned ∧ (fractionPart unsigned).length = places ∧
        ∀ wider, places ≤ wider → unitsAt wider (wholePart unsigned) (fractionPart unsigned) =
          units.natAbs * 10 ^ (wider - places) := by
  have digits := isDigit_wholeDigits
  obtain ⟨wholeEq, fractionEq⟩ := wholePart_digits (digits (units.natAbs / 10 ^ places))
    (.inr (List.head?_cons (l := fixedDigits places (units.natAbs % 10 ^ places))))
  rw [List.drop_one, List.tail_cons] at fractionEq
  rw [trim_text, stripSign_text]
  refine ⟨_, rfl, ?_, ?_, fun wider fits => ?_⟩
  · exact ⟨by rw [wholeEq]; exact wholeDigits_ne_nil _, by rw [wholeEq]; exact digits _,
      by rw [fractionEq]; exact isDigit_fixedDigits _ _⟩
  · rw [fractionEq, length_fixedDigits]
  · rw [wholeEq, fractionEq, unitsAt_text fits]

/-- An amount that is printed with some places is read in every scale that has as many. -/
theorem parse_text_eq_ok_iff : parse (String.ofList (text places units)) scale = .ok money ↔
      places ≤ scale ∧ scale ≤ maxMoneyScale ∧ units.natAbs * 10 ^ (scale - places) < 2 ^ 127 ∧
        money.scale = scale ∧ money.units.value = units * 10 ^ (scale - places) := by
  obtain ⟨unsigned, reading, plain, length, unitsEq⟩ := reading_text places units
  have signed (places : Nat) : (if decide (units < 0) = true then
      -((units.natAbs * 10 ^ places : Nat) : Int) else (units.natAbs * 10 ^ places : Nat)) =
        units * 10 ^ places := by
    by_cases negative : units < 0
    · simp [negative, abs_of_neg]
    · simp [negative, abs_of_nonneg (not_lt.mp negative)]
  rw [← String.toList_ofList (l := text places units)] at reading
  rw [parse, parseDecimalString_eq_ok_iff reading, length]
  constructor
  · rintro ⟨scaleLe, -, fits, small, scaleEq, valueEq⟩
    rw [unitsEq scale fits] at small valueEq
    exact ⟨fits, scaleLe, small, scaleEq, valueEq.trans (signed _)⟩
  · rintro ⟨fits, scaleLe, small, scaleEq, valueEq⟩
    rw [unitsEq scale fits]
    exact ⟨scaleLe, plain, fits, small, scaleEq, valueEq.trans (signed _).symm⟩

end

theorem trim_wholeText (units : Int) : trim (wholeText units) = wholeText units := by
  apply trim_eq_self
  intro char member
  rcases mem_wholeText member with rfl | digit
  · decide
  · exact isWhitespace_of_isDigit digit

theorem stripSign_wholeText (units : Int) :
    stripSign (wholeText units) = (decide (units < 0), wholeDigits units.natAbs) := by
  unfold wholeText
  by_cases negative : units < 0
  · simp [negative, stripSign]
  · have noSign : stripSign (wholeDigits units.natAbs ++ []) = _ :=
      stripSign_digits (wholeDigits_ne_nil units.natAbs) (isDigit_wholeDigits units.natAbs)
    simpa [negative] using noSign

theorem reading_display (amount : FixedDecimal) : ∃ unsigned,
      stripSign (trim amount.display.toList) = (decide (amount.units.value < 0), unsigned) ∧
        IsPlain unsigned ∧ (fractionPart unsigned).length ≤ amount.scale ∧
        unitsAt amount.scale (wholePart unsigned) (fractionPart unsigned) =
          amount.units.value.natAbs := by
  unfold display
  split
  · next scaleZero =>
    have digits := isDigit_wholeDigits
    obtain ⟨wholeEq, fractionEq⟩ := wholePart_digits (digits amount.units.value.natAbs) (.inl rfl)
    rw [List.append_nil] at wholeEq fractionEq
    rw [String.toList_ofList, trim_wholeText, stripSign_wholeText]
    refine ⟨_, rfl, ?_, ?_, ?_⟩
    · exact ⟨by rw [wholeEq]; exact wholeDigits_ne_nil _, by rw [wholeEq]; exact digits _,
        by rw [fractionEq]; simp⟩
    · rw [fractionEq]
      exact Nat.zero_le _
    · rw [wholeEq, fractionEq, scaleZero, unitsAt, value_wholeDigits]
      simp [padded, DecimalText.value]
  · obtain ⟨unsigned, reading, plain, length, unitsEq⟩ :=
      reading_text amount.scale amount.units.value
    exact ⟨unsigned, by rwa [String.toList_ofList], plain, length.le,
      by simpa using unitsEq amount.scale le_rfl⟩

theorem parse_display {amount : FixedDecimal} (notLeast : -2 ^ 127 < amount.units.value) :
    parse amount.display amount.scale = .ok amount := by
  obtain ⟨unsigned, reading, plain, fits, unitsEq⟩ := reading_display amount
  have bounded := amount.units.le_highest
  refine (parseDecimalString_eq_ok_iff reading).mpr ⟨amount.scale_le, plain, fits, ?_, rfl, ?_⟩
  · omega
  · rw [unitsEq]
    by_cases negative : amount.units.value < 0
    · rw [if_pos (decide_eq_true negative)]
      omega
    · rw [if_neg (by simpa using negative)]
      omega

/-- Every amount but those of the least integer is read back from its display; what
the parser accepts is stable under display, and is the number that the text stands
for. -/
theorem decimal_text_round_trip : (∀ amount : FixedDecimal, -2 ^ 127 < amount.units.value →
        parse amount.display amount.scale = .ok amount) ∧
      ∀ (value : String) (scale : Nat) (amount : FixedDecimal), parse value scale = .ok amount →
          amount.scale = scale ∧ parse amount.display scale = .ok amount ∧
            signedNumber (trim value.toList) = some ((amount.units.value : ℚ) / 10 ^ scale) := by
  refine ⟨fun amount => parse_display, fun value scale amount parsed => ?_⟩
  rcases reading : stripSign (trim value.toList) with ⟨negative, unsigned⟩
  obtain ⟨_, plain, fits, small, scaleEq, unitsEq⟩ :=
    (parseDecimalString_eq_ok_iff reading).mp parsed
  refine ⟨scaleEq, ?_, ?_⟩
  · rw [← scaleEq]
    refine parse_display ?_
    rw [unitsEq]
    split <;> omega
  · rw [signedNumber_of_reading reading plain fits, unitsEq]
    split <;> push_cast <;> rfl

/-- An amount between minus one and zero, and the text that it is read from. -/
def fiveHundredths : FixedDecimal :=
  ⟨⟨-500, by decide, by decide⟩, 4, by decide⟩

theorem decimal_text_round_trip_fiveHundredths : fiveHundredths.display = "-0.0500" ∧
      parse fiveHundredths.display 4 = .ok fiveHundredths ∧
      signedNumber (trim " -00.05".toList) = some (((-500 : ℤ) : ℚ) / 10 ^ 4) :=
  ⟨by decide +kernel, decimal_text_round_trip.1 fiveHundredths (by decide),
    (decimal_text_round_trip.2 " -00.05" 4 fiveHundredths (by decide +kernel)).2.2⟩

end FuboxApi
