import FuboxApi.ControlPlaneTables
import FuboxApi.PrintedAmounts
import FuboxApi.RustText

/-!
# Decimal amounts of the admin interface

Amounts are texts until they reach the database. The checks read their digits as units of eight
places.
-/

namespace FuboxApi

open CheckedFold DecimalText

def ledgerAmountScale : Nat := 8

def priceVersionDefaultMoneyScale : Nat := 8

/-- The checks on the digits behind the point, if there is one. -/
def validateDecimalFraction (field : String) (scale : Nat) : Option (List Char) → AdminResult Unit
  | none => .ok ()
  | some fraction => do
      ensure (fraction ≠ [] ∧ fraction.all Char.isDigit = true)
        (.badRequest (field ++ " must be a decimal string"))
      ensure (fraction.length ≤ scale)
        (.badRequest (field ++ " has more than " ++ toString scale ++ " fractional digits"))

def validateDecimalAmountString (field : String) (value : List Char) (scale : Nat) :
    AdminResult Unit := do
  let notDecimal := AdminError.badRequest (field ++ " must be a decimal string")
  ensure (value.head? ≠ some '+') notDecimal
  let unsigned := unsigned value
  ensure (unsigned ≠ [] ∧ unsigned ≠ ['.']) notDecimal
  let parts := unsigned.splitOn '.'
  let whole := parts.headD []
  ensure (parts.length ≤ 2 ∧ whole ≠ [] ∧ whole.all Char.isDigit = true) notDecimal
  validateDecimalFraction field scale parts[1]?
  ensure (whole.length ≤ 18) (.badRequest (field ++ " has too many whole-number digits"))

def decimalAmountIsZero (value : List Char) : Bool :=
  ((value.dropWhile (· = '-')).filter (· ≠ '.')).all (· = '0')

/-- The number of the digits behind the point, filled up to the scale. -/
def decimalFractionUnits (scale : Nat) (fraction : List Char) : AdminResult Int :=
  let fractionString := padded scale fraction
  if fractionString.isEmpty then .ok 0
  else okOr (.badRequest "amount must be a decimal string") (RustText.parseI128 fractionString)

def decimalAmountUnits (value : List Char) (scale : Nat) : AdminResult Int := do
  validateDecimalAmountString "amount" value scale
  -- `split_once`, which leaves nothing behind a point that is not there
  let whole := DecimalText.wholePart (DecimalText.unsigned value)
  let fraction := DecimalText.fractionPart (DecimalText.unsigned value)
  let wholeNumber ← okOr (.badRequest "amount must be a decimal string") (RustText.parseI128 whole)
  let wholeUnits : I128 ← okOr (.badRequest "amount is too large")
    (BoundedInt.checked (wholeNumber * 10 ^ scale))
  let fractionUnits ← decimalFractionUnits scale fraction
  let units : I128 ← okOr (.badRequest "amount is too large")
    (BoundedInt.checked (wholeUnits.value + fractionUnits))
  return if value.head? = some '-' then -units.value else units.value

def formatDecimalUnits (units : Int) (scale : Nat) : String :=
  String.ofList (DecimalText.text scale units)

structure RefundRemainingSummary where
  sourceDebitAmount : String
  confirmedCreditAmount : String
  requestedRefundAmount : String
  remainingRefundableAmount : String
  currency : String
  confirmedCreditCount : Nat

/-- At most 18 digits stand before the point of an amount, so that the units can
be subtracted in 128 bits. -/
def validateRefundRemainingAmount
    (requestedRefundAmount sourceDebitAmount confirmedCreditAmount : String)
    (confirmedCreditCount : Nat) (currency : String) : AdminResult RefundRemainingSummary := do
  let requestedUnits ← decimalAmountUnits requestedRefundAmount.toList ledgerAmountScale
  let sourceUnits ← decimalAmountUnits sourceDebitAmount.toList ledgerAmountScale
  let confirmedCreditUnits ← decimalAmountUnits confirmedCreditAmount.toList ledgerAmountScale
  ensure (0 < requestedUnits) (.badRequest "refund amount must be a positive credit amount")
  ensure (sourceUnits < 0) (.badRequest "refund related ledger entry must be a confirmed debit")
  ensure (0 ≤ confirmedCreditUnits)
    (.badRequest "confirmed refund credit amount must not be negative")
  let sourceDebitUnits := |sourceUnits|
  let remainingUnits := max (sourceDebitUnits - confirmedCreditUnits) 0
  ensure (requestedUnits ≤ remainingUnits)
    (.badRequest "refund amount exceeds remaining refundable amount")
  return {
    sourceDebitAmount := formatDecimalUnits sourceDebitUnits ledgerAmountScale
    confirmedCreditAmount := formatDecimalUnits confirmedCreditUnits ledgerAmountScale
    requestedRefundAmount := formatDecimalUnits requestedUnits ledgerAmountScale
    remainingRefundableAmount := formatDecimalUnits remainingUnits ledgerAmountScale
    currency := currency
    confirmedCreditCount := confirmedCreditCount }

/-! ## What the checks read -/

section

variable {field : String} {value : List Char} {scale : Nat}

theorem validateDecimalFraction_eq_ok {fraction : Option (List Char)}
    (valid : validateDecimalFraction field scale fraction = .ok ()) :
    (fraction.getD []).all Char.isDigit = true ∧ (fraction.getD []).length ≤ scale := by
  cases fraction with
  | none => exact ⟨rfl, Nat.zero_le _⟩
  | some fraction =>
    obtain ⟨_, digits, fits⟩ := bind_eq_ok.mp valid
    exact ⟨(ensure_eq_ok.mp digits).2, ensure_eq_ok.mp fits⟩

theorem isPlain_of_validateDecimalAmountString
    (valid : validateDecimalAmountString field value scale = .ok ()) :
    DecimalText.IsPlain (DecimalText.unsigned value) ∧
      (DecimalText.fractionPart (DecimalText.unsigned value)).length ≤ scale := by
  obtain ⟨_, _, valid⟩ := bind_eq_ok.mp valid
  obtain ⟨_, _, valid⟩ := bind_eq_ok.mp valid
  obtain ⟨_, wholeValid, valid⟩ := bind_eq_ok.mp valid
  obtain ⟨_, fractionValid, _⟩ := bind_eq_ok.mp valid
  obtain ⟨count, nonempty, wholeDigits⟩ := ensure_eq_ok.mp wholeValid
  obtain ⟨fractionDigits, fits⟩ := validateDecimalFraction_eq_ok fractionValid
  rw [← List.getD_eq_getElem?_getD] at fractionDigits fits
  have plain : DecimalText.IsPlain (DecimalText.unsigned value) :=
    DecimalText.isPlain_iff_splitOn.mp ⟨count, nonempty, wholeDigits, fractionDigits⟩
  rw [plain.splitOn.2] at fits
  exact ⟨plain, fits⟩

variable {units : Int}

theorem decimalFractionUnits_eq_ok {fraction : List Char}
    (isDigits : ∀ digit ∈ fraction, digit.isDigit = true)
    (parsed : decimalFractionUnits scale fraction = .ok units) :
    units = DecimalText.value (DecimalText.padded scale fraction) :=
  RustText.parseI128_or_zero_eq_ok (DecimalText.isDigit_padded isDigits) parsed

theorem number_of_decimalAmountUnits (parsed : decimalAmountUnits value scale = .ok units) :
    DecimalText.number value = some ((units : ℚ) / 10 ^ scale) := by
  obtain ⟨_, valid, parsed⟩ := bind_eq_ok.mp parsed
  obtain ⟨⟨nonempty, wholeDigits, fractionDigits⟩, fits⟩ :=
    isPlain_of_validateDecimalAmountString valid
  obtain ⟨wholeNumber, wholeParsed, parsed⟩ := bind_eq_ok.mp parsed
  obtain ⟨wholeUnits, wholeScaled, parsed⟩ := bind_eq_ok.mp parsed
  obtain ⟨fractionNumber, fractionParsed, parsed⟩ := bind_eq_ok.mp parsed
  obtain ⟨sum, added, returned⟩ := bind_eq_ok.mp parsed
  have wholeEq := RustText.parseI128_eq_some nonempty wholeDigits (okOr_eq_ok.mp wholeParsed)
  have fractionEq := decimalFractionUnits_eq_ok fractionDigits fractionParsed
  have wholeUnitsEq := BoundedInt.checked_eq_some_iff.mp (okOr_eq_ok.mp wholeScaled)
  have sumEq : sum.value = (DecimalText.unitsAt scale
      (DecimalText.wholePart (DecimalText.unsigned value))
      (DecimalText.fractionPart (DecimalText.unsigned value)) : Int) := by
    rw [BoundedInt.checked_eq_some_iff.mp (okOr_eq_ok.mp added), wholeUnitsEq, wholeEq, fractionEq,
      DecimalText.unitsAt]
    push_cast
    ring
  rw [DecimalText.number_eq rfl rfl nonempty wholeDigits fractionDigits fits,
    ← Except.ok.inj returned, sumEq]
  split <;> push_cast <;> rfl

end

theorem validateRefundRemainingAmount_eq_ok {requested source credit currency : String}
    {count : Nat} {summary : RefundRemainingSummary} {requestedValue sourceValue creditValue : ℚ}
    (accepted : validateRefundRemainingAmount requested source credit count currency = .ok summary)
    (requestedEq : DecimalText.number requested.toList = some requestedValue)
    (sourceEq : DecimalText.number source.toList = some sourceValue)
    (creditEq : DecimalText.number credit.toList = some creditValue) :
    0 < requestedValue ∧ creditValue + requestedValue ≤ |sourceValue| ∧
      requestedValue ∈ moneyColumn.grid := by
  obtain ⟨requestedUnits, requestedParsed, accepted⟩ := bind_eq_ok.mp accepted
  obtain ⟨sourceUnits, sourceParsed, accepted⟩ := bind_eq_ok.mp accepted
  obtain ⟨creditUnits, creditParsed, accepted⟩ := bind_eq_ok.mp accepted
  obtain ⟨_, requestedPos, accepted⟩ := bind_eq_ok.mp accepted
  obtain ⟨_, sourceNeg, accepted⟩ := bind_eq_ok.mp accepted
  obtain ⟨_, creditNonneg, accepted⟩ := bind_eq_ok.mp accepted
  obtain ⟨_, within, _⟩ := bind_eq_ok.mp accepted
  have requestedPos := ensure_eq_ok.mp requestedPos
  have within := ensure_eq_ok.mp within
  cases requestedEq.symm.trans (number_of_decimalAmountUnits requestedParsed)
  cases sourceEq.symm.trans (number_of_decimalAmountUnits sourceParsed)
  cases creditEq.symm.trans (number_of_decimalAmountUnits creditParsed)
  have scale : (0 : ℚ) < 10 ^ ledgerAmountScale := by positivity
  have withinUnits : creditUnits + requestedUnits ≤ |sourceUnits| := by omega
  refine ⟨div_pos (Int.cast_pos.mpr requestedPos) scale, ?_, ?_⟩
  · rw [← add_div, abs_div, abs_of_pos scale]
    refine div_le_div_of_nonneg_right ?_ scale.le
    exact_mod_cast withinUnits
  · exact NumericColumn.mem_grid_iff.mpr ⟨requestedUnits, rfl⟩

end FuboxApi
