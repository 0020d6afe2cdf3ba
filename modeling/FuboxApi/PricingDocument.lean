import FuboxApi.JsonDocument
import FuboxApi.RustText
import FuboxApi.UsageRating

/-!
# Pricing documents

The money fields of pricing rules are decimal texts or integers in the scale of the document, and
must not be negative.
-/

namespace FuboxApi

open CheckedFold DecimalText FixedDecimal

inductive PricingError where
  | arithmetic (error : RatingError)
  | invalidCurrency (currency : String)
  | invalidMoneyType (field : String)
  | invalidDecimal (field value : String)
  | tooManyFractionalDigits (field value : String) (scale : Nat)
  | negativeMoney (field : String)
deriving DecidableEq

def defaultCurrency : String := "USD"

def validateScale (scale : Nat) : Except PricingError Unit :=
  ensure (scale ≤ maxMoneyScale) (.arithmetic (.invalidScale scale))

/-- The sign of a text, and the text behind it. -/
def stripSign : List Char → Bool × List Char
  | '-' :: unsigned => (true, unsigned)
  | '+' :: unsigned => (false, unsigned)
  | value => (false, value)

/-- The number of the digits behind the point, filled up to the scale. -/
def fractionUnits (invalid : PricingError) (scale : Nat) (fraction : List Char) :
    Except PricingError Int :=
  let fractionDigits := padded scale fraction
  if fractionDigits.isEmpty then .ok 0 else okOr invalid (RustText.parseI128 fractionDigits)

/-- The units of the digits before and behind the point. -/
def decimalUnits (invalid : PricingError) (scale : Nat) (whole fraction : List Char) :
    Except PricingError I128 := do
  let wholeNumber ← okOr invalid (RustText.parseI128 whole)
  let wholeUnits : I128 ← okOr (.arithmetic .arithmeticOverflow)
    (BoundedInt.checked (wholeNumber * 10 ^ scale))
  let fractionNumber ← fractionUnits invalid scale fraction
  okOr (.arithmetic .arithmeticOverflow) (BoundedInt.checked (wholeUnits.value + fractionNumber))

def signedUnits (negative : Bool) (units : I128) : Except PricingError I128 :=
  if negative then okOr (.arithmetic .arithmeticOverflow) units.checkedNeg else .ok units

def parseDecimalString (field value : String) (scale : Nat) : Except PricingError FixedDecimal := do
  validateScale scale
  let value := RustText.trim value.toList
  let invalid := PricingError.invalidDecimal field (String.ofList value)
  ensure (value ≠ []) invalid
  let (negative, unsigned) := stripSign value
  ensure (unsigned ≠ []) invalid
  let parts := unsigned.splitOn '.'
  let whole := parts.headD []
  let fraction := parts.getD 1 []
  ensure (parts.length ≤ 2 ∧ whole ≠ [] ∧ whole.all Char.isDigit = true ∧
    fraction.all Char.isDigit = true) invalid
  ensure (fraction.length ≤ scale) (.tooManyFractionalDigits field (String.ofList value) scale)
  let units ← decimalUnits invalid scale whole fraction
  let signed ← signedUnits negative units
  (fromUnits signed scale).mapError .arithmetic

def FixedDecimal.parse (value : String) (scale : Nat) : Except PricingError FixedDecimal :=
  parseDecimalString "decimal" value scale

def rejectNegative (field : String) (money : FixedDecimal) : Except PricingError Unit :=
  ensure (0 ≤ money.units.value) (.negativeMoney field)

/-- A number of the document as `as_i64` or `as_u64` give it. -/
def integerUnits (field : String) (number : Int) : Except PricingError I128 :=
  if -2 ^ 63 ≤ number ∧ number < 2 ^ 64 then
    okOr (.invalidMoneyType field) (BoundedInt.checked number)
  else .error (.invalidMoneyType field)

def parseOptionalMoneyField (field : String) (value : Option JsonDocument) (scale : Nat) :
    Except PricingError FixedDecimal :=
  match value with
  | none | some .null => (zero scale).mapError .arithmetic
  | some (.string value) => do
      let money ← parseDecimalString field value scale
      rejectNegative field money
      return money
  | some (.integer number) => do
      let units ← integerUnits field number
      let money ← (fromUnits units scale).mapError .arithmetic
      rejectNegative field money
      return money
  | some (.decimal _ _) | some (.bool _) | some (.array _) | some (.object _) =>
    .error (.invalidMoneyType field)

def validatePricingCurrency (currency : String) : Except PricingError Unit :=
  ensure (isCurrencyCode currency = true) (.invalidCurrency currency)

/-- The fields of a document as the deserializer hands them over. -/
structure PricingRulesWire where
  currency : Option String
  scale : Option UInt32
  inputTokenRatePer1m : Option JsonDocument
  outputTokenRatePer1m : Option JsonDocument
  cacheTokenRatePer1m : Option JsonDocument
  reasoningTokenRatePer1m : Option JsonDocument
  fixedRequestCost : Option JsonDocument

def PricingRules.fromJsonValue (wire : PricingRulesWire) : Except PricingError PricingRules := do
  let scale := (wire.scale.map UInt32.toNat).getD defaultMoneyScale
  validateScale scale
  let currency := wire.currency.getD defaultCurrency
  validatePricingCurrency currency
  let inputRate ← parseOptionalMoneyField "input_token_rate_per_1m" wire.inputTokenRatePer1m scale
  let outputRate ←
    parseOptionalMoneyField "output_token_rate_per_1m" wire.outputTokenRatePer1m scale
  let cacheRate ← parseOptionalMoneyField "cache_token_rate_per_1m" wire.cacheTokenRatePer1m scale
  let reasoningRate ←
    parseOptionalMoneyField "reasoning_token_rate_per_1m" wire.reasoningTokenRatePer1m scale
  let fixedRequestCost ← parseOptionalMoneyField "fixed_request_cost" wire.fixedRequestCost scale
  return {
    currency, scale
    inputTokenRatePerMillion := inputRate
    outputTokenRatePerMillion := outputRate
    cacheTokenRatePerMillion := cacheRate
    reasoningTokenRatePerMillion := reasoningRate
    fixedRequestCost }

/-! ## What an accepted document gives -/

variable {field : String} {money : FixedDecimal} {scale : Nat}

theorem parseDecimalString_scale {value : String}
    (parsed : parseDecimalString field value scale = .ok money) : money.scale = scale := by
  obtain ⟨_, _, parsed⟩ := bind_eq_ok.mp parsed
  obtain ⟨_, _, parsed⟩ := bind_eq_ok.mp parsed
  obtain ⟨_, _, parsed⟩ := bind_eq_ok.mp parsed
  obtain ⟨_, _, parsed⟩ := bind_eq_ok.mp parsed
  obtain ⟨_, _, parsed⟩ := bind_eq_ok.mp parsed
  obtain ⟨_, _, parsed⟩ := bind_eq_ok.mp parsed
  obtain ⟨_, _, parsed⟩ := bind_eq_ok.mp parsed
  exact (fromUnits_eq_ok.mp (mapError_eq_ok.mp parsed)).2

theorem parseOptionalMoneyField_eq_ok {value : Option JsonDocument}
    (parsed : parseOptionalMoneyField field value scale = .ok money) :
    money.scale = scale ∧ 0 ≤ money.units.value := by
  unfold parseOptionalMoneyField at parsed
  split at parsed
  · obtain ⟨zero, scaleEq⟩ := zero_eq_ok.mp (mapError_eq_ok.mp parsed)
    exact ⟨scaleEq, zero.ge⟩
  · obtain ⟨zero, scaleEq⟩ := zero_eq_ok.mp (mapError_eq_ok.mp parsed)
    exact ⟨scaleEq, zero.ge⟩
  · obtain ⟨_, read, parsed⟩ := bind_eq_ok.mp parsed
    obtain ⟨_, nonneg, built⟩ := bind_eq_ok.mp parsed
    cases built
    exact ⟨parseDecimalString_scale read, ensure_eq_ok.mp nonneg⟩
  · obtain ⟨_, _, parsed⟩ := bind_eq_ok.mp parsed
    obtain ⟨_, read, parsed⟩ := bind_eq_ok.mp parsed
    obtain ⟨_, nonneg, built⟩ := bind_eq_ok.mp parsed
    cases built
    exact ⟨(fromUnits_eq_ok.mp (mapError_eq_ok.mp read)).2, ensure_eq_ok.mp nonneg⟩
  all_goals cases parsed

theorem PricingRules.fromJsonValue_eq_ok {wire : PricingRulesWire} {pricing : PricingRules}
    (accepted : PricingRules.fromJsonValue wire = .ok pricing) :
    pricing.fixedRequestCost.scale = pricing.scale ∧ 0 ≤ pricing.fixedRequestCost.units.value := by
  obtain ⟨_, _, accepted⟩ := bind_eq_ok.mp accepted
  obtain ⟨_, _, accepted⟩ := bind_eq_ok.mp accepted
  obtain ⟨_, _, accepted⟩ := bind_eq_ok.mp accepted
  obtain ⟨_, _, accepted⟩ := bind_eq_ok.mp accepted
  obtain ⟨_, _, accepted⟩ := bind_eq_ok.mp accepted
  obtain ⟨_, _, accepted⟩ := bind_eq_ok.mp accepted
  obtain ⟨_, cost, built⟩ := bind_eq_ok.mp accepted
  cases built
  exact parseOptionalMoneyField_eq_ok cost

/-! ## Signs, digits and units -/

variable {places : Nat} {units : Int}

theorem stripSign_digits {digits rest : List Char} (nonempty : digits ≠ [])
    (isDigits : ∀ digit ∈ digits, digit.isDigit = true) :
    stripSign (digits ++ rest) = (false, digits ++ rest) := by
  obtain ⟨first, others, rfl⟩ := List.exists_cons_of_ne_nil nonempty
  have firstDigit := isDigits first (by simp)
  unfold stripSign
  split
  · next heq =>
    rw [(List.cons.inj heq).1] at firstDigit
    exact absurd firstDigit (by decide)
  · next heq =>
    rw [(List.cons.inj heq).1] at firstDigit
    exact absurd firstDigit (by decide)
  · rfl

theorem stripSign_text : stripSign (text places units) =
      (decide (units < 0), wholeDigits (units.natAbs / 10 ^ places) ++
        '.' :: fixedDigits places (units.natAbs % 10 ^ places)) := by
  unfold text
  by_cases negative : units < 0
  · simp [negative, stripSign]
  · simp only [negative, if_false, List.nil_append, decide_false]
    exact stripSign_digits (wholeDigits_ne_nil _) (isDigit_wholeDigits _)

theorem trim_text : RustText.trim (text places units) = text places units := by
  apply RustText.trim_eq_self
  intro char member
  simp only [text, List.mem_append, List.mem_cons] at member
  rcases member with (sign | whole) | point | fraction
  · split at sign
    · rw [List.mem_singleton.mp sign]
      decide
    · cases sign
  · exact RustText.isWhitespace_of_isDigit (isDigit_wholeDigits _ char whole)
  · rw [point]
    decide
  · exact RustText.isWhitespace_of_isDigit (isDigit_fixedDigits _ _ char fraction)

theorem exists_checked {number : Nat} (small : number < 2 ^ 127) :
    ∃ result : I128, BoundedInt.checked (number : Int) = some result ∧ result.value = number := by
  have below : (number : Int) ≤ 2 ^ 127 - 1 := by omega
  have above : -2 ^ 127 ≤ (number : Int) := by omega
  exact ⟨⟨number, above, below⟩, by simp, rfl⟩

variable {fraction : List Char}

theorem fractionUnits_eq {invalid : PricingError}
    (isDigits : ∀ digit ∈ fraction, digit.isDigit = true)
    (small : value (padded scale fraction) < 2 ^ 127) :
    fractionUnits invalid scale fraction = .ok (value (padded scale fraction) : Int) := by
  unfold fractionUnits
  dsimp only
  split
  · next empty =>
    rw [List.isEmpty_iff.mp empty]
    rfl
  · next nonempty =>
    rw [RustText.parseI128_digits (by simpa using nonempty) (isDigit_padded isDigits) small]
    rfl

theorem decimalUnits_eq (invalid : PricingError) {whole : List Char} (nonempty : whole ≠ [])
    (wholeDigits : ∀ digit ∈ whole, digit.isDigit = true)
    (fractionDigits : ∀ digit ∈ fraction, digit.isDigit = true)
    (small : unitsAt scale whole fraction < 2 ^ 127) :
    ∃ result, decimalUnits invalid scale whole fraction = .ok result ∧
      result.value = unitsAt scale whole fraction := by
  have scaled : value whole * 10 ^ scale < 2 ^ 127 := (Nat.le_add_right _ _).trans_lt small
  have fractionSmall : value (padded scale fraction) < 2 ^ 127 :=
    (Nat.le_add_left _ _).trans_lt small
  have wholeSmall : value whole < 2 ^ 127 :=
    (Nat.le_mul_of_pos_right _ (by positivity)).trans_lt scaled
  obtain ⟨wholeUnits, wholeEq, wholeValue⟩ := exists_checked scaled
  obtain ⟨units, unitsEq, unitsValue⟩ := exists_checked small
  refine ⟨units, ?_, unitsValue⟩
  push_cast at wholeEq
  rw [unitsAt] at unitsEq
  push_cast at unitsEq
  simp only [decimalUnits, RustText.parseI128_digits nonempty wholeDigits wholeSmall, okOr,
    wholeEq, fractionUnits_eq fractionDigits fractionSmall, bind, Except.bind, wholeValue]
  push_cast
  rw [unitsEq]

theorem signedUnits_eq {magnitude : I128} (nonneg : 0 ≤ magnitude.value) (negative : Bool) :
    ∃ signed, signedUnits negative magnitude = .ok signed ∧
      signed.value = if negative then -magnitude.value else magnitude.value := by
  cases negative with
  | false => exact ⟨magnitude, rfl, rfl⟩
  | true =>
    have below := magnitude.le_highest
    exact ⟨⟨-magnitude.value, by omega, by omega⟩,
      okOr_eq_ok.mpr (BoundedInt.checked_eq_some_iff.mpr rfl), rfl⟩

example : parse "-0.50000000" 10 = .ok ⟨⟨-5000000000, by decide, by decide⟩, 10, by decide⟩ := by
  decide +kernel

end FuboxApi
