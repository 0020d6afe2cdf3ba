import FuboxApi.FixedDecimal
import FuboxApi.Uuid

/-!
# Rating the usage of a request

The rules of a price version give an estimate that wallet and budgets must cover, and afterwards
rate the reported token counts. A price version stands for its parsed rules, and a payload for what
the usage extractors make of it.
-/

namespace FuboxApi

open CheckedFold

def tokensPerMillion : Int := 1000000

structure TokenUsage where
  inputTokens : UInt64
  outputTokens : UInt64

structure ExtendedTokenUsage where
  inputTokens : UInt64
  outputTokens : UInt64
  cacheTokens : Option UInt64
  reasoningTokens : Option UInt64
deriving DecidableEq

def TokenUsage.extended (usage : TokenUsage) : ExtendedTokenUsage :=
  ⟨usage.inputTokens, usage.outputTokens, none, none⟩

structure PricingRules where
  currency : String
  scale : Nat
  inputTokenRatePerMillion : FixedDecimal
  outputTokenRatePerMillion : FixedDecimal
  cacheTokenRatePerMillion : FixedDecimal
  reasoningTokenRatePerMillion : FixedDecimal
  fixedRequestCost : FixedDecimal

/-- The errors of rating: those of fixed-point arithmetic, a negative rate, and
those of the usage that is to be rated. -/
inductive UsageRatingError where
  | arithmetic (error : RatingError)
  | negativeMoney (field : String)
  | invalidUsageField (field : String)
  | usageCategoryExceedsTotal (category total : String)
deriving DecidableEq

abbrev UsageResult :=
  Except UsageRatingError

structure RatingResult where
  usage : ExtendedTokenUsage
  inputCost : FixedDecimal
  outputCost : FixedDecimal
  cacheCost : Option FixedDecimal
  reasoningCost : Option FixedDecimal
  fixedRequestCost : FixedDecimal
  totalCost : FixedDecimal
  currency : String
  scale : Nat
deriving DecidableEq

/-- Division of an `i128` by a positive number, halves rounded up. -/
def divRoundHalfUp (numerator : I128) (denominator : Int) : Except RatingError I128 :=
  if denominator ≤ 0 ∨ numerator.value < 0 then .error .arithmeticOverflow
  else
    let quotient := numerator.value.tdiv denominator
    let remainder := numerator.value.tmod denominator
    -- the only denominator is a million, so twice the remainder is in range
    okOr .arithmeticOverflow
      (BoundedInt.checked (if denominator ≤ remainder * 2 then quotient + 1 else quotient))

def rateTokens (tokens : UInt64) (ratePerMillion : FixedDecimal) : UsageResult FixedDecimal :=
  if ratePerMillion.units.value < 0 then .error (.negativeMoney "rate_per_million")
  else Except.mapError .arithmetic do
    let numerator ← okOr .arithmeticOverflow
      (BoundedInt.checked (tokens.toNat * ratePerMillion.units.value))
    let units ← divRoundHalfUp numerator tokensPerMillion
    FixedDecimal.fromUnits units ratePerMillion.scale

/-- The cost of an optional category. -/
def rateCategory (tokens : Option UInt64) (ratePerMillion : FixedDecimal) :
    UsageResult (Option FixedDecimal) :=
  match tokens with
  | none => .ok none
  | some tokens => (rateTokens tokens ratePerMillion).map some

/-- The sum of the parts; a category that was not reported costs zero in the
scale of the rules. -/
def totalCost (pricing : PricingRules) (inputCost outputCost : FixedDecimal)
    (cacheCost reasoningCost : Option FixedDecimal) : Except RatingError FixedDecimal := do
  let tokens ← inputCost.checkedAdd outputCost
  let zero ← FixedDecimal.zero pricing.scale
  let withCache ← tokens.checkedAdd (cacheCost.getD zero)
  let withReasoning ← withCache.checkedAdd (reasoningCost.getD zero)
  withReasoning.checkedAdd pricing.fixedRequestCost

def rateUsage (pricing : PricingRules) (usage : ExtendedTokenUsage) : UsageResult RatingResult := do
  let inputCost ← rateTokens usage.inputTokens pricing.inputTokenRatePerMillion
  let outputCost ← rateTokens usage.outputTokens pricing.outputTokenRatePerMillion
  let cacheCost ← rateCategory usage.cacheTokens pricing.cacheTokenRatePerMillion
  let reasoningCost ← rateCategory usage.reasoningTokens pricing.reasoningTokenRatePerMillion
  let total ← (totalCost pricing inputCost outputCost cacheCost reasoningCost).mapError .arithmetic
  return {
    usage, inputCost, outputCost, cacheCost, reasoningCost
    fixedRequestCost := pricing.fixedRequestCost
    totalCost := total
    currency := pricing.currency
    scale := pricing.scale }

/-- A price version; rules that do not parse are `none`. -/
structure ResolvedPriceVersion where
  id : Uuid
  pricingRules : Option PricingRules

structure RequestRatingUpdate where
  finalCost : FixedDecimal
  currency : String
  priceVersionId : Uuid

def requestRatingFromPriceVersion (priceVersion : ResolvedPriceVersion)
    (usage : ExtendedTokenUsage) : Option RequestRatingUpdate :=
  match priceVersion.pricingRules with
  | none => none
  | some pricing =>
    match rateUsage pricing usage with
    | .error _ => none
    | .ok rating => some ⟨rating.totalCost, rating.currency, priceVersion.id⟩

/-! ## Usage -/

structure AdapterUsage where
  promptTokens : Option UInt64
  completionTokens : Option UInt64
deriving DecidableEq

/-- A provider's answer: the usage that the adapter extracts, and the usage
details that the rating module extracts or fails to extract. -/
structure ProviderPayload where
  adapterUsage : Option AdapterUsage
  runtimeUsage : UsageResult (Option ExtendedTokenUsage)

structure RequestUsageUpdate where
  inputTokens : Option Int64
  outputTokens : Option Int64
deriving DecidableEq

def u64ToI64 (value : UInt64) : Option Int64 :=
  if value.toNat < 2 ^ 63 then some value.toInt64 else none

def i64ToU64 (value : Int64) : Option UInt64 :=
  if 0 ≤ value then some value.toUInt64 else none

theorem bind_u64ToI64 (tokens : UInt64) :
    (u64ToI64 tokens).bind i64ToU64 = if tokens.toNat < 2 ^ 63 then some tokens else none := by
  unfold u64ToI64
  split
  · next small =>
    have nonneg : 0 ≤ tokens.toInt64 := by
      have unsigned : 2 * tokens.toBitVec.toNat < 2 ^ 64 := by
        rw [UInt64.toNat_toBitVec]
        omega
      rw [Int64.le_iff_toInt_le]
      exact (Int.natCast_nonneg _).trans_eq (BitVec.toInt_eq_toNat_of_lt unsigned).symm
    simp [i64ToU64, nonneg]
  · rfl

def requestUsageFromAdapterUsage (usage : Option AdapterUsage) : RequestUsageUpdate :=
  match usage with
  | none => ⟨none, none⟩
  | some usage => ⟨usage.promptTokens.bind u64ToI64, usage.completionTokens.bind u64ToI64⟩

namespace RequestUsageUpdate

def tokenUsageForRating (usage : RequestUsageUpdate) : Option TokenUsage := do
  let inputTokens ← usage.inputTokens.bind i64ToU64
  let outputTokens ← usage.outputTokens.bind i64ToU64
  return ⟨inputTokens, outputTokens⟩

/-- `checked_add` of a count and the count of an optional category. -/
def categoryTotal (tokens : UInt64) (category : Option UInt64) : Option UInt64 :=
  let total := tokens.toNat + (category.getD 0).toNat
  if total < 2 ^ 64 then some (UInt64.ofNat total) else none

def runtimeRatingUsageMatchesRequestUsage (requestUsage : RequestUsageUpdate)
    (ratingUsage : ExtendedTokenUsage) : Bool :=
  match requestUsage.inputTokens.bind i64ToU64, requestUsage.outputTokens.bind i64ToU64 with
  | some inputTokens, some outputTokens =>
    categoryTotal ratingUsage.inputTokens ratingUsage.cacheTokens = some inputTokens &&
      categoryTotal ratingUsage.outputTokens ratingUsage.reasoningTokens = some outputTokens
  | _, _ => false

/-- The details of the payload are used if their totals are the adapter's. -/
def runtimeTokenUsageForRating (usage : RequestUsageUpdate) (payload : ProviderPayload) :
    Option ExtendedTokenUsage :=
  usage.tokenUsageForRating.map fun fallback =>
    match payload.runtimeUsage with
    | .ok (some details) =>
      if usage.runtimeRatingUsageMatchesRequestUsage details then details else fallback.extended
    | _ => fallback.extended

end RequestUsageUpdate

/-! ## Pre-authorization -/

structure PreAuthorizeEstimate where
  minimumCost : FixedDecimal
  billableIfUsagePresent : Bool

inductive PreAuthorizeRejectReason where
  | insufficientWalletBalance
  | insufficientBudget
deriving DecidableEq

inductive PreAuthorizeDecision where
  | allow
  | reject (reason : PreAuthorizeRejectReason)
deriving DecidableEq

def amountIsInsufficient (available : FixedDecimal) (estimate : PreAuthorizeEstimate) : Bool :=
  if available.scale ≠ estimate.minimumCost.scale then false
  else if 0 < estimate.minimumCost.units.value then
    available.units.value < estimate.minimumCost.units.value
  else estimate.billableIfUsagePresent && available.units.value ≤ 0

def preAuthorize (estimate : PreAuthorizeEstimate) (wallet : Option FixedDecimal)
    (budgets : List FixedDecimal) : PreAuthorizeDecision :=
  if wallet.any (amountIsInsufficient · estimate) then .reject .insufficientWalletBalance
  else if budgets.any (amountIsInsufficient · estimate) then .reject .insufficientBudget
  else .allow

def pricingRulesHaveBillableUsageRate (pricing : PricingRules) : Bool :=
  !pricing.inputTokenRatePerMillion.isZero || !pricing.outputTokenRatePerMillion.isZero ||
    !pricing.cacheTokenRatePerMillion.isZero || !pricing.reasoningTokenRatePerMillion.isZero

def preAuthorizeEstimateFromPriceVersion (priceVersion : ResolvedPriceVersion) :
    Option (PreAuthorizeEstimate × String) :=
  priceVersion.pricingRules.map fun pricing =>
    (⟨pricing.fixedRequestCost, pricingRulesHaveBillableUsageRate pricing⟩, pricing.currency)

end FuboxApi
