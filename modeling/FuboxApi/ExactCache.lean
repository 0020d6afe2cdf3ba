import FuboxApi.LedgerPlanning
import FuboxApi.UsageRating

/-!
# Billing of exact-cache requests

`decideExactCacheRequest` turns a lookup in the exact cache into a status and a split of the tokens;
`planExactCacheBilling` checks the shape of a request, rates it, and plans the settle of what it
costs.
-/

namespace FuboxApi

open CheckedFold

inductive ExactCacheBillingError where
  | invalidCacheKeyHash
  | cacheHitEntryIdRequired
  | cacheReadTokensExceedInputTokens
  | invalidHitTokenSplit
  | invalidMissTokenSplit
  | invalidPartialHitTokenSplit
  | negativeMoney (field : String)
  | rating (error : UsageRatingError)
  | ledger (error : LedgerContractError)
deriving DecidableEq

abbrev CacheResult :=
  Except ExactCacheBillingError

inductive ExactCacheStatus where
  | hit
  | miss
  | partialHit
deriving DecidableEq

inductive ExactCacheReadPolicy where
  | disabled
  | discountedInputTokens
  | fixedCost

inductive ExactCacheWritePolicy where
  | disabled
  | tokenRate
  | fixedCost
deriving DecidableEq

structure ExactCachePricingRules where
  currency : String
  scale : Nat
  inputTokenRatePerMillion : FixedDecimal
  outputTokenRatePerMillion : FixedDecimal
  cacheReadTokenRatePerMillion : FixedDecimal
  cacheWriteTokenRatePerMillion : FixedDecimal
  fixedCacheReadCost : FixedDecimal
  fixedCacheWriteCost : FixedDecimal
  fixedRequestCost : FixedDecimal

structure ExactCacheBillingRequest where
  requestId : Uuid
  cacheStatus : ExactCacheStatus
  cacheKeyHash : String
  cacheEntryId : Option Uuid
  inputTokens : UInt64
  outputTokens : UInt64
  cacheReadTokens : UInt64
  cacheWriteTokens : UInt64
  readPolicy : ExactCacheReadPolicy
  writePolicy : ExactCacheWritePolicy

structure ExactCacheDecisionInput where
  cacheEntryId : Option Uuid
  inputTokens : UInt64
  matchedInputTokens : UInt64

structure ExactCacheDecision where
  cacheStatus : ExactCacheStatus
  cacheEntryId : Option Uuid
  inputTokens : UInt64
  cachedInputTokens : UInt64
  billableInputTokens : UInt64
  cacheReadTokens : UInt64
  cacheWriteTokens : UInt64

structure ExactCacheRatingResult where
  cacheStatus : ExactCacheStatus
  inputTokens : UInt64
  cachedInputTokens : UInt64
  billableInputTokens : UInt64
  outputTokens : UInt64
  cacheReadTokens : UInt64
  cacheWriteTokens : UInt64
  readPolicy : ExactCacheReadPolicy
  writePolicy : ExactCacheWritePolicy
  inputCost : FixedDecimal
  outputCost : FixedDecimal
  cacheReadCost : FixedDecimal
  cacheWriteCost : FixedDecimal
  fixedRequestCost : FixedDecimal
  totalCost : FixedDecimal
  currency : String
  scale : Nat

structure ExactCacheBillingPlan where
  cacheStatus : ExactCacheStatus
  cacheOperationIdempotencyKey : Option String
  cacheReadIdempotencyKey : Option String
  cacheWriteIdempotencyKey : Option String
  ledgerIdempotencyKey : Option String
  rating : ExactCacheRatingResult
  ledgerPlan : Option LedgerOperationPlan

/-! ## The decision -/

/-- The status for a number of tokens that were found and a number that were
not. -/
def decidedStatus (matchedInputTokens billableInputTokens : UInt64) : ExactCacheStatus :=
  if matchedInputTokens = 0 then .miss
  else if billableInputTokens = 0 then .hit
  else .partialHit

def decideExactCacheRequest (input : ExactCacheDecisionInput) : CacheResult ExactCacheDecision := do
  ensure (input.matchedInputTokens ≤ input.inputTokens) .cacheReadTokensExceedInputTokens
  ensure (¬ (0 < input.matchedInputTokens ∧ input.cacheEntryId = none)) .cacheHitEntryIdRequired
  let billableInputTokens := input.inputTokens - input.matchedInputTokens
  let cacheStatus := decidedStatus input.matchedInputTokens billableInputTokens
  return {
    cacheStatus
    cacheEntryId :=
      match cacheStatus with
      | .hit | .partialHit => input.cacheEntryId
      | .miss => none
    inputTokens := input.inputTokens
    cachedInputTokens := input.matchedInputTokens
    billableInputTokens
    cacheReadTokens := input.matchedInputTokens
    cacheWriteTokens := billableInputTokens }

/-! ## Checks -/

def isAsciiHexdigit (character : Char) : Bool :=
  character.isDigit || ('a' ≤ character && character ≤ 'f') ||
    ('A' ≤ character && character ≤ 'F')

def validateCacheKeyHash (cacheKeyHash : String) : CacheResult Unit :=
  match cacheKeyHash.toList.dropPrefix? "sha256:".toList with
  | none => .error .invalidCacheKeyHash
  | some digest =>
    ensure ((String.ofList digest).utf8ByteSize = 64 ∧ digest.all isAsciiHexdigit = true)
      .invalidCacheKeyHash

/-- The family of cache operation keys. -/
def exactCacheIdempotencyKey (operation : String) (requestId : Uuid) (cacheKeyHash : String) :
    CacheResult String := do
  validateCacheKeyHash cacheKeyHash
  return "exact_cache:" ++ operation ++ ":" ++ requestId.toText ++ ":" ++ cacheKeyHash

def exactCacheReadIdempotencyKey : Uuid → String → CacheResult String :=
  exactCacheIdempotencyKey "read"

def exactCacheWriteIdempotencyKey : Uuid → String → CacheResult String :=
  exactCacheIdempotencyKey "write"

def validateCacheRequestShape (request : ExactCacheBillingRequest) : CacheResult Unit := do
  ensure (request.cacheReadTokens ≤ request.inputTokens) .cacheReadTokensExceedInputTokens
  match request.cacheStatus with
  | .hit => do
      ensure (request.cacheEntryId ≠ none) .cacheHitEntryIdRequired
      ensure (request.cacheReadTokens = request.inputTokens) .invalidHitTokenSplit
  | .miss => ensure (request.cacheReadTokens = 0) .invalidMissTokenSplit
  | .partialHit => do
      ensure (request.cacheEntryId ≠ none) .cacheHitEntryIdRequired
      ensure (request.cacheReadTokens ≠ 0 ∧ request.cacheReadTokens ≠ request.inputTokens)
        .invalidPartialHitTokenSplit

namespace ExactCache

def ensureNonNegativeMoney (field : String) (amount : FixedDecimal) : CacheResult Unit :=
  ensure (0 ≤ amount.units.value) (.negativeMoney field)

def ensurePricingIsNonNegative (pricing : ExactCachePricingRules) : CacheResult Unit := do
  ensureNonNegativeMoney "input_token_rate_per_million" pricing.inputTokenRatePerMillion
  ensureNonNegativeMoney "output_token_rate_per_million" pricing.outputTokenRatePerMillion
  ensureNonNegativeMoney "cache_read_token_rate_per_million" pricing.cacheReadTokenRatePerMillion
  ensureNonNegativeMoney "cache_write_token_rate_per_million" pricing.cacheWriteTokenRatePerMillion
  ensureNonNegativeMoney "fixed_cache_read_cost" pricing.fixedCacheReadCost
  ensureNonNegativeMoney "fixed_cache_write_cost" pricing.fixedCacheWriteCost
  ensureNonNegativeMoney "fixed_request_cost" pricing.fixedRequestCost

end ExactCache

/-! ## Rating -/

namespace ExactCacheBillingRequest

def cachedInputTokens (request : ExactCacheBillingRequest) : UInt64 :=
  match request.cacheStatus with
  | .hit | .partialHit => request.cacheReadTokens
  | .miss => 0

/-- The other ones. Both subtractions of `u64` in this module would wrap around or
panic below zero; none of them gets there. -/
def billableInputTokens (request : ExactCacheBillingRequest) : UInt64 :=
  request.inputTokens - request.cachedInputTokens

variable (request : ExactCacheBillingRequest) (pricing : ExactCachePricingRules)
  (zero : FixedDecimal)

/-- The costs of input and output and the fixed cost of the request; a hit has
none of them. -/
def requestCosts : UsageResult (FixedDecimal × FixedDecimal × FixedDecimal) :=
  match request.cacheStatus with
  | .hit => .ok (zero, zero, zero)
  | .miss | .partialHit => do
      let inputCost ← rateTokens request.billableInputTokens pricing.inputTokenRatePerMillion
      let outputCost ← rateTokens request.outputTokens pricing.outputTokenRatePerMillion
      return (inputCost, outputCost, pricing.fixedRequestCost)

def cacheReadCost : UsageResult FixedDecimal :=
  match request.cacheStatus, request.readPolicy with
  | .hit, .discountedInputTokens | .partialHit, .discountedInputTokens =>
    rateTokens request.cacheReadTokens pricing.cacheReadTokenRatePerMillion
  | .hit, .fixedCost | .partialHit, .fixedCost => .ok pricing.fixedCacheReadCost
  | _, _ => .ok zero

def cacheWriteCost : UsageResult FixedDecimal :=
  match request.cacheStatus, request.writePolicy with
  | .miss, .tokenRate | .partialHit, .tokenRate =>
    rateTokens request.cacheWriteTokens pricing.cacheWriteTokenRatePerMillion
  | .miss, .fixedCost | .partialHit, .fixedCost => .ok pricing.fixedCacheWriteCost
  | _, _ => .ok zero

end ExactCacheBillingRequest

/-- The sum of the parts, in the order of the source. -/
def exactCacheTotalCost
    (inputCost outputCost cacheReadCost cacheWriteCost fixedRequestCost : FixedDecimal) :
    Except RatingError FixedDecimal := do
  let tokens ← inputCost.checkedAdd outputCost
  let withRead ← tokens.checkedAdd cacheReadCost
  let withWrite ← withRead.checkedAdd cacheWriteCost
  withWrite.checkedAdd fixedRequestCost

def rateExactCacheRequest (request : ExactCacheBillingRequest) (pricing : ExactCachePricingRules) :
    CacheResult ExactCacheRatingResult := do
  ExactCache.ensurePricingIsNonNegative pricing
  Except.mapError .rating do
    let zero ← (FixedDecimal.zero pricing.scale).mapError .arithmetic
    let (inputCost, outputCost, fixedRequestCost) ← request.requestCosts pricing zero
    let cacheReadCost ← request.cacheReadCost pricing zero
    let cacheWriteCost ← request.cacheWriteCost pricing zero
    let totalCost ← (exactCacheTotalCost inputCost outputCost cacheReadCost cacheWriteCost
        fixedRequestCost).mapError .arithmetic
    return {
      cacheStatus := request.cacheStatus
      inputTokens := request.inputTokens
      cachedInputTokens := request.cachedInputTokens
      billableInputTokens := request.billableInputTokens
      outputTokens := request.outputTokens
      cacheReadTokens := request.cacheReadTokens
      cacheWriteTokens := request.cacheWriteTokens
      readPolicy := request.readPolicy
      writePolicy := request.writePolicy
      inputCost, outputCost, cacheReadCost, cacheWriteCost, fixedRequestCost, totalCost
      currency := pricing.currency
      scale := pricing.scale }

/-! ## Planning -/

namespace ExactCacheBillingRequest

variable (request : ExactCacheBillingRequest)

def cacheReadIdempotencyKey : CacheResult (Option String) :=
  match request.cacheStatus with
  | .hit | .partialHit =>
    (exactCacheReadIdempotencyKey request.requestId request.cacheKeyHash).map some
  | .miss => .ok none

def cacheWriteIdempotencyKey : CacheResult (Option String) :=
  match request.cacheStatus with
  | .hit => .ok none
  | .miss | .partialHit =>
    if request.writePolicy = .disabled then .ok none
    else (exactCacheWriteIdempotencyKey request.requestId request.cacheKeyHash).map some

def cacheOperationIdempotencyKey (cacheWriteIdempotencyKey : Option String) :
    CacheResult (Option String) :=
  match request.cacheStatus with
  | .hit | .partialHit =>
    (exactCacheReadIdempotencyKey request.requestId request.cacheKeyHash).map some
  | .miss => .ok cacheWriteIdempotencyKey

end ExactCacheBillingRequest

/-- The settle of a rated request; the part of the metadata that describes the
cache is not read by planning and is left out. -/
def exactCacheLedgerPlan (request : ExactCacheBillingRequest) (rating : ExactCacheRatingResult)
    (existingEntries : List LedgerEntryRecord) : ContractResult (Option LedgerOperationPlan) :=
  if rating.totalCost.isZero then .ok none
  else
    (LedgerContract.planLedgerSettleWithMetadata
      ⟨request.requestId, rating.totalCost, rating.currency⟩ existingEntries
      (.settle request.requestId)).map some

def planExactCacheBilling (request : ExactCacheBillingRequest) (pricing : ExactCachePricingRules)
    (existingEntries : List LedgerEntryRecord) : CacheResult ExactCacheBillingPlan := do
  validateCacheKeyHash request.cacheKeyHash
  validateCacheRequestShape request
  let cacheReadIdempotencyKey ← request.cacheReadIdempotencyKey
  let cacheWriteIdempotencyKey ← request.cacheWriteIdempotencyKey
  let cacheOperationIdempotencyKey ← request.cacheOperationIdempotencyKey cacheWriteIdempotencyKey
  let rating ← rateExactCacheRequest request pricing
  let ledgerPlan ← (exactCacheLedgerPlan request rating existingEntries).mapError .ledger
  return {
    cacheStatus := request.cacheStatus
    cacheOperationIdempotencyKey, cacheReadIdempotencyKey, cacheWriteIdempotencyKey
    ledgerIdempotencyKey :=
      if rating.totalCost.isZero then none
      else some (settleLedgerIdempotencyKey request.requestId)
    rating, ledgerPlan }

end FuboxApi
