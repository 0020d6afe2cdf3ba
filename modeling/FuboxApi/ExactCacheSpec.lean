import FuboxApi.ExactCache
import FuboxApi.UsageRatingSpec

/-!
# What exact-cache billing charges

A request is charged in up to five parts, which `charges` lists from the request and the pricing
alone; the total of a rated request is the sum of their costs.
-/

namespace FuboxApi

open CheckedFold ExactCacheBillingRequest

/-! ## The decision and the shape of a request -/

variable {decision : ExactCacheDecision} {input : ExactCacheDecisionInput} {done : Unit}
  {request : ExactCacheBillingRequest}

theorem decideExactCacheRequest_eq_ok (decided : decideExactCacheRequest input = .ok decision) :
    input.matchedInputTokens ≤ input.inputTokens ∧
      (0 < input.matchedInputTokens → input.cacheEntryId ≠ none) ∧ decision.cacheStatus =
        decidedStatus decision.cachedInputTokens decision.billableInputTokens ∧
      (decision.cacheStatus ≠ .miss → decision.cacheEntryId = input.cacheEntryId) ∧
      decision.inputTokens = input.inputTokens ∧
      decision.cachedInputTokens = input.matchedInputTokens ∧
      decision.billableInputTokens = input.inputTokens - input.matchedInputTokens ∧
      decision.cacheReadTokens = decision.cachedInputTokens ∧
      decision.cacheWriteTokens = decision.billableInputTokens := by
  obtain ⟨_, within, decided⟩ := bind_eq_ok.mp decided
  obtain ⟨_, identified, built⟩ := bind_eq_ok.mp decided
  rw [ensure_eq_ok] at within identified
  cases built
  refine ⟨within, fun found absent => identified ⟨found, absent⟩, rfl, ?_, rfl, rfl, rfl, rfl, rfl⟩
  intro found
  split
  · rfl
  · rfl
  · next missed => exact absurd missed found

/-- The request for which a decision was made, completed with what the decision does
not know. -/
def ExactCacheDecision.billingRequest (decision : ExactCacheDecision) (requestId : Uuid)
    (cacheKeyHash : String) (outputTokens : UInt64) (readPolicy : ExactCacheReadPolicy)
    (writePolicy : ExactCacheWritePolicy) : ExactCacheBillingRequest where
  requestId := requestId
  cacheStatus := decision.cacheStatus
  cacheKeyHash := cacheKeyHash
  cacheEntryId := decision.cacheEntryId
  inputTokens := decision.inputTokens
  outputTokens := outputTokens
  cacheReadTokens := decision.cacheReadTokens
  cacheWriteTokens := decision.cacheWriteTokens
  readPolicy := readPolicy
  writePolicy := writePolicy

/-- What the shape check asks of a request. -/
@[mk_iff]
structure WellShaped (request : ExactCacheBillingRequest) : Prop where
  within : request.cacheReadTokens ≤ request.inputTokens
  identified : request.cacheStatus ≠ .miss → request.cacheEntryId ≠ none
  hit : request.cacheStatus = .hit → request.cacheReadTokens = request.inputTokens
  miss : request.cacheStatus = .miss → request.cacheReadTokens = 0
  partialHit : request.cacheStatus = .partialHit →
    request.cacheReadTokens ≠ 0 ∧ request.cacheReadTokens ≠ request.inputTokens

theorem validateCacheRequestShape_eq_ok_iff :
    validateCacheRequestShape request = .ok done ↔ WellShaped request := by
  rw [wellShaped_iff, validateCacheRequestShape]
  cases request.cacheStatus <;> simp [bind_eq_ok]

theorem toNat_add_toNat_sub {part whole : UInt64} (within : part ≤ whole) :
    part.toNat + (whole - part).toNat = whole.toNat := by
  have bounded := UInt64.le_iff_toNat_le.mp within
  rw [UInt64.toNat_sub_of_le _ _ within]
  omega

theorem WellShaped.cachedInputTokens_le (shaped : WellShaped request) :
    request.cachedInputTokens ≤ request.inputTokens := by
  unfold cachedInputTokens
  split
  · exact shaped.within
  · exact shaped.within
  · exact UInt64.zero_le

section

variable {matched billable : UInt64}

theorem decidedStatus_eq_miss_iff : decidedStatus matched billable = .miss ↔ matched = 0 := by
  unfold decidedStatus
  split_ifs <;> simp_all

theorem decidedStatus_eq_hit_iff :
    decidedStatus matched billable = .hit ↔ matched ≠ 0 ∧ billable = 0 := by
  unfold decidedStatus
  split_ifs <;> simp_all

theorem decidedStatus_eq_partialHit_iff :
    decidedStatus matched billable = .partialHit ↔ matched ≠ 0 ∧ billable ≠ 0 := by
  unfold decidedStatus
  split_ifs <;> simp_all

end

open ExactCacheDecision

theorem wellShaped_billingRequest (decided : decideExactCacheRequest input = .ok decision)
    (requestId : Uuid) (cacheKeyHash : String) (outputTokens : UInt64)
    (readPolicy : ExactCacheReadPolicy) (writePolicy : ExactCacheWritePolicy) : WellShaped
      (decision.billingRequest requestId cacheKeyHash outputTokens readPolicy writePolicy) := by
  obtain ⟨within, identified, statusEq, entryEq, inputEq, cachedEq, billableEq, readEq, _⟩ :=
    decideExactCacheRequest_eq_ok decided
  have conserved := toNat_add_toNat_sub within
  have all_iff : input.inputTokens - input.matchedInputTokens = 0 ↔
      input.matchedInputTokens = input.inputTokens := by
    rw [← UInt64.toNat_inj, ← UInt64.toNat_inj]
    simp only [UInt64.toNat_zero]
    omega
  rw [cachedEq] at readEq statusEq
  rw [billableEq] at statusEq
  constructor
  · rw [billingRequest, readEq, inputEq]
    exact within
  · intro found
    have someMatched : input.matchedInputTokens ≠ 0 := by
      rwa [billingRequest, statusEq, Ne, decidedStatus_eq_miss_iff] at found
    rw [billingRequest, entryEq found]
    exact identified (UInt64.pos_iff_ne_zero.mpr someMatched)
  · intro hit
    rw [billingRequest, statusEq, decidedStatus_eq_hit_iff] at hit
    rw [billingRequest, readEq, inputEq]
    exact all_iff.mp hit.2
  · intro miss
    rw [billingRequest, statusEq, decidedStatus_eq_miss_iff] at miss
    rw [billingRequest, readEq]
    exact miss
  · intro partialHit
    rw [billingRequest, statusEq, decidedStatus_eq_partialHit_iff] at partialHit
    rw [billingRequest, readEq, inputEq]
    exact ⟨partialHit.1, fun all => partialHit.2 (all_iff.mpr all)⟩

/-! ## The charges of a request -/

inductive Charge where
  | free
  | tokens (count : UInt64) (ratePerMillion : FixedDecimal)
  | fixed (amount : FixedDecimal)

namespace Charge

/-- The cost of a charge, with the zero that a free part costs. -/
def cost (zero : FixedDecimal) : Charge → UsageResult FixedDecimal
  | .free => .ok zero
  | .tokens count ratePerMillion => rateTokens count ratePerMillion
  | .fixed amount => .ok amount

/-- A charge that comes to at least one unit: tokens do from half a unit on, since the
cost is rounded half up. -/
def Costs : Charge → Prop
  | .free => False
  | .tokens count ratePerMillion => 1000000 ≤ 2 * (count.toNat * ratePerMillion.units.value)
  | .fixed amount => 0 < amount.units.value

instance (charge : Charge) : Decidable charge.Costs := by
  cases charge <;> unfold Costs <;> infer_instance

/-- A fixed amount is not negative; a negative rate is refused when it is used. -/
def NonNegative : Charge → Prop
  | .fixed amount => 0 ≤ amount.units.value
  | _ => True

theorem cost_units {zero cost : FixedDecimal} {charge : Charge} (zeroUnits : zero.units.value = 0)
    (nonNegative : charge.NonNegative) (costed : charge.cost zero = .ok cost) :
    0 ≤ cost.units.value ∧ (0 < cost.units.value ↔ charge.Costs) := by
  cases charge with
  | free =>
    cases costed
    simp [Costs, zeroUnits]
  | fixed amount =>
    cases costed
    exact ⟨nonNegative, Iff.rfl⟩
  | tokens count rate =>
    obtain ⟨priced, _, unitsEq⟩ := rateTokens_eq_ok_iff.mp costed
    refine ⟨unitsEq ▸ priced.round_range.1, ?_⟩
    rw [unitsEq, exactUnits_eq, round_div_million, Costs]
    split <;> omega

end Charge

variable {zero : FixedDecimal}

namespace ExactCacheBillingRequest

variable (request : ExactCacheBillingRequest) (pricing : ExactCachePricingRules)

def inputCharge : Charge :=
  if request.cacheStatus = .hit then .free
  else .tokens request.billableInputTokens pricing.inputTokenRatePerMillion

def outputCharge : Charge :=
  if request.cacheStatus = .hit then .free
  else .tokens request.outputTokens pricing.outputTokenRatePerMillion

def fixedCharge : Charge :=
  if request.cacheStatus = .hit then .free else .fixed pricing.fixedRequestCost

def readCharge : Charge :=
  if request.cacheStatus = .miss then .free
  else
    match request.readPolicy with
    | .disabled => .free
    | .discountedInputTokens =>
      .tokens request.cacheReadTokens pricing.cacheReadTokenRatePerMillion
    | .fixedCost => .fixed pricing.fixedCacheReadCost

def writeCharge : Charge :=
  if request.cacheStatus = .hit then .free
  else
    match request.writePolicy with
    | .disabled => .free
    | .tokenRate => .tokens request.cacheWriteTokens pricing.cacheWriteTokenRatePerMillion
    | .fixedCost => .fixed pricing.fixedCacheWriteCost

def charges : List Charge :=
  [request.inputCharge pricing, request.outputCharge pricing, request.readCharge pricing,
    request.writeCharge pricing, request.fixedCharge pricing]

variable {request pricing}

theorem cacheReadCost_eq :
    request.cacheReadCost pricing zero = (request.readCharge pricing).cost zero := by
  unfold cacheReadCost readCharge
  cases request.cacheStatus <;> cases request.readPolicy <;> rfl

theorem cacheWriteCost_eq :
    request.cacheWriteCost pricing zero = (request.writeCharge pricing).cost zero := by
  unfold cacheWriteCost writeCharge
  cases request.cacheStatus <;> cases request.writePolicy <;> rfl

theorem requestCosts_eq_ok {inputCost outputCost fixedCost : FixedDecimal}
    (rated : request.requestCosts pricing zero = .ok (inputCost, outputCost, fixedCost)) :
    (request.inputCharge pricing).cost zero = .ok inputCost ∧
      (request.outputCharge pricing).cost zero = .ok outputCost ∧
      (request.fixedCharge pricing).cost zero = .ok fixedCost := by
  unfold inputCharge outputCharge fixedCharge
  unfold requestCosts at rated
  cases status : request.cacheStatus with
  | hit =>
    rw [status] at rated
    cases rated
    exact ⟨rfl, rfl, rfl⟩
  | miss | partialHit =>
    rw [status] at rated
    obtain ⟨_, inputRated, rated⟩ := bind_eq_ok.mp rated
    obtain ⟨_, outputRated, built⟩ := bind_eq_ok.mp rated
    cases built
    exact ⟨inputRated, outputRated, rfl⟩

end ExactCacheBillingRequest

/-! ## A rated request -/

theorem nonNegative_charges {pricing : ExactCachePricingRules}
    (checked : ExactCache.ensurePricingIsNonNegative pricing = .ok done)
    (request : ExactCacheBillingRequest) :
    ∀ charge ∈ request.charges pricing, charge.NonNegative := by
  simp only [ExactCache.ensurePricingIsNonNegative, ExactCache.ensureNonNegativeMoney,
    bind_eq_ok, ensure_eq_ok, exists_and_left, exists_const] at checked
  obtain ⟨_, _, _, _, readCost, writeCost, requestCost⟩ := checked
  simp only [charges, List.forall_mem_cons, List.not_mem_nil, false_implies, implies_true, and_true]
  refine ⟨?_, ?_, ?_, ?_, ?_⟩
  · unfold inputCharge
    split <;> trivial
  · unfold outputCharge
    split <;> trivial
  · unfold readCharge
    repeat' split
    all_goals first | exact trivial | exact readCost
  · unfold writeCharge
    repeat' split
    all_goals first | exact trivial | exact writeCost
  · unfold fixedCharge
    split
    · trivial
    · exact requestCost

/-- The costs of the parts, in the order in which they are added. -/
def ExactCacheRatingResult.costs (result : ExactCacheRatingResult) : List FixedDecimal :=
  [result.inputCost, result.outputCost, result.cacheReadCost, result.cacheWriteCost,
    result.fixedRequestCost]

/-- What rating computes: the cost of every charge, and their sum. -/
structure RatedRequest (request : ExactCacheBillingRequest) (pricing : ExactCachePricingRules)
    (zero : FixedDecimal) (result : ExactCacheRatingResult) : Prop where
  zeroUnits : zero.units.value = 0
  nonNegative : ∀ charge ∈ request.charges pricing, charge.NonNegative
  costed : List.Forall₂ (fun charge cost => Charge.cost zero charge = .ok cost)
    (request.charges pricing) result.costs
  sameScale : ∀ cost ∈ result.costs, cost.scale = result.totalCost.scale
  total : result.totalCost.units.value = (result.costs.map (·.units.value)).sum
  cached : result.cachedInputTokens = request.cachedInputTokens
  billable : result.billableInputTokens = request.billableInputTokens
  currency : result.currency = pricing.currency

open FixedDecimal

section

variable {pricing : ExactCachePricingRules} {result : ExactCacheRatingResult}

theorem exactCacheTotalCost_eq_ok {first second third fourth fifth total : FixedDecimal}
    (added : exactCacheTotalCost first second third fourth fifth = .ok total) :
    (∀ cost ∈ [first, second, third, fourth, fifth], cost.scale = total.scale) ∧
      total.units.value = ([first, second, third, fourth, fifth].map (·.units.value)).sum := by
  obtain ⟨tokens, tokensEq, added⟩ := bind_eq_ok.mp added
  obtain ⟨withRead, readEq, added⟩ := bind_eq_ok.mp added
  obtain ⟨withWrite, writeEq, fixedEq⟩ := bind_eq_ok.mp added
  rw [FixedDecimal.checkedAdd_eq_ok] at tokensEq readEq writeEq fixedEq
  simp only [List.forall_mem_cons, List.not_mem_nil, false_implies, implies_true, and_true,
    List.map_cons, List.map_nil, List.sum_cons, List.sum_nil]
  omega

theorem exists_ratedRequest (rated : rateExactCacheRequest request pricing = .ok result) :
    ∃ zero, RatedRequest request pricing zero result := by
  obtain ⟨_, checked, rated⟩ := bind_eq_ok.mp rated
  obtain ⟨zero, zeroEq, rated⟩ := bind_eq_ok.mp (mapError_eq_ok.mp rated)
  obtain ⟨⟨inputCost, outputCost, fixedCost⟩, costsRated, rated⟩ := bind_eq_ok.mp rated
  obtain ⟨readCost, readRated, rated⟩ := bind_eq_ok.mp rated
  obtain ⟨writeCost, writeRated, rated⟩ := bind_eq_ok.mp rated
  obtain ⟨total, added, built⟩ := bind_eq_ok.mp rated
  cases built
  obtain ⟨inputRated, outputRated, fixedRated⟩ := requestCosts_eq_ok costsRated
  rw [cacheReadCost_eq] at readRated
  rw [cacheWriteCost_eq] at writeRated
  obtain ⟨sameScale, totalEq⟩ := exactCacheTotalCost_eq_ok (mapError_eq_ok.mp added)
  refine ⟨zero, ⟨?_, nonNegative_charges checked request, ?_, sameScale, totalEq, rfl, rfl, rfl⟩⟩
  · exact (FixedDecimal.zero_eq_ok.mp (mapError_eq_ok.mp zeroEq)).1
  · exact .cons inputRated (.cons outputRated (.cons readRated (.cons writeRated
      (.cons fixedRated .nil))))

theorem sum_costs_pos_iff {charges : List Charge} {costs : List FixedDecimal}
    (zeroUnits : zero.units.value = 0) (nonNegative : ∀ charge ∈ charges, charge.NonNegative)
    (costed : List.Forall₂ (fun charge cost => Charge.cost zero charge = .ok cost) charges costs) :
    0 ≤ (costs.map (·.units.value)).sum ∧
      (0 < (costs.map (·.units.value)).sum ↔ ∃ charge ∈ charges, charge.Costs) := by
  induction costed with
  | nil => simp
  | @cons charge cost charges costs chargeCosted _ ih =>
    obtain ⟨headNonNegative, restNonNegative⟩ := List.forall_mem_cons.mp nonNegative
    obtain ⟨costNonneg, costPos⟩ := Charge.cost_units zeroUnits headNonNegative chargeCosted
    obtain ⟨sumNonneg, sumPos⟩ := ih restNonNegative
    rw [List.map_cons, List.sum_cons, List.exists_mem_cons_iff, ← costPos, ← sumPos]
    omega

variable (rated : RatedRequest request pricing zero result)

include rated

theorem RatedRequest.total_pos_iff :
    0 < result.totalCost.units.value ↔ ∃ charge ∈ request.charges pricing, charge.Costs := by
  rw [rated.total]
  exact (sum_costs_pos_iff rated.zeroUnits rated.nonNegative rated.costed).2

theorem RatedRequest.isZero_iff :
    result.totalCost.isZero = true ↔ ¬ ∃ charge ∈ request.charges pricing, charge.Costs := by
  have nonneg := (sum_costs_pos_iff rated.zeroUnits rated.nonNegative rated.costed).1
  rw [← rated.total] at nonneg
  rw [← rated.total_pos_iff, FixedDecimal.isZero_iff]
  omega

theorem RatedRequest.toRat_total :
    result.totalCost.toRat = (result.costs.map toRat).sum := by
  have inScale : result.costs.map toRat =
      result.costs.map fun cost => (cost.units.value : ℚ) / 10 ^ result.totalCost.scale := by
    apply List.map_congr_left
    intro cost costMem
    rw [toRat, rated.sameScale cost costMem]
  rw [inScale, toRat, rated.total]
  simp only [ExactCacheRatingResult.costs, List.map_cons, List.map_nil, List.sum_cons,
    List.sum_nil, add_zero, Int.cast_add, add_div]

end

/-! ## Decided requests -/

/-- What holds of a request that a decision of the cache made: billing accepts its shape,
no subtraction goes below zero, and its tokens and its costs add up. -/
structure BillableAndConserved (input : ExactCacheDecisionInput) (decision : ExactCacheDecision)
    (request : ExactCacheBillingRequest) : Prop where
  accepted : validateCacheRequestShape request = .ok ()
  inputTokens : request.inputTokens = input.inputTokens
  matched_le : input.matchedInputTokens ≤ input.inputTokens
  cached_le : request.cachedInputTokens ≤ request.inputTokens
  decided : decision.cachedInputTokens.toNat + decision.billableInputTokens.toNat =
    request.inputTokens.toNat
  rated : ∀ pricing result, rateExactCacheRequest request pricing = .ok result →
    result.cachedInputTokens.toNat + result.billableInputTokens.toNat = request.inputTokens.toNat ∧
      (∀ cost ∈ result.costs, cost.scale = result.totalCost.scale) ∧
      result.totalCost.toRat = (result.costs.map toRat).sum

/-- Cache decisions are always billable and conserve tokens. -/
theorem decided_request_billable_and_conserved (input : ExactCacheDecisionInput)
    (decision : ExactCacheDecision) (decided : decideExactCacheRequest input = .ok decision)
    (requestId : Uuid) (cacheKeyHash : String) (outputTokens : UInt64)
    (readPolicy : ExactCacheReadPolicy) (writePolicy : ExactCacheWritePolicy) :
    BillableAndConserved input decision
      (decision.billingRequest requestId cacheKeyHash outputTokens readPolicy writePolicy) := by
  have shaped := wellShaped_billingRequest decided requestId cacheKeyHash outputTokens readPolicy
    writePolicy
  obtain ⟨within, _, _, _, inputEq, cachedEq, billableEq, _⟩ :=
    decideExactCacheRequest_eq_ok decided
  refine ⟨validateCacheRequestShape_eq_ok_iff.mpr shaped, inputEq, within,
    shaped.cachedInputTokens_le, ?_, ?_⟩
  · rw [cachedEq, billableEq, toNat_add_toNat_sub within]
    exact congrArg UInt64.toNat inputEq.symm
  · intro pricing result rated
    obtain ⟨zero, rated⟩ := exists_ratedRequest rated
    refine ⟨?_, rated.sameScale, rated.toRat_total⟩
    rw [rated.cached, rated.billable]
    exact toNat_add_toNat_sub shaped.cachedInputTokens_le

/-- Four hundred of a thousand input tokens were found. -/
theorem decided_request_billable_and_conserved_partialHit :
    BillableAndConserved ⟨some (sampleId 103), 1000, 400⟩
      ⟨.partialHit, some (sampleId 103), 1000, 400, 600, 400, 600⟩
      ⟨sampleId 101, .partialHit, "sha256:", some (sampleId 103), 1000, 250, 400, 600,
        .discountedInputTokens, .tokenRate⟩ :=
  decided_request_billable_and_conserved _ _ rfl _ _ _ _ _

end FuboxApi
