import FuboxApi.UsageRating
import Mathlib.Algebra.Order.Round
import Mathlib.Data.Rat.Floor

/-!
# Rating is accurate and monotone

A category costs tokens times rate over a million, rounded half up. Rating succeeds exactly if the
scales agree, no rate that is used is negative, and no product or sum leaves the range of 128 bits.
-/

namespace FuboxApi

open CheckedFold FixedDecimal

/-! ## One category -/

/-- The exact cost of some tokens, in units of the rate. -/
def exactUnits (tokens : UInt64) (rate : FixedDecimal) : ℚ :=
  tokens.toNat * rate.units.value / 1000000

/-- The cost of some tokens: its units are the exact ones, rounded half up. -/
structure RoundedCost (tokens : UInt64) (rate cost : FixedDecimal) : Prop where
  scale : cost.scale = rate.scale
  units : cost.units.value = round (exactUnits tokens rate)
  accurate : |exactUnits tokens rate - cost.units.value| ≤ 1 / 2

section

variable {tokens : UInt64} {rate cost : FixedDecimal}

theorem exactUnits_eq (tokens : UInt64) (rate : FixedDecimal) : exactUnits tokens rate =
      (((tokens.toNat : Int) * rate.units.value : Int) : ℚ) / 1000000 := by
  push_cast
  rfl

theorem round_div_million {number : Int} : round ((number : ℚ) / 1000000) =
      if 1000000 ≤ number % 1000000 * 2 then number / 1000000 + 1 else number / 1000000 := by
  have split : (number : ℚ) = (number / 1000000 : Int) * 1000000 + (number % 1000000 : Int) := by
    exact_mod_cast (Int.ediv_mul_add_emod number 1000000).symm
  have above : (0 : ℚ) ≤ (number % 1000000 : Int) := by
    exact_mod_cast Int.emod_nonneg number (by decide)
  have below : ((number % 1000000 : Int) : ℚ) < 1000000 := by
    exact_mod_cast Int.emod_lt_of_pos number (by decide)
  rw [round_eq, Int.floor_eq_iff]
  split
  · next up =>
    have up : (1000000 : ℚ) ≤ (number % 1000000 : Int) * 2 := by exact_mod_cast up
    push_cast
    constructor <;> linarith
  · next down =>
    have down : ((number % 1000000 : Int) : ℚ) * 2 < 1000000 := by exact_mod_cast not_le.mp down
    constructor <;> linarith

theorem divRoundHalfUp_eq_ok_iff {numerator units : I128} (nonneg : 0 ≤ numerator.value) :
    divRoundHalfUp numerator tokensPerMillion = .ok units ↔
      units.value = round ((numerator.value : ℚ) / 1000000) := by
  have valid : ¬ (tokensPerMillion ≤ 0 ∨ numerator.value < 0) := by
    rintro (denominator | negative)
    · exact absurd denominator (by decide)
    · exact absurd nonneg (not_le.mpr negative)
  rw [divRoundHalfUp, if_neg valid, okOr_eq_ok, BoundedInt.checked_eq_some_iff,
    round_div_million, Int.tdiv_eq_ediv_of_nonneg nonneg, Int.tmod_eq_emod_of_nonneg nonneg]
  rfl

/-- What rating one category succeeds on: a rate that is not negative, and a product
that is in range. -/
structure Priced (tokens : UInt64) (rate : FixedDecimal) : Prop where
  nonneg : 0 ≤ rate.units.value
  product : tokens.toNat * rate.units.value ≤ 2 ^ 127 - 1

theorem rateTokens_eq_ok_iff : rateTokens tokens rate = .ok cost ↔
      Priced tokens rate ∧ cost.scale = rate.scale ∧
        cost.units.value = round (exactUnits tokens rate) := by
  unfold rateTokens
  split
  · next negative =>
    refine iff_of_false (by simp) fun priced => ?_
    exact absurd priced.1.nonneg (not_le.mpr negative)
  · next notNegative =>
    have nonneg : 0 ≤ rate.units.value := not_lt.mp notNegative
    have productNonneg : 0 ≤ (tokens.toNat : Int) * rate.units.value := by positivity
    rw [mapError_eq_ok, exactUnits_eq]
    constructor
    · intro rated
      obtain ⟨numerator, product, rated⟩ := bind_eq_ok.mp rated
      obtain ⟨units, divided, built⟩ := bind_eq_ok.mp rated
      have numeratorEq := BoundedInt.checked_eq_some_iff.mp (okOr_eq_ok.mp product)
      have unitsEq := (divRoundHalfUp_eq_ok_iff (numeratorEq ▸ productNonneg)).mp divided
      obtain ⟨costUnits, scaleEq⟩ := fromUnits_eq_ok.mp built
      refine ⟨⟨nonneg, numeratorEq ▸ numerator.le_highest⟩, scaleEq, ?_⟩
      rw [costUnits, unitsEq, numeratorEq]
    · rintro ⟨priced, scaleEq, unitsEq⟩
      have above : -2 ^ 127 ≤ (tokens.toNat : Int) * rate.units.value := by omega
      refine bind_eq_ok.mpr ⟨⟨_, above, priced.product⟩,
        okOr_eq_ok.mpr (BoundedInt.checked_eq_some_iff.mpr rfl), ?_⟩
      refine bind_eq_ok.mpr ⟨cost.units, (divRoundHalfUp_eq_ok_iff productNonneg).mpr unitsEq, ?_⟩
      exact fromUnits_eq_ok.mpr ⟨rfl, scaleEq⟩

theorem Priced.round_range (priced : Priced tokens rate) :
    0 ≤ round (exactUnits tokens rate) ∧ round (exactUnits tokens rate) ≤ 2 ^ 127 - 1 := by
  have productNonneg : 0 ≤ (tokens.toNat : Int) * rate.units.value :=
    mul_nonneg (Int.natCast_nonneg _) priced.nonneg
  have bounded := priced.product
  rw [exactUnits_eq, round_div_million]
  split <;> omega

theorem exists_rateTokens_eq_ok :
    (∃ cost, rateTokens tokens rate = .ok cost) ↔ Priced tokens rate := by
  constructor
  · rintro ⟨cost, rated⟩
    exact (rateTokens_eq_ok_iff.mp rated).1
  · intro priced
    have range := priced.round_range
    exact ⟨⟨⟨_, by omega, range.2⟩, rate.scale, rate.scale_le⟩,
      rateTokens_eq_ok_iff.mpr ⟨priced, rfl, rfl⟩⟩

theorem roundedCost_of_rateTokens (rated : rateTokens tokens rate = .ok cost) :
    RoundedCost tokens rate cost := by
  obtain ⟨_, scaleEq, unitsEq⟩ := rateTokens_eq_ok_iff.mp rated
  refine ⟨scaleEq, unitsEq, ?_⟩
  rw [unitsEq]
  exact abs_sub_round _

end

/-! ## A whole usage -/

def ratedCategories (pricing : PricingRules) (usage : ExtendedTokenUsage) :
    List (UInt64 × FixedDecimal) :=
  (usage.inputTokens, pricing.inputTokenRatePerMillion) ::
    (usage.outputTokens, pricing.outputTokenRatePerMillion) ::
    ((usage.cacheTokens.map (·, pricing.cacheTokenRatePerMillion)).toList ++
      (usage.reasoningTokens.map (·, pricing.reasoningTokenRatePerMillion)).toList)

/-- The cost of all categories, without the fixed cost. -/
def categoryUnits (pricing : PricingRules) (usage : ExtendedTokenUsage) : Int :=
  ((ratedCategories pricing usage).map fun category => round (exactUnits category.1 category.2)).sum

structure Ratable (pricing : PricingRules) (usage : ExtendedTokenUsage) : Prop where
  priced : ∀ category ∈ ratedCategories pricing usage, Priced category.1 category.2
  sameScale : ∀ category ∈ ratedCategories pricing usage,
    category.2.scale = pricing.fixedRequestCost.scale
  -- a category that is not reported costs zero in the scale of the rules
  zeroScale : pricing.scale ≤ maxMoneyScale ∧
    (usage.cacheTokens = none ∨ usage.reasoningTokens = none →
      pricing.scale = pricing.fixedRequestCost.scale)
  parts : categoryUnits pricing usage ≤ 2 ^ 127 - 1
  total : categoryUnits pricing usage + pricing.fixedRequestCost.units.value ≤ 2 ^ 127 - 1

structure AccuratelyRated (pricing : PricingRules) (usage : ExtendedTokenUsage)
    (result : RatingResult) : Prop where
  input : RoundedCost usage.inputTokens pricing.inputTokenRatePerMillion result.inputCost
  output : RoundedCost usage.outputTokens pricing.outputTokenRatePerMillion result.outputCost
  cache : Option.Rel (RoundedCost · pricing.cacheTokenRatePerMillion ·)
    usage.cacheTokens result.cacheCost
  reasoning : Option.Rel (RoundedCost · pricing.reasoningTokenRatePerMillion ·)
    usage.reasoningTokens result.reasoningCost
  total : result.totalCost.units.value =
    result.inputCost.units.value + result.outputCost.units.value +
      result.cacheCost.elim 0 (·.units.value) + result.reasoningCost.elim 0 (·.units.value) +
      pricing.fixedRequestCost.units.value

section

variable {pricing : PricingRules} {usage : ExtendedTokenUsage} {result : RatingResult}
  {cost : Option FixedDecimal} {rate : FixedDecimal} {tokens : Option UInt64}
  {property : UInt64 × FixedDecimal → Prop}

theorem rated_of_rateCategory (rated : rateCategory tokens rate = .ok cost) :
    Option.Rel (fun tokens cost => rateTokens tokens rate = .ok cost) tokens cost := by
  cases tokens with
  | none =>
    cases rated
    exact .none
  | some tokens =>
    obtain ⟨cost, tokensRated, rfl⟩ := map_eq_ok.mp rated
    exact .some tokensRated

theorem rateUsage_eq_ok_iff : rateUsage pricing usage = .ok result ↔
      rateTokens usage.inputTokens pricing.inputTokenRatePerMillion = .ok result.inputCost ∧
        rateTokens usage.outputTokens pricing.outputTokenRatePerMillion = .ok result.outputCost ∧
        rateCategory usage.cacheTokens pricing.cacheTokenRatePerMillion = .ok result.cacheCost ∧
        rateCategory usage.reasoningTokens pricing.reasoningTokenRatePerMillion =
          .ok result.reasoningCost ∧
        totalCost pricing result.inputCost result.outputCost result.cacheCost
          result.reasoningCost = .ok result.totalCost ∧
        result.usage = usage ∧ result.fixedRequestCost = pricing.fixedRequestCost ∧
        result.currency = pricing.currency ∧ result.scale = pricing.scale := by
  constructor
  · intro rated
    obtain ⟨inputCost, inputRated, rated⟩ := bind_eq_ok.mp rated
    obtain ⟨outputCost, outputRated, rated⟩ := bind_eq_ok.mp rated
    obtain ⟨cacheCost, cacheRated, rated⟩ := bind_eq_ok.mp rated
    obtain ⟨reasoningCost, reasoningRated, rated⟩ := bind_eq_ok.mp rated
    obtain ⟨total, added, built⟩ := bind_eq_ok.mp rated
    cases built
    exact ⟨inputRated, outputRated, cacheRated, reasoningRated, mapError_eq_ok.mp added,
      rfl, rfl, rfl, rfl⟩
  · rintro ⟨inputRated, outputRated, cacheRated, reasoningRated, added, rfl, fixedEq,
      currencyEq, scaleEq⟩
    refine bind_eq_ok.mpr ⟨_, inputRated, bind_eq_ok.mpr ⟨_, outputRated, ?_⟩⟩
    refine bind_eq_ok.mpr ⟨_, cacheRated, bind_eq_ok.mpr ⟨_, reasoningRated, ?_⟩⟩
    refine bind_eq_ok.mpr ⟨_, mapError_eq_ok.mpr added, ?_⟩
    cases result
    cases fixedEq
    cases currencyEq
    cases scaleEq
    rfl

def costUnits (cost : Option FixedDecimal) : Int :=
  cost.elim 0 (·.units.value)

def costScale (pricing : PricingRules) (cost : Option FixedDecimal) : Nat :=
  cost.elim pricing.scale (·.scale)

theorem getD_zero {zero : FixedDecimal} (zeroEq : FixedDecimal.zero pricing.scale = .ok zero)
    (cost : Option FixedDecimal) : (cost.getD zero).units.value = costUnits cost ∧
      (cost.getD zero).scale = costScale pricing cost := by
  obtain ⟨unitsEq, scaleEq⟩ := FixedDecimal.zero_eq_ok.mp zeroEq
  cases cost with
  | none => exact ⟨unitsEq, scaleEq⟩
  | some cost => exact ⟨rfl, rfl⟩

variable {inputCost outputCost total : FixedDecimal} {cacheCost reasoningCost : Option FixedDecimal}

theorem totalCost_eq_ok
    (added : totalCost pricing inputCost outputCost cacheCost reasoningCost = .ok total) :
    pricing.scale ≤ maxMoneyScale ∧ (inputCost.scale = pricing.fixedRequestCost.scale ∧
        outputCost.scale = pricing.fixedRequestCost.scale ∧
        costScale pricing cacheCost = pricing.fixedRequestCost.scale ∧
        costScale pricing reasoningCost = pricing.fixedRequestCost.scale ∧
        total.scale = pricing.fixedRequestCost.scale) ∧
      inputCost.units.value + outputCost.units.value + costUnits cacheCost +
          costUnits reasoningCost ≤ 2 ^ 127 - 1 ∧
      total.units.value = inputCost.units.value + outputCost.units.value + costUnits cacheCost +
        costUnits reasoningCost + pricing.fixedRequestCost.units.value := by
  obtain ⟨tokens, tokensEq, added⟩ := bind_eq_ok.mp added
  obtain ⟨zero, zeroEq, added⟩ := bind_eq_ok.mp added
  obtain ⟨withCache, cacheEq, added⟩ := bind_eq_ok.mp added
  obtain ⟨withReasoning, reasoningEq, fixedEq⟩ := bind_eq_ok.mp added
  have zeroScale := zero.scale_le
  have bounded := withReasoning.units.le_highest
  rw [FixedDecimal.checkedAdd_eq_ok] at tokensEq cacheEq reasoningEq fixedEq
  rw [(getD_zero zeroEq cacheCost).1, (getD_zero zeroEq cacheCost).2] at cacheEq
  rw [(getD_zero zeroEq reasoningCost).1, (getD_zero zeroEq reasoningCost).2] at reasoningEq
  rw [(FixedDecimal.zero_eq_ok.mp zeroEq).2] at zeroScale
  omega

theorem exists_totalCost_eq_ok (inputNonneg : 0 ≤ inputCost.units.value)
    (outputNonneg : 0 ≤ outputCost.units.value) (cacheNonneg : 0 ≤ costUnits cacheCost)
    (reasoningNonneg : 0 ≤ costUnits reasoningCost) (scaleLe : pricing.scale ≤ maxMoneyScale)
    (inputScale : inputCost.scale = pricing.fixedRequestCost.scale)
    (outputScale : outputCost.scale = pricing.fixedRequestCost.scale)
    (cacheScale : costScale pricing cacheCost = pricing.fixedRequestCost.scale)
    (reasoningScale : costScale pricing reasoningCost = pricing.fixedRequestCost.scale)
    (partsFit : inputCost.units.value + outputCost.units.value + costUnits cacheCost +
      costUnits reasoningCost ≤ 2 ^ 127 - 1)
    (totalFits : inputCost.units.value + outputCost.units.value + costUnits cacheCost +
      costUnits reasoningCost + pricing.fixedRequestCost.units.value ≤ 2 ^ 127 - 1) :
    ∃ total, totalCost pricing inputCost outputCost cacheCost reasoningCost = .ok total := by
  let zero : FixedDecimal := ⟨zeroUnits, pricing.scale, scaleLe⟩
  have zeroEq : FixedDecimal.zero pricing.scale = .ok zero := FixedDecimal.zero_eq_ok.mpr ⟨rfl, rfl⟩
  obtain ⟨cacheUnits, cacheScaleEq⟩ := getD_zero zeroEq cacheCost
  obtain ⟨reasoningUnits, reasoningScaleEq⟩ := getD_zero zeroEq reasoningCost
  have fixedAbove := pricing.fixedRequestCost.units.lowest_le
  obtain ⟨tokens, tokensEq, tokensScale, tokensUnits⟩ :=
    inputCost.exists_checkedAdd outputCost (by omega) (by omega) (by omega)
  obtain ⟨withCache, cacheEq, withCacheScale, withCacheUnits⟩ :=
    tokens.exists_checkedAdd (cacheCost.getD zero) (by omega) (by omega) (by omega)
  obtain ⟨withReasoning, reasoningEq, withReasoningScale, withReasoningUnits⟩ :=
    withCache.exists_checkedAdd (reasoningCost.getD zero) (by omega) (by omega) (by omega)
  obtain ⟨total, totalEq, _⟩ :=
    withReasoning.exists_checkedAdd pricing.fixedRequestCost (by omega) (by omega) (by omega)
  exact ⟨total, bind_eq_ok.mpr ⟨tokens, tokensEq, bind_eq_ok.mpr ⟨zero, zeroEq,
    bind_eq_ok.mpr ⟨withCache, cacheEq, bind_eq_ok.mpr ⟨withReasoning, reasoningEq, totalEq⟩⟩⟩⟩⟩

theorem forall_mem_category : (∀ category ∈ (tokens.map (·, rate)).toList, property category) ↔
      ∀ count ∈ tokens, property (count, rate) := by
  cases tokens <;> simp

theorem exists_rateCategory_eq_ok :
    (∃ cost, rateCategory tokens rate = .ok cost) ↔ ∀ count ∈ tokens, Priced count rate := by
  cases tokens with
  | none => exact iff_of_true ⟨none, rfl⟩ (by simp)
  | some count =>
    simp only [rateCategory, map_eq_ok, Option.mem_def, Option.some.injEq, forall_eq']
    rw [← exists_rateTokens_eq_ok]
    constructor
    · rintro ⟨_, cost, rated, _⟩
      exact ⟨cost, rated⟩
    · rintro ⟨cost, rated⟩
      exact ⟨some cost, cost, rated, rfl⟩

theorem rateCategory_units (rated : rateCategory tokens rate = .ok cost) (pricing : PricingRules) :
    costUnits cost = tokens.elim 0 (fun count => round (exactUnits count rate)) ∧
      0 ≤ costUnits cost ∧ ∀ scale, costScale pricing cost = scale ↔
        (tokens = none → pricing.scale = scale) ∧ ∀ count ∈ tokens, rate.scale = scale := by
  rcases rated_of_rateCategory rated with ⟨tokensRated⟩ | _
  · obtain ⟨priced, scaleEq, unitsEq⟩ := rateTokens_eq_ok_iff.mp tokensRated
    exact ⟨unitsEq, priced.round_range.1.trans_eq unitsEq.symm, by simp [costScale, scaleEq]⟩
  · exact ⟨rfl, le_rfl, by simp [costScale]⟩

theorem categoryUnits_eq (pricing : PricingRules) (usage : ExtendedTokenUsage) :
    categoryUnits pricing usage =
      round (exactUnits usage.inputTokens pricing.inputTokenRatePerMillion) +
        round (exactUnits usage.outputTokens pricing.outputTokenRatePerMillion) +
        usage.cacheTokens.elim 0 (fun count =>
          round (exactUnits count pricing.cacheTokenRatePerMillion)) +
        usage.reasoningTokens.elim 0 (fun count =>
          round (exactUnits count pricing.reasoningTokenRatePerMillion)) := by
  unfold categoryUnits ratedCategories
  cases usage.cacheTokens <;> cases usage.reasoningTokens <;> simp <;> ring

theorem forall_mem_ratedCategories :
    (∀ category ∈ ratedCategories pricing usage, property category) ↔
      property (usage.inputTokens, pricing.inputTokenRatePerMillion) ∧
        property (usage.outputTokens, pricing.outputTokenRatePerMillion) ∧
        (∀ count ∈ usage.cacheTokens, property (count, pricing.cacheTokenRatePerMillion)) ∧
        ∀ count ∈ usage.reasoningTokens,
          property (count, pricing.reasoningTokenRatePerMillion) := by
  rw [ratedCategories, List.forall_mem_cons, List.forall_mem_cons, List.forall_mem_append,
    forall_mem_category, forall_mem_category]

theorem totalCost_of_rateUsage (rated : rateUsage pricing usage = .ok result) :
    result.totalCost.scale = pricing.fixedRequestCost.scale ∧
      categoryUnits pricing usage ≤ 2 ^ 127 - 1 ∧ result.totalCost.units.value =
        categoryUnits pricing usage + pricing.fixedRequestCost.units.value := by
  obtain ⟨inputRated, outputRated, cacheRated, reasoningRated, added, _⟩ :=
    rateUsage_eq_ok_iff.mp rated
  obtain ⟨_, _, inputUnits⟩ := rateTokens_eq_ok_iff.mp inputRated
  obtain ⟨_, _, outputUnits⟩ := rateTokens_eq_ok_iff.mp outputRated
  obtain ⟨cacheUnits, _⟩ := rateCategory_units cacheRated pricing
  obtain ⟨reasoningUnits, _⟩ := rateCategory_units reasoningRated pricing
  obtain ⟨_, scales, partsFit, totalEq⟩ := totalCost_eq_ok added
  rw [inputUnits, outputUnits, cacheUnits, reasoningUnits, ← categoryUnits_eq] at partsFit totalEq
  exact ⟨scales.2.2.2.2, partsFit, totalEq⟩

theorem ratable_of_rateUsage (rated : rateUsage pricing usage = .ok result) :
    Ratable pricing usage := by
  obtain ⟨inputRated, outputRated, cacheRated, reasoningRated, added, _⟩ :=
    rateUsage_eq_ok_iff.mp rated
  obtain ⟨inputPriced, inputScale, _⟩ := rateTokens_eq_ok_iff.mp inputRated
  obtain ⟨outputPriced, outputScale, _⟩ := rateTokens_eq_ok_iff.mp outputRated
  have cachePriced := exists_rateCategory_eq_ok.mp ⟨_, cacheRated⟩
  have reasoningPriced := exists_rateCategory_eq_ok.mp ⟨_, reasoningRated⟩
  obtain ⟨_, _, cacheScale⟩ := rateCategory_units cacheRated pricing
  obtain ⟨_, _, reasoningScale⟩ := rateCategory_units reasoningRated pricing
  obtain ⟨scaleLe, scales, _⟩ := totalCost_eq_ok added
  obtain ⟨_, partsFit, totalEq⟩ := totalCost_of_rateUsage rated
  have totalFits := result.totalCost.units.le_highest
  rw [inputScale, outputScale, cacheScale, reasoningScale] at scales
  obtain ⟨inputSame, outputSame, cacheSame, reasoningSame, _⟩ := scales
  refine ⟨forall_mem_ratedCategories.mpr ⟨inputPriced, outputPriced, cachePriced, reasoningPriced⟩,
    forall_mem_ratedCategories.mpr ⟨inputSame, outputSame, cacheSame.2, reasoningSame.2⟩,
    ⟨scaleLe, fun unreported => unreported.elim cacheSame.1 reasoningSame.1⟩, partsFit, ?_⟩
  rw [← totalEq]
  exact totalFits

theorem exists_rateUsage_of_ratable (ratable : Ratable pricing usage) :
    ∃ result, rateUsage pricing usage = .ok result := by
  obtain ⟨inputPriced, outputPriced, cachePriced, reasoningPriced⟩ :=
    forall_mem_ratedCategories.mp ratable.priced
  obtain ⟨inputSame, outputSame, cacheSame, reasoningSame⟩ :=
    forall_mem_ratedCategories.mp ratable.sameScale
  obtain ⟨scaleLe, zeroSame⟩ := ratable.zeroScale
  obtain ⟨inputCost, inputRated⟩ := exists_rateTokens_eq_ok.mpr inputPriced
  obtain ⟨outputCost, outputRated⟩ := exists_rateTokens_eq_ok.mpr outputPriced
  obtain ⟨cacheCost, cacheRated⟩ := exists_rateCategory_eq_ok.mpr cachePriced
  obtain ⟨reasoningCost, reasoningRated⟩ := exists_rateCategory_eq_ok.mpr reasoningPriced
  obtain ⟨_, inputScale, inputUnits⟩ := rateTokens_eq_ok_iff.mp inputRated
  obtain ⟨_, outputScale, outputUnits⟩ := rateTokens_eq_ok_iff.mp outputRated
  obtain ⟨cacheUnits, cacheNonneg, cacheScale⟩ := rateCategory_units cacheRated pricing
  obtain ⟨reasoningUnits, reasoningNonneg, reasoningScale⟩ :=
    rateCategory_units reasoningRated pricing
  have partsEq : inputCost.units.value + outputCost.units.value + costUnits cacheCost +
      costUnits reasoningCost = categoryUnits pricing usage := by
    rw [inputUnits, outputUnits, cacheUnits, reasoningUnits, categoryUnits_eq]
  obtain ⟨total, added⟩ := exists_totalCost_eq_ok (inputUnits ▸ inputPriced.round_range.1)
    (outputUnits ▸ outputPriced.round_range.1) cacheNonneg reasoningNonneg scaleLe
    (inputScale.trans inputSame) (outputScale.trans outputSame)
    ((cacheScale _).mpr ⟨fun unreported => zeroSame (.inl unreported), cacheSame⟩)
    ((reasoningScale _).mpr ⟨fun unreported => zeroSame (.inr unreported), reasoningSame⟩)
    (partsEq ▸ ratable.parts) (partsEq ▸ ratable.total)
  exact ⟨⟨usage, inputCost, outputCost, cacheCost, reasoningCost, pricing.fixedRequestCost,
    total, pricing.currency, pricing.scale⟩, rateUsage_eq_ok_iff.mpr
      ⟨inputRated, outputRated, cacheRated, reasoningRated, added, rfl, rfl, rfl, rfl⟩⟩

theorem exists_rateUsage_eq_ok :
    (∃ result, rateUsage pricing usage = .ok result) ↔ Ratable pricing usage :=
  ⟨fun ⟨_, rated⟩ => ratable_of_rateUsage rated, exists_rateUsage_of_ratable⟩

theorem roundedCost_of_rateCategory (rated : rateCategory tokens rate = .ok cost) :
    Option.Rel (RoundedCost · rate ·) tokens cost := by
  rcases rated_of_rateCategory rated with ⟨tokensRated⟩ | _
  · exact .some (roundedCost_of_rateTokens tokensRated)
  · exact .none

theorem accuratelyRated_of_rateUsage (rated : rateUsage pricing usage = .ok result) :
    AccuratelyRated pricing usage result := by
  obtain ⟨inputRated, outputRated, cacheRated, reasoningRated, added, _⟩ :=
    rateUsage_eq_ok_iff.mp rated
  exact ⟨roundedCost_of_rateTokens inputRated, roundedCost_of_rateTokens outputRated,
    roundedCost_of_rateCategory cacheRated, roundedCost_of_rateCategory reasoningRated,
    (totalCost_eq_ok added).2.2.2⟩

end

/-! ## Monotonicity -/

/-- No token count is larger; a category that is not reported has no tokens. -/
structure UsageAtMost (smaller larger : ExtendedTokenUsage) : Prop where
  input : smaller.inputTokens ≤ larger.inputTokens
  output : smaller.outputTokens ≤ larger.outputTokens
  cache : smaller.cacheTokens.getD 0 ≤ larger.cacheTokens.getD 0
  reasoning : smaller.reasoningTokens.getD 0 ≤ larger.reasoningTokens.getD 0

/-- No rate is larger, in the same scale. -/
structure RatesAtMost (smaller larger : PricingRules) : Prop where
  input : smaller.inputTokenRatePerMillion.units.value ≤ larger.inputTokenRatePerMillion.units.value
  output : smaller.outputTokenRatePerMillion.units.value ≤
    larger.outputTokenRatePerMillion.units.value
  cache : smaller.cacheTokenRatePerMillion.units.value ≤ larger.cacheTokenRatePerMillion.units.value
  reasoning : smaller.reasoningTokenRatePerMillion.units.value ≤
    larger.reasoningTokenRatePerMillion.units.value
  fixed : smaller.fixedRequestCost.units.value ≤ larger.fixedRequestCost.units.value
  scale : smaller.fixedRequestCost.scale = larger.fixedRequestCost.scale

section

variable {largerRate smallerRate : FixedDecimal} {largerTokens smallerTokens : UInt64}

section

variable (tokensLe : smallerTokens ≤ largerTokens)
  (rateLe : smallerRate.units.value ≤ largerRate.units.value)
  (nonneg : 0 ≤ smallerRate.units.value)

include tokensLe rateLe nonneg

theorem exactUnits_mono :
    exactUnits smallerTokens smallerRate ≤ exactUnits largerTokens largerRate := by
  have tokensLe : (smallerTokens.toNat : ℚ) ≤ largerTokens.toNat := by
    exact_mod_cast UInt64.le_iff_toNat_le.mp tokensLe
  unfold exactUnits
  gcongr

theorem round_exactUnits_mono :
    round (exactUnits smallerTokens smallerRate) ≤ round (exactUnits largerTokens largerRate) := by
  rw [round_eq, round_eq]
  exact Int.floor_le_floor (add_le_add_left (exactUnits_mono tokensLe rateLe nonneg) _)

end

theorem costUnits_mono {smallerTokens largerTokens : Option UInt64}
    {smallerCost largerCost : Option FixedDecimal}
    (tokensLe : smallerTokens.getD 0 ≤ largerTokens.getD 0)
    (rateLe : smallerRate.units.value ≤ largerRate.units.value)
    (smallerRated : rateCategory smallerTokens smallerRate = .ok smallerCost)
    (largerRated : rateCategory largerTokens largerRate = .ok largerCost) (pricing : PricingRules) :
    costUnits smallerCost ≤ costUnits largerCost := by
  obtain ⟨smallerUnits, _⟩ := rateCategory_units smallerRated pricing
  obtain ⟨largerUnits, largerNonneg, _⟩ := rateCategory_units largerRated pricing
  cases smallerTokens with
  | none => exact smallerUnits.trans_le largerNonneg
  | some count =>
    have priced := exists_rateCategory_eq_ok.mp ⟨_, smallerRated⟩ count rfl
    cases largerTokens with
    | some largerCount =>
      rw [smallerUnits, largerUnits]
      exact round_exactUnits_mono tokensLe rateLe priced.nonneg
    | none =>
      -- the count is zero, and so is its cost
      have countZero : count.toNat = 0 := Nat.le_zero.mp (UInt64.le_iff_toNat_le.mp tokensLe)
      rw [smallerUnits, largerUnits]
      simp [exactUnits, countZero]

end

/-- Rating gives every category its rounded cost and adds them up, does not decrease
when a token count or a rate increases, and succeeds exactly on what is ratable. -/
theorem usage_rating_accurate_and_monotone :
    (∀ pricing usage result, rateUsage pricing usage = .ok result →
        AccuratelyRated pricing usage result) ∧
      (∀ smaller larger smallerUsage largerUsage smallerResult largerResult,
        RatesAtMost smaller larger → UsageAtMost smallerUsage largerUsage →
        rateUsage smaller smallerUsage = .ok smallerResult →
        rateUsage larger largerUsage = .ok largerResult →
          smallerResult.totalCost.scale = largerResult.totalCost.scale ∧
            smallerResult.totalCost.units.value ≤ largerResult.totalCost.units.value) ∧
      ∀ pricing usage, (∃ result, rateUsage pricing usage = .ok result) ↔
        Ratable pricing usage := by
  refine ⟨fun _ _ _ => accuratelyRated_of_rateUsage, ?_, fun _ _ => exists_rateUsage_eq_ok⟩
  intro smaller larger smallerUsage largerUsage smallerResult largerResult rates usages
    smallerRated largerRated
  obtain ⟨smallerInput, smallerOutput, smallerCache, smallerReasoning, smallerAdded, _⟩ :=
    rateUsage_eq_ok_iff.mp smallerRated
  obtain ⟨largerInput, largerOutput, largerCache, largerReasoning, largerAdded, _⟩ :=
    rateUsage_eq_ok_iff.mp largerRated
  obtain ⟨_, smallerScales, _, smallerTotal⟩ := totalCost_eq_ok smallerAdded
  obtain ⟨_, largerScales, _, largerTotal⟩ := totalCost_eq_ok largerAdded
  obtain ⟨inputPriced, _, smallerInputUnits⟩ := rateTokens_eq_ok_iff.mp smallerInput
  obtain ⟨outputPriced, _, smallerOutputUnits⟩ := rateTokens_eq_ok_iff.mp smallerOutput
  obtain ⟨_, _, largerInputUnits⟩ := rateTokens_eq_ok_iff.mp largerInput
  obtain ⟨_, _, largerOutputUnits⟩ := rateTokens_eq_ok_iff.mp largerOutput
  have inputLe := round_exactUnits_mono usages.input rates.input inputPriced.nonneg
  have outputLe := round_exactUnits_mono usages.output rates.output outputPriced.nonneg
  have cacheLe := costUnits_mono usages.cache rates.cache smallerCache largerCache smaller
  have reasoningLe :=
    costUnits_mono usages.reasoning rates.reasoning smallerReasoning largerReasoning smaller
  have fixedLe := rates.fixed
  have sameScale := rates.scale
  constructor <;> omega

/-- Rules with one rate, in units of the eighth place. -/
def inputPricing (rate : I128) : PricingRules :=
  ⟨"USD", 8, ⟨rate, 8, by decide⟩, ⟨zeroUnits, 8, by decide⟩, ⟨zeroUnits, 8, by decide⟩,
    ⟨zeroUnits, 8, by decide⟩, ⟨zeroUnits, 8, by decide⟩⟩

def inputUsage (tokens : UInt64) : ExtendedTokenUsage :=
  ⟨tokens, 0, none, none⟩

/-- What an input costs alone. -/
def inputRating (tokens : UInt64) (units : I128) : RatingResult :=
  ⟨inputUsage tokens, ⟨units, 8, by decide⟩, ⟨zeroUnits, 8, by decide⟩, none, none,
    ⟨zeroUnits, 8, by decide⟩, ⟨units, 8, by decide⟩, "USD", 8⟩

/-- Half a unit is rounded up. -/
theorem usage_rating_accurate_and_monotone_half :
    rateUsage (inputPricing ⟨5, by decide, by decide⟩) (inputUsage 100000) =
        .ok (inputRating 100000 ⟨1, by decide, by decide⟩) ∧
      AccuratelyRated (inputPricing ⟨5, by decide, by decide⟩) (inputUsage 100000)
        (inputRating 100000 ⟨1, by decide, by decide⟩) :=
  ⟨by decide +kernel, usage_rating_accurate_and_monotone.1 _ _ _ (by decide +kernel)⟩

/-- The cost is the largest integer, but its product with a million is out of range. -/
theorem rateUsage_product_overflow :
    categoryUnits (inputPricing ⟨2 ^ 127 - 1, by decide, by decide⟩) (inputUsage 1000000) =
        2 ^ 127 - 1 ∧
      rateUsage (inputPricing ⟨2 ^ 127 - 1, by decide, by decide⟩) (inputUsage 1000000) =
        .error (.arithmetic .arithmeticOverflow) :=
  ⟨by decide +kernel, by decide +kernel⟩

end FuboxApi
