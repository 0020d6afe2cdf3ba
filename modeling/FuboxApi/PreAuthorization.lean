import FuboxApi.ChatTables
import FuboxApi.DecimalRoundTrip

/-!
# What pre-authorization lets through

Wallet and budgets are printed with eight places and parsed in the scale of the pricing rules. An
amount that does not parse counts as absent, and absent amounts are not checked.
-/

namespace FuboxApi

open AsyncProgram CheckedFold FixedDecimal

/-! ## The printed amounts -/

variable {scale : Nat}

section

variable {value : ℚ} {units : Int}

theorem scaled_small (small : units.natAbs < 10 ^ 20) (scaleLe : scale ≤ maxMoneyScale) :
    units.natAbs * 10 ^ (scale - moneyColumn.scale) < 2 ^ 127 := by
  have factor : 10 ^ (scale - moneyColumn.scale) ≤ 10 ^ 18 :=
    Nat.pow_le_pow_right (by decide) ((Nat.sub_le _ _).trans scaleLe)
  calc units.natAbs * 10 ^ (scale - moneyColumn.scale)
      ≤ 10 ^ 20 * 10 ^ 18 := Nat.mul_le_mul small.le factor
    _ < 2 ^ 127 := by norm_num

theorem parsePreAuthorizeAmount_eq_some (small : units.natAbs < 10 ^ 20)
    (wide : moneyColumn.scale ≤ scale) (scaleLe : scale ≤ maxMoneyScale) :
    ∃ amount, parsePreAuthorizeAmount (units / 10 ^ moneyColumn.scale) scale = some amount ∧
      amount.scale = scale ∧ amount.units.value = units * 10 ^ (scale - moneyColumn.scale) := by
  have bound := scaled_small small scaleLe
  have absolute : (units * 10 ^ (scale - moneyColumn.scale)).natAbs < 2 ^ 127 := by
    rwa [Int.natAbs_mul, Int.natAbs_pow]
  let amount : FixedDecimal :=
    ⟨⟨units * 10 ^ (scale - moneyColumn.scale), by omega, by omega⟩, scale, scaleLe⟩
  have parsed : parse _ scale = .ok amount :=
    parse_text_eq_ok_iff.mpr ⟨wide, scaleLe, bound, rfl, rfl⟩
  refine ⟨amount, ?_, rfl, rfl⟩
  rw [parsePreAuthorizeAmount, moneyText_units, parsed]
  rfl

theorem exists_parsePreAuthorizeAmount (stored : moneyColumn.Stores value)
    (wide : moneyColumn.scale ≤ scale) (scaleLe : scale ≤ maxMoneyScale) :
    ∃ amount, parsePreAuthorizeAmount value scale = some amount ∧ amount.scale = scale ∧
      amount.toRat = value := by
  obtain ⟨units, rfl, small⟩ := exists_units_of_stores stored
  obtain ⟨amount, parsed, scaleEq, unitsEq⟩ := parsePreAuthorizeAmount_eq_some small wide scaleLe
  refine ⟨amount, parsed, scaleEq, ?_⟩
  have split : (10 : ℚ) ^ scale = 10 ^ moneyColumn.scale * 10 ^ (scale - moneyColumn.scale) := by
    rw [← pow_add, Nat.add_sub_cancel' wide]
  rw [toRat, unitsEq, scaleEq, split]
  push_cast
  field_simp

theorem parsePreAuthorizeAmount_eq_none (narrow : scale < moneyColumn.scale) :
    parsePreAuthorizeAmount value scale = none := by
  rw [parsePreAuthorizeAmount]
  cases parsed : parse (moneyText value) scale with
  | error error => rfl
  | ok amount => exact absurd (parse_text_eq_ok_iff.mp parsed).1 (not_le.mpr narrow)

end

/-! ## The decision -/

/-- The wallet and budget amounts in a currency. -/
def countedAmounts (readModel : PreAuthorizeReadModel) (currency : String) : List ℚ :=
  ((readModel.wallet.toList ++ readModel.budgets).filter fun row => row.1 = currency).map Prod.snd

/-- An amount below the minimum cost, or not positive while usage is billed. -/
def Insufficient (pricing : PricingRules) (amount : ℚ) : Prop :=
  amount < pricing.fixedRequestCost.toRat ∨
    pricingRulesHaveBillableUsageRate pricing = true ∧ amount ≤ 0

variable {readModel : PreAuthorizeReadModel}

section

variable {currency : String}

theorem parsed_eq_filterMap : (preAuthorizeWalletBalance readModel currency scale).toList ++
        preAuthorizeBudgetBalances readModel currency scale =
      (countedAmounts readModel currency).filterMap (parsePreAuthorizeAmount · scale) := by
  have wallet : (preAuthorizeWalletBalance readModel currency scale).toList =
      ((readModel.wallet.toList.filter fun row => row.1 = currency).map Prod.snd).filterMap
        (parsePreAuthorizeAmount · scale) := by
    unfold preAuthorizeWalletBalance
    cases readModel.wallet with
    | none => rfl
    | some wallet =>
      by_cases counted : wallet.1 = currency
      · cases parsed : parsePreAuthorizeAmount wallet.2 scale <;> simp [counted, parsed]
      · simp [counted]
  rw [wallet, countedAmounts, preAuthorizeBudgetBalances, List.filter_append, List.map_append,
    List.filterMap_append, List.filterMap_map, List.filterMap_map]
  rfl

variable {estimate : PreAuthorizeEstimate}

theorem preAuthorize_eq_allow {wallet : Option FixedDecimal} {budgets : List FixedDecimal} :
    preAuthorize estimate wallet budgets = .allow ↔
      ∀ amount ∈ wallet.toList ++ budgets, amountIsInsufficient amount estimate = false := by
  unfold preAuthorize
  cases wallet with
  | none => by_cases any : budgets.any (amountIsInsufficient · estimate) <;> simp_all
  | some wallet =>
    by_cases first : amountIsInsufficient wallet estimate
    · simp [first]
    · by_cases any : budgets.any (amountIsInsufficient · estimate) <;> simp_all

theorem amountIsInsufficient_iff {available : FixedDecimal}
    (sameScale : available.scale = estimate.minimumCost.scale) :
    amountIsInsufficient available estimate = true ↔ if 0 < estimate.minimumCost.toRat then
        available.toRat < estimate.minimumCost.toRat
      else estimate.billableIfUsagePresent = true ∧ available.toRat ≤ 0 := by
  have positive : 0 < estimate.minimumCost.toRat ↔ 0 < estimate.minimumCost.units.value :=
    toRat_pos_iff
  have below : available.toRat < estimate.minimumCost.toRat ↔
      available.units.value < estimate.minimumCost.units.value := by
    rw [toRat_lt_iff sameScale, lt_def]
    omega
  have notPositive : available.toRat ≤ 0 ↔ available.units.value ≤ 0 := by
    rw [← not_lt, toRat_pos_iff, not_lt]
  rw [amountIsInsufficient, if_neg (not_not.mpr sameScale), below, notPositive]
  by_cases costs : 0 < estimate.minimumCost.units.value
  · simp [costs, positive.mpr costs]
  · simp [costs, mt positive.mp costs]

end

/-! ## The route -/

def pricingEstimate (pricing : PricingRules) : PreAuthorizeEstimate :=
  ⟨pricing.fixedRequestCost, pricingRulesHaveBillableUsageRate pricing⟩

/-- The reads of the handler succeed, with these answers; a failed read of the
virtual key counts as not enabled. Any other call may be answered in any
way. -/
def answersReads (enabled : Bool) (pricing : PricingRules) (readModel : PreAuthorizeReadModel) :
    Effects GatewayCall.Answer Unit :=
  fun call _ answer _ =>
    match call, answer with
    | .virtualKeyPaidHotPathBetaEnabled _, answer => answer.toOption.getD false = enabled
    | .resolveActivePriceVersion _ _, answer =>
      ∃ id, answer = .ok (some ⟨id, some pricing⟩)
    | .resolvePreAuthorizeReadModel _ _, answer => answer = .ok readModel
    | _, _ => True

/-- The switch of the gateway or of the virtual key is on. -/
def onPaidPath (context : ChatContext) (enabled : Bool) : Bool :=
  context.environment.paidHotPathBeta || enabled

variable {context : ChatContext} {route : ResolvedChatRoute} {enabled : Bool}
  {pricing : PricingRules}

section

theorem reaches_paidHotPathBetaEnabled {paid : Bool} {last : Unit} :
    Reaches (answersReads enabled pricing readModel) (paidHotPathBetaEnabled context) () paid
        last ↔ paid = onPaidPath context enabled := by
  unfold paidHotPathBetaEnabled onPaidPath
  cases context.environment.paidHotPathBeta with
  | true => exact reaches_pure.trans (and_iff_left rfl)
  | false =>
    refine reaches_perform_bind.trans ?_
    constructor
    · rintro ⟨answer, _, answered, reached⟩
      have answerEq : answer.toOption.getD false = enabled := answered
      cases answer with
      | error failure | ok value => exact (reaches_pure.mp reached).1.trans answerEq
    · intro paidEq
      exact ⟨.ok paid, (), paidEq, reaches_pure.mpr ⟨rfl, rfl⟩⟩

theorem reaches_insertPaidReserve {amount : FixedDecimal} {currency : String} :
    Reaches (answersReads enabled pricing readModel) (insertPaidReserve context amount currency)
      () none () :=
  reaches_perform_bind.mpr ⟨.ok .applied, (), trivial, reaches_pure.mpr ⟨rfl, rfl⟩⟩

/-- A request passes if its rules cost nothing off the paid path, or if its
amount is allowed; on the paid path there has to be a wallet. -/
theorem reaches_preAuthorizeRoute :
    Reaches (answersReads enabled pricing readModel) (preAuthorizeRoute context route) () none () ↔
      onPaidPath context enabled = false ∧ pricing.fixedRequestCost.isZero = true ∧
          pricingRulesHaveBillableUsageRate pricing = false ∨
        ¬ (onPaidPath context enabled = true ∧ readModel.wallet = none) ∧
          (preAuthorizeAmount context (onPaidPath context enabled) (pricingEstimate pricing)
            pricing.currency readModel).isSome = true := by
  refine reaches_bind.trans ?_
  simp only [reaches_paidHotPathBetaEnabled]
  generalize onPaidPath context enabled = paid
  have free : (!paid && pricing.fixedRequestCost.isZero &&
      !pricingRulesHaveBillableUsageRate pricing) = true ↔
      paid = false ∧ pricing.fixedRequestCost.isZero = true ∧
        pricingRulesHaveBillableUsageRate pricing = false := by
    simp [and_assoc]
  have noWallet : (paid && readModel.wallet.isNone) = true ↔
      paid = true ∧ readModel.wallet = none := by
    simp
  rw [← free, ← noWallet, pricingEstimate]
  constructor
  · rintro ⟨_, _, rfl, reached⟩
    obtain ⟨_, _, ⟨id, rfl⟩, reached⟩ := reaches_perform_bind.mp reached
    dsimp only [preAuthorizeEstimateFromPriceVersion, Option.map_some] at reached
    split at reached
    · next isFree => exact Or.inl isFree
    · obtain ⟨_, _, rfl, reached⟩ := reaches_perform_bind.mp reached
      dsimp only at reached
      split at reached
      · cases (reaches_pure.mp reached).1
      · next walletFound =>
        split at reached
        · cases (reaches_pure.mp reached).1
        · next allowed => exact Or.inr ⟨walletFound, by rw [allowed]; rfl⟩
  · intro passes
    refine ⟨paid, (), rfl, reaches_perform_bind.mpr
      ⟨.ok (some ⟨Uuid.nil, some pricing⟩), (), ⟨Uuid.nil, rfl⟩, ?_⟩⟩
    dsimp only [preAuthorizeEstimateFromPriceVersion, Option.map_some]
    split
    · exact reaches_pure.mpr ⟨rfl, rfl⟩
    · next notFree =>
      obtain ⟨walletFound, allowed⟩ := passes.resolve_left notFree
      obtain ⟨amount, amountEq⟩ := Option.isSome_iff_exists.mp allowed
      refine reaches_perform_bind.mpr ⟨.ok readModel, (), rfl, ?_⟩
      dsimp only
      rw [if_neg walletFound, amountEq]
      dsimp only
      split
      · exact reaches_insertPaidReserve
      · exact reaches_pure.mpr ⟨rfl, rfl⟩

end

/-! ## Failing closed -/

def gatewayPaidHotPathBetaDefaultReserveAmount : String := "0.00000100"

/-- The configured reserve amount is a text, parsed in the scale it is needed
in. -/
def ConfiguredText (environment : GatewayEnvironment) : Prop :=
  ∃ text, ∀ scale, environment.paidHotPathBetaReserveAmount scale = (parse text scale).toOption

def comparedAmount (context : ChatContext) (paid : Bool) (pricing : PricingRules) :
    Option FixedDecimal :=
  if paid then paidHotPathReserveAmount context (pricingEstimate pricing)
  else some pricing.fixedRequestCost

variable {wire : PricingRulesWire}

section

variable {paid : Bool} {compared : FixedDecimal}

theorem isSome_preAuthorizeAmount :
    (preAuthorizeAmount context paid (pricingEstimate pricing) pricing.currency
        readModel).isSome = true ↔ ∃ compared, comparedAmount context paid pricing = some compared ∧
        ∀ amount ∈ (countedAmounts readModel pricing.currency).filterMap
            (parsePreAuthorizeAmount · pricing.fixedRequestCost.scale), amountIsInsufficient amount
            ⟨compared, pricingRulesHaveBillableUsageRate pricing || paid⟩ = false := by
  simp only [← parsed_eq_filterMap, ← preAuthorize_eq_allow, preAuthorizeAmount, comparedAmount,
    pricingEstimate, Option.isSome_iff_exists, Option.filter_eq_some_iff]
  exact exists_congr fun _ => and_congr_right fun _ => decide_eq_true_iff

/-- What is compared has the scale of the rules; off the paid path it is the
fixed cost, on it the fixed cost or something positive in its place. -/
theorem comparedAmount_eq_some (configured : ConfiguredText context.environment)
    (chosen : comparedAmount context paid pricing = some compared) :
    compared.scale = pricing.fixedRequestCost.scale ∧
      (0 < pricing.fixedRequestCost.toRat → compared = pricing.fixedRequestCost) ∧
      (paid = true → 0 < compared.toRat) ∧
      (paid = false → compared = pricing.fixedRequestCost) := by
  cases paid with
  | false =>
    cases chosen
    exact ⟨rfl, fun _ => rfl, by simp, fun _ => rfl⟩
  | true =>
    rw [comparedAmount, if_pos rfl, paidHotPathReserveAmount] at chosen
    by_cases costs : 0 < pricing.fixedRequestCost.units.value
    · rw [if_pos (show 0 < (pricingEstimate pricing).minimumCost.units.value from costs)]
        at chosen
      cases chosen
      exact ⟨rfl, fun _ => rfl, fun _ => toRat_pos_iff.mpr costs, by simp⟩
    · rw [if_neg (show ¬ 0 < (pricingEstimate pricing).minimumCost.units.value from costs)]
        at chosen
      obtain ⟨read, positive⟩ := Option.filter_eq_some_iff.mp chosen
      obtain ⟨text, textEq⟩ := configured
      rw [textEq] at read
      refine ⟨parseDecimalString_scale (toOption_eq_some_iff.mp read), fun charged => ?_,
        fun _ => toRat_pos_iff.mpr (of_decide_eq_true positive), by simp⟩
      exact absurd (toRat_pos_iff.mp charged) costs

theorem isSome_preAuthorizeAmount_narrow
    (narrow : pricing.fixedRequestCost.scale < moneyColumn.scale) :
    (preAuthorizeAmount context paid (pricingEstimate pricing) pricing.currency
        readModel).isSome = true ↔ (comparedAmount context paid pricing).isSome = true := by
  rw [isSome_preAuthorizeAmount]
  simp [parsePreAuthorizeAmount_eq_none narrow, Option.isSome_iff_exists]

theorem enough_of_allowed_wide (configured : ConfiguredText context.environment)
    (stored : ∀ amount ∈ countedAmounts readModel pricing.currency, moneyColumn.Stores amount)
    (wide : moneyColumn.scale ≤ pricing.fixedRequestCost.scale)
    (allowed : (preAuthorizeAmount context paid (pricingEstimate pricing) pricing.currency
      readModel).isSome = true) : ∃ compared, comparedAmount context paid pricing = some compared ∧
        ∀ amount ∈ countedAmounts readModel pricing.currency,
          ¬ if 0 < compared.toRat then amount < compared.toRat
            else (pricingRulesHaveBillableUsageRate pricing || paid) = true ∧ amount ≤ 0 := by
  obtain ⟨compared, chosen, enough⟩ := isSome_preAuthorizeAmount.mp allowed
  obtain ⟨scaleEq, _⟩ := comparedAmount_eq_some configured chosen
  refine ⟨compared, chosen, fun amount counted => ?_⟩
  obtain ⟨parsed, parsedEq, parsedScale, rfl⟩ :=
    exists_parsePreAuthorizeAmount (stored amount counted) wide pricing.fixedRequestCost.scale_le
  have parsedEnough := enough parsed (List.mem_filterMap.mpr ⟨_, counted, parsedEq⟩)
  intro insufficient
  rw [(amountIsInsufficient_iff (parsedScale.trans scaleEq.symm)).mpr insufficient] at parsedEnough
  cases parsedEnough

theorem insufficient_of_compared (chosen : comparedAmount context paid pricing = some compared)
    (configured : ConfiguredText context.environment) {amount : ℚ}
    (insufficient : Insufficient pricing amount) (charged : 0 < pricing.fixedRequestCost.toRat ∨
      pricingRulesHaveBillableUsageRate pricing = true ∨ paid = true)
    (nonneg : 0 ≤ pricing.fixedRequestCost.toRat) :
    if 0 < compared.toRat then amount < compared.toRat
    else (pricingRulesHaveBillableUsageRate pricing || paid) = true ∧ amount ≤ 0 := by
  obtain ⟨_, costs, onPath, offPath⟩ := comparedAmount_eq_some configured chosen
  have notPositive : pricing.fixedRequestCost.toRat = 0 → amount ≤ 0 := by
    intro free
    rcases insufficient with below | ⟨_, atMost⟩
    · exact (free ▸ below).le
    · exact atMost
  rcases nonneg.lt_or_eq with costly | free
  · rw [costs costly, if_pos costly]
    rcases insufficient with below | ⟨_, atMost⟩
    · exact below
    · exact atMost.trans_lt costly
  · cases paid with
    | true =>
      have positive := onPath rfl
      rw [if_pos positive]
      exact (notPositive free.symm).trans_lt positive
    | false =>
      rw [offPath rfl, if_neg free.not_lt]
      have billable : pricingRulesHaveBillableUsageRate pricing = true := by
        rcases charged with costly | billable | onPaid
        · exact absurd costly free.not_lt
        · exact billable
        · cases onPaid
      exact ⟨by rw [billable, Bool.true_or], notPositive free.symm⟩

end

/-- The rules have eight places and charge something, or the paid path is on,
or no amount is negative; or no amount is insufficient; or the paid path stops
the request before it compares. -/
def FailsClosed (context : ChatContext) (enabled : Bool) (pricing : PricingRules)
    (readModel : PreAuthorizeReadModel) : Prop :=
  let counted := countedAmounts readModel pricing.currency
  moneyColumn.scale ≤ pricing.scale ∧
      (0 < pricing.fixedRequestCost.toRat ∨ pricingRulesHaveBillableUsageRate pricing = true ∨
        onPaidPath context enabled = true ∨ ∀ amount ∈ counted, 0 ≤ amount) ∨
    (∀ amount ∈ counted, ¬ Insufficient pricing amount) ∨
    onPaidPath context enabled = true ∧
      (readModel.wallet = none ∨ paidHotPathReserveAmount context (pricingEstimate pricing) = none)

section

variable {amount : ℚ}

theorem negative_of_insufficient (insufficient : Insufficient pricing amount)
    (free : ¬ 0 < pricing.fixedRequestCost.toRat)
    (notBillable : ¬ pricingRulesHaveBillableUsageRate pricing = true) : amount < 0 := by
  rcases insufficient with below | ⟨billable, _⟩
  · exact below.trans_le (not_lt.mp free)
  · exact absurd billable notBillable

theorem reaches_of_free (free : ¬ 0 < pricing.fixedRequestCost.toRat)
    (nonneg : 0 ≤ pricing.fixedRequestCost.toRat)
    (notBillable : ¬ pricingRulesHaveBillableUsageRate pricing = true)
    (offPath : ¬ onPaidPath context enabled = true) :
    Reaches (answersReads enabled pricing readModel) (preAuthorizeRoute context route) () none
      () := by
  have zero := toRat_eq_zero_iff.mp (le_antisymm (not_lt.mp free) nonneg)
  exact reaches_preAuthorizeRoute.mpr (Or.inl ⟨by simpa using offPath,
    isZero_iff.mpr zero, by simpa using notBillable⟩)

theorem not_reaches_of_failsClosed (configured : ConfiguredText context.environment)
    (stored : ∀ amount ∈ countedAmounts readModel pricing.currency, moneyColumn.Stores amount)
    (scaleEq : pricing.fixedRequestCost.scale = pricing.scale)
    (nonneg : 0 ≤ pricing.fixedRequestCost.toRat)
    (closed : FailsClosed context enabled pricing readModel)
    (counted : amount ∈ countedAmounts readModel pricing.currency)
    (insufficient : Insufficient pricing amount) :
    ¬ Reaches (answersReads enabled pricing readModel) (preAuthorizeRoute context route) () none
      () := by
  rw [reaches_preAuthorizeRoute]
  rcases closed with ⟨wide, charged⟩ | enough | ⟨onPath, stopped⟩
  · have charges : 0 < pricing.fixedRequestCost.toRat ∨
        pricingRulesHaveBillableUsageRate pricing = true ∨ onPaidPath context enabled = true := by
      by_contra none
      simp only [not_or] at none
      obtain ⟨free, notBillable, offPath⟩ := none
      have allNonneg := ((charged.resolve_left free).resolve_left notBillable).resolve_left offPath
      exact absurd (negative_of_insufficient insufficient free notBillable)
        (not_lt.mpr (allNonneg amount counted))
    rintro (⟨offPath, zero, notBillable⟩ | ⟨_, allowed⟩)
    · have free := toRat_eq_zero_iff.mpr (isZero_iff.mp zero)
      simp [free, notBillable, offPath] at charges
    · rw [← scaleEq] at wide
      obtain ⟨compared, chosen, allEnough⟩ := enough_of_allowed_wide configured stored wide allowed
      exact allEnough amount counted
        (insufficient_of_compared chosen configured insufficient charges nonneg)
  · exact absurd insufficient (enough amount counted)
  · rintro (⟨offPath, _⟩ | ⟨walletFound, allowed⟩)
    · exact absurd onPath (by simp [offPath])
    · have noAmount := stopped.resolve_left fun noWallet => walletFound ⟨onPath, noWallet⟩
      obtain ⟨compared, chosen, _⟩ := isSome_preAuthorizeAmount.mp allowed
      rw [onPath, comparedAmount, if_pos rfl, noAmount] at chosen
      cases chosen

theorem reaches_of_narrow (narrow : pricing.fixedRequestCost.scale < moneyColumn.scale)
    (notStopped : ¬ (onPaidPath context enabled = true ∧ (readModel.wallet = none ∨
        paidHotPathReserveAmount context (pricingEstimate pricing) = none))) :
    Reaches (answersReads enabled pricing readModel) (preAuthorizeRoute context route) () none
      () := by
  refine reaches_preAuthorizeRoute.mpr (Or.inr ⟨?_, ?_⟩)
  · exact fun noWallet => notStopped ⟨noWallet.1, Or.inl noWallet.2⟩
  · rw [isSome_preAuthorizeAmount_narrow narrow, comparedAmount]
    cases onPath : onPaidPath context enabled with
    | false => rfl
    | true =>
      rw [if_pos rfl, Option.isSome_iff_ne_none]
      exact fun noAmount => notStopped ⟨onPath, Or.inr noAmount⟩

end

/-- For rules that the parser accepts and amounts of money columns: no request
passes while an amount is insufficient, just under the condition. -/
theorem preAuthorization_closed_iff {context : ChatContext} {wire : PricingRulesWire}
    {pricing : PricingRules} {readModel : PreAuthorizeReadModel}
    (configured : ConfiguredText context.environment)
    (accepted : PricingRules.fromJsonValue wire = .ok pricing)
    (stored : ∀ amount ∈ countedAmounts readModel pricing.currency, moneyColumn.Stores amount)
    (enabled : Bool) (route : ResolvedChatRoute) :
    (∀ amount ∈ countedAmounts readModel pricing.currency, Insufficient pricing amount →
      ¬ Reaches (answersReads enabled pricing readModel) (preAuthorizeRoute context route) ()
        none ()) ↔ FailsClosed context enabled pricing readModel := by
  obtain ⟨scaleEq, unitsNonneg⟩ := PricingRules.fromJsonValue_eq_ok accepted
  have nonneg : 0 ≤ pricing.fixedRequestCost.toRat := by
    rw [← not_lt, toRat_lt_zero_iff]
    omega
  refine ⟨fun closed => ?_, fun closed amount counted insufficient =>
    not_reaches_of_failsClosed configured stored scaleEq nonneg closed counted insufficient⟩
  by_contra failsOpen
  simp only [FailsClosed, not_or] at failsOpen
  obtain ⟨notChecked, someInsufficient, notStopped⟩ := failsOpen
  push Not at someInsufficient
  obtain ⟨amount, counted, insufficient⟩ := someInsufficient
  by_cases wide : moneyColumn.scale ≤ pricing.scale
  · simp only [wide, true_and, not_or] at notChecked
    obtain ⟨free, notBillable, offPath, someNegative⟩ := notChecked
    push Not at someNegative
    obtain ⟨negative, negativeCounted, below⟩ := someNegative
    exact closed negative negativeCounted (Or.inl (below.trans_le nonneg))
      (reaches_of_free free nonneg notBillable offPath)
  · rw [← scaleEq] at wide
    exact closed amount counted insufficient (reaches_of_narrow (not_le.mp wide) notStopped)

def dollarRules (scale : UInt32) : PricingRulesWire where
  currency := none
  scale := some scale
  inputTokenRatePer1m := none
  outputTokenRatePer1m := none
  cacheTokenRatePer1m := none
  reasoningTokenRatePer1m := none
  fixedRequestCost := some (.string "1.00")

/-- A gateway off the paid path, with the reserve amount it has by default. -/
def freePath : ChatContext :=
  { sampleChat with environment := ⟨false, fun scale =>
      (parse gatewayPaidHotPathBetaDefaultReserveAmount scale).toOption⟩ }

def emptyReadModel : PreAuthorizeReadModel :=
  ⟨some ("USD", 0), [("USD", 0)]⟩

/-- Under rules with two places a request passes with an empty wallet. -/
theorem lowScale_fails_open : ∃ pricing, PricingRules.fromJsonValue (dollarRules 2) = .ok pricing ∧
      0 ∈ countedAmounts emptyReadModel pricing.currency ∧ Insufficient pricing 0 ∧
      Reaches (answersReads false pricing emptyReadModel)
        (preAuthorizeRoute freePath sampleRoute) () none () :=
  ⟨_, eq_ok_get (by decide +kernel), by decide +kernel, Or.inl (by decide +kernel),
    reaches_of_narrow (by decide +kernel) (by decide +kernel)⟩

/-- Under rules with eight places it does not pass. -/
theorem preAuthorization_closed_dollarRules :
    ∃ pricing, PricingRules.fromJsonValue (dollarRules 8) = .ok pricing ∧
      FailsClosed freePath false pricing emptyReadModel ∧
      0 ∈ countedAmounts emptyReadModel pricing.currency ∧ Insufficient pricing 0 ∧
      ¬ Reaches (answersReads false pricing emptyReadModel)
        (preAuthorizeRoute freePath sampleRoute) () none () := by
  obtain ⟨pricing, accepted, closed, counted, insufficient, stored⟩ :
      ∃ pricing, PricingRules.fromJsonValue (dollarRules 8) = .ok pricing ∧
        FailsClosed freePath false pricing emptyReadModel ∧
        0 ∈ countedAmounts emptyReadModel pricing.currency ∧ Insufficient pricing 0 ∧
        ∀ amount ∈ countedAmounts emptyReadModel pricing.currency, moneyColumn.Stores amount :=
    ⟨_, eq_ok_get (by decide +kernel), Or.inl ⟨by decide +kernel, Or.inl (by decide +kernel)⟩,
      by decide +kernel, Or.inl (by decide +kernel), by decide +kernel⟩
  exact ⟨pricing, accepted, closed, counted, insufficient,
    (preAuthorization_closed_iff ⟨_, fun _ => rfl⟩ accepted stored false
      sampleRoute).mpr closed 0 counted insufficient⟩

end FuboxApi
