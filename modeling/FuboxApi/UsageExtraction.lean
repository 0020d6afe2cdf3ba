import FuboxApi.StreamBilling

/-!
# The usage details of a payload

An answer that is not streamed is rated by categories, with rates of their own for cached and
reasoning tokens; a streamed one by its totals alone. They cost the same only if the categories
happen to cost what plain tokens would.
-/

namespace FuboxApi

open CheckedFold

/-! ## Extraction -/

def runtimeUsageFieldsPresent (value : JsonDocument) : Bool :=
  value.isObject &&
    ["prompt_tokens", "input_tokens", "promptTokenCount", "completion_tokens", "output_tokens",
      "candidatesTokenCount", "total_tokens", "totalTokenCount"].any
        fun field => (value.field field).isSome

def runtimeUsageObject (value : JsonDocument) : Option JsonDocument :=
  ((value.field "usage").filter JsonDocument.isObject).or
    (((value.field "usageMetadata").filter JsonDocument.isObject).or
      (if runtimeUsageFieldsPresent value then some value else none))

/-- The count at a path; an error names the path. -/
def usageU64AtPath (value : JsonDocument) (path : List String) : UsageResult (Option UInt64) :=
  match value.valueAt path with
  | none => .ok none
  | some found =>
    if found.isNull then .ok none
    else okOr (.invalidUsageField (".".intercalate path)) (found.asU64.map some)

/-- The count at the first path that has one. -/
def firstPresentUsageU64 (value : JsonDocument) : List (List String) → UsageResult (Option UInt64)
  | [] => .ok none
  | path :: later => do
      match ← usageU64AtPath value path with
      | some tokens => return some tokens
      | none => firstPresentUsageU64 value later

def inputTotalPaths : List (List String) :=
  [["prompt_tokens"], ["input_tokens"], ["promptTokenCount"]]

def outputTotalPaths : List (List String) :=
  [["completion_tokens"], ["output_tokens"], ["candidatesTokenCount"]]

def cacheTokenPaths : List (List String) :=
  [["prompt_tokens_details", "cached_tokens"], ["input_tokens_details", "cached_tokens"],
    ["cached_tokens"], ["cachedContentTokenCount"], ["cache_read_input_tokens"]]

def reasoningTokenPaths : List (List String) :=
  [["completion_tokens_details", "reasoning_tokens"],
    ["output_tokens_details", "reasoning_tokens"], ["reasoning_tokens"], ["thoughtsTokenCount"],
    ["thinking_tokens"]]

/-- The total without a category that is part of it. -/
def subtractCategory (total : UInt64) (categoryValue : Option UInt64)
    (category totalField : String) : UsageResult UInt64 :=
  match categoryValue with
  | some categoryValue =>
    okOr (.usageCategoryExceedsTotal category totalField) (checkedSubU64 total categoryValue)
  | none => .ok total

def deriveOutputTokensFromTotal (usage : JsonDocument) (inputTotal : UInt64) :
    UsageResult (Option UInt64) := do
  match ← firstPresentUsageU64 usage [["total_tokens"], ["totalTokenCount"]] with
  | none => return none
  | some totalTokens =>
    return some (← subtractCategory totalTokens (some inputTotal) "input_tokens" "total_tokens")

def extractCategories (usage : JsonDocument) (inputTotal outputTotal : UInt64) :
    UsageResult ExtendedTokenUsage := do
  let cacheTokens ← firstPresentUsageU64 usage cacheTokenPaths
  let reasoningTokens ← firstPresentUsageU64 usage reasoningTokenPaths
  let inputTokens ← subtractCategory inputTotal cacheTokens "cache_tokens" "input_tokens"
  let outputTokens ← subtractCategory outputTotal reasoningTokens "reasoning_tokens" "output_tokens"
  return ⟨inputTokens, outputTokens, cacheTokens, reasoningTokens⟩

def extractRuntimeTokenUsageFromValue (value : JsonDocument) :
    UsageResult (Option ExtendedTokenUsage) := do
  match runtimeUsageObject value with
  | none => return none
  | some usage =>
    match ← firstPresentUsageU64 usage inputTotalPaths with
    | none => return none
    | some inputTotal =>
      let reported ← firstPresentUsageU64 usage outputTotalPaths
      let outputTotal ←
        match reported with
        | some outputTotal => pure (some outputTotal)
        | none => deriveOutputTokensFromTotal usage inputTotal
      match outputTotal with
      | none => return none
      | some outputTotal => return some (← extractCategories usage inputTotal outputTotal)

/-- The answer of a chat provider, as the two extractors see it. -/
def chatProviderPayload (payload : JsonDocument) : ProviderPayload :=
  ⟨openaiUsage payload, extractRuntimeTokenUsageFromValue payload⟩

/-- The rating that is recorded for an answer in one piece. -/
def requestRating (priceVersion : ResolvedPriceVersion) (payload : JsonDocument) :
    Option RequestRatingUpdate := do
  let usage := requestUsageFromAdapterUsage (chatProviderPayload payload).adapterUsage
  let tokens ← usage.runtimeTokenUsageForRating (chatProviderPayload payload)
  requestRatingFromPriceVersion priceVersion tokens

def streamRating (priceVersion : ResolvedPriceVersion) (partialSent : Bool)
    (payload : JsonDocument) : Option RequestRatingUpdate :=
  (StartedFinalization.requestUpdate ⟨.upstream, .completed, partialSent,
      (openaiStreamUsageFromValue payload).getD ⟨none, none⟩⟩ (some priceVersion)).rating

/-! ## What a payload with both totals is rated by -/

/-- The categories of a usage, or its totals if there is no telling them apart. -/
def categorizedUsage (usage : JsonDocument) (inputTotal outputTotal : UInt64) :
    ExtendedTokenUsage :=
  match extractCategories usage inputTotal outputTotal with
  | .ok categories => categories
  | .error _ => ⟨inputTotal, outputTotal, none, none⟩

structure ReportsBoth (payload usage : JsonDocument) (inputTotal outputTotal : UInt64) :
    Prop where
  carried : payload.field "usage" = some usage
  input : tokenCount usage "prompt_tokens" = some inputTotal
  output : tokenCount usage "completion_tokens" = some outputTotal

open RequestUsageUpdate

section

variable {payload usage : JsonDocument} {inputTotal outputTotal : UInt64} {name : String}
  {tokens : UInt64}

section

variable (counted : tokenCount usage name = some tokens)

include counted

theorem isObject_of_tokenCount : usage.isObject = true := by
  cases usage with
  | object fields => rfl
  | _ => cases counted

theorem usageU64AtPath_of_tokenCount : usageU64AtPath usage [name] = .ok (some tokens) := by
  obtain ⟨found, fieldEq, tokensEq⟩ := Option.bind_eq_some_iff.mp counted
  have notNull : found.isNull = false := by
    cases found with
    | null => cases tokensEq
    | _ => rfl
  have atPath : usage.valueAt [name] = some found := by
    simp [JsonDocument.valueAt, fieldEq]
  simp [usageU64AtPath, atPath, notNull, tokensEq, okOr]

theorem firstPresentUsageU64_of_tokenCount (later : List (List String)) :
    firstPresentUsageU64 usage ([name] :: later) = .ok (some tokens) := by
  rw [firstPresentUsageU64, usageU64AtPath_of_tokenCount counted]
  rfl

end

theorem ReportsBoth.extract (reports : ReportsBoth payload usage inputTotal outputTotal) :
    extractRuntimeTokenUsageFromValue payload =
      (extractCategories usage inputTotal outputTotal).map some := by
  have object : runtimeUsageObject payload = some usage := by
    simp [runtimeUsageObject, reports.carried, isObject_of_tokenCount reports.input]
  have input : firstPresentUsageU64 usage inputTotalPaths = .ok (some inputTotal) :=
    firstPresentUsageU64_of_tokenCount reports.input _
  have output : firstPresentUsageU64 usage outputTotalPaths = .ok (some outputTotal) :=
    firstPresentUsageU64_of_tokenCount reports.output _
  simp only [extractRuntimeTokenUsageFromValue, object, input, output, bind, Except.bind, pure,
    Except.pure]
  cases extractCategories usage inputTotal outputTotal <;> rfl

theorem categoryTotal_eq_some_iff {category : Option UInt64} {total : UInt64} :
    categoryTotal tokens category = some total ↔
      tokens.toNat + (category.getD 0).toNat = total.toNat := by
  unfold categoryTotal
  dsimp only
  split
  · next small =>
    rw [Option.some.injEq, ← UInt64.toNat_inj, UInt64.toNat_ofNat_of_lt' small]
  · next large =>
    have small := total.toNat_lt
    exact iff_of_false (by simp) (by omega)

theorem categoryTotal_of_subtractCategory {total : UInt64} {category : Option UInt64}
    {totalName : String} (subtracted : subtractCategory total category name totalName = .ok tokens)
    : categoryTotal tokens category = some total := by
  rw [categoryTotal_eq_some_iff]
  cases category with
  | none =>
    obtain rfl := Except.ok.inj subtracted
    simp
  | some count =>
    have subtracted := okOr_eq_ok.mp subtracted
    unfold checkedSubU64 at subtracted
    split at subtracted
    · next countLe =>
      obtain rfl := Option.some.inj subtracted
      rw [UInt64.toNat_sub_of_le _ _ countLe]
      exact Nat.sub_add_cancel (UInt64.le_iff_toNat_le.mp countLe)
    · cases subtracted

theorem categoryTotal_of_extractCategories {categories : ExtendedTokenUsage}
    (extracted : extractCategories usage inputTotal outputTotal = .ok categories) :
    categoryTotal categories.inputTokens categories.cacheTokens = some inputTotal ∧
      categoryTotal categories.outputTokens categories.reasoningTokens = some outputTotal := by
  obtain ⟨cacheTokens, _, extracted⟩ := bind_eq_ok.mp extracted
  obtain ⟨reasoningTokens, _, extracted⟩ := bind_eq_ok.mp extracted
  obtain ⟨inputTokens, input, extracted⟩ := bind_eq_ok.mp extracted
  obtain ⟨outputTokens, output, extracted⟩ := bind_eq_ok.mp extracted
  obtain rfl := Except.ok.inj extracted
  exact ⟨categoryTotal_of_subtractCategory input, categoryTotal_of_subtractCategory output⟩

def FitLogColumns (inputTotal outputTotal : UInt64) : Prop :=
  inputTotal.toNat < 2 ^ 63 ∧ outputTotal.toNat < 2 ^ 63

instance (inputTotal outputTotal : UInt64) : Decidable (FitLogColumns inputTotal outputTotal) :=
  inferInstanceAs (Decidable (_ ∧ _))

theorem tokenUsageForRating_of_totals (inputTotal outputTotal : UInt64) :
    (RequestUsageUpdate.mk (u64ToI64 inputTotal) (u64ToI64 outputTotal)).tokenUsageForRating =
      if FitLogColumns inputTotal outputTotal then some ⟨inputTotal, outputTotal⟩ else none := by
  unfold tokenUsageForRating
  rw [bind_u64ToI64, bind_u64ToI64]
  by_cases fits : FitLogColumns inputTotal outputTotal
  · rw [if_pos fits, if_pos fits.1, if_pos fits.2]
    rfl
  · rw [if_neg fits]
    by_cases input : inputTotal.toNat < 2 ^ 63
    · have output : ¬ outputTotal.toNat < 2 ^ 63 := fun output => fits ⟨input, output⟩
      rw [if_pos input, if_neg output]
      rfl
    · rw [if_neg input]
      rfl

theorem ratingUsageMatches_iff (fits : FitLogColumns inputTotal outputTotal) :
    runtimeRatingUsageMatchesRequestUsage ⟨u64ToI64 inputTotal, u64ToI64 outputTotal⟩ rated = true ↔
      categoryTotal rated.inputTokens rated.cacheTokens = some inputTotal ∧
        categoryTotal rated.outputTokens rated.reasoningTokens = some outputTotal := by
  unfold runtimeRatingUsageMatchesRequestUsage
  rw [bind_u64ToI64, bind_u64ToI64, if_pos fits.1, if_pos fits.2]
  simp

section

variable (reports : ReportsBoth payload usage inputTotal outputTotal)

include reports

theorem ReportsBoth.requestUsage : requestUsageFromAdapterUsage (openaiUsage payload) =
      ⟨u64ToI64 inputTotal, u64ToI64 outputTotal⟩ := by
  obtain ⟨promptField, promptEq, promptTokens⟩ := Option.bind_eq_some_iff.mp reports.input
  obtain ⟨completionField, completionEq, completionTokens⟩ :=
    Option.bind_eq_some_iff.mp reports.output
  simp [openaiUsage, reports.carried, promptEq, promptTokens, completionEq, completionTokens,
    requestUsageFromAdapterUsage]

theorem ReportsBoth.runtimeTokenUsage (fits : FitLogColumns inputTotal outputTotal) :
    (RequestUsageUpdate.mk (u64ToI64 inputTotal)
        (u64ToI64 outputTotal)).runtimeTokenUsageForRating (chatProviderPayload payload) =
      some (categorizedUsage usage inputTotal outputTotal) := by
  unfold runtimeTokenUsageForRating categorizedUsage chatProviderPayload
  rw [tokenUsageForRating_of_totals, if_pos fits, reports.extract]
  cases extracted : extractCategories usage inputTotal outputTotal with
  | error error => rfl
  | ok categories =>
    have agreed := (ratingUsageMatches_iff fits).mpr (categoryTotal_of_extractCategories extracted)
    simp [Except.map, agreed]

theorem ReportsBoth.requestRating_eq (priceVersion : ResolvedPriceVersion) :
    requestRating priceVersion payload =
      if FitLogColumns inputTotal outputTotal then
        requestRatingFromPriceVersion priceVersion (categorizedUsage usage inputTotal outputTotal)
      else none := by
  have adapterUsage : requestUsageFromAdapterUsage (chatProviderPayload payload).adapterUsage =
      ⟨u64ToI64 inputTotal, u64ToI64 outputTotal⟩ := reports.requestUsage
  unfold requestRating
  rw [adapterUsage]
  dsimp only
  by_cases fits : FitLogColumns inputTotal outputTotal
  · rw [if_pos fits, reports.runtimeTokenUsage fits]
    rfl
  · rw [if_neg fits, runtimeTokenUsageForRating, tokenUsageForRating_of_totals, if_neg fits]
    rfl

end

theorem observedUsage_getD (promptTokens completionTokens : Option UInt64) :
    (observedUsage promptTokens completionTokens).getD ⟨none, none⟩ =
      ⟨promptTokens.bind u64ToI64, completionTokens.bind u64ToI64⟩ := by
  unfold observedUsage
  cases promptTokens.bind u64ToI64 <;> cases completionTokens.bind u64ToI64 <;> rfl

variable (reports : ReportsBoth payload usage inputTotal outputTotal)

include reports

theorem ReportsBoth.streamUsage : (openaiStreamUsageFromValue payload).getD ⟨none, none⟩ =
      ⟨u64ToI64 inputTotal, u64ToI64 outputTotal⟩ := by
  have notNull : usage.isNull = false := by
    have object := isObject_of_tokenCount reports.input
    cases usage with
    | null => cases object
    | _ => rfl
  have observed : openaiStreamUsageFromValue payload =
      observedUsage (some inputTotal) (some outputTotal) := by
    simp [openaiStreamUsageFromValue, reports.carried, notNull, reports.input, reports.output]
  rw [observed, observedUsage_getD]
  rfl

theorem ReportsBoth.streamRating_eq (priceVersion : ResolvedPriceVersion) (partialSent : Bool) :
    streamRating priceVersion partialSent payload = if FitLogColumns inputTotal outputTotal then
        requestRatingFromPriceVersion priceVersion ⟨inputTotal, outputTotal, none, none⟩
      else none := by
  have rated : StartedFinalization.rating ⟨.upstream, .completed, partialSent,
      ⟨u64ToI64 inputTotal, u64ToI64 outputTotal⟩⟩ (some priceVersion) =
        if FitLogColumns inputTotal outputTotal then
          requestRatingFromPriceVersion priceVersion ⟨inputTotal, outputTotal, none, none⟩
        else none := by
    simp only [StartedFinalization.rating, tokenUsageForRating_of_totals, if_true]
    by_cases fits : FitLogColumns inputTotal outputTotal
    · simp only [if_pos fits]
      rfl
    · simp only [if_neg fits]
      rfl
  unfold streamRating StartedFinalization.requestUpdate
  rw [reports.streamUsage, rated]
  by_cases fits : FitLogColumns inputTotal outputTotal
  · have complete : isComplete ⟨u64ToI64 inputTotal, u64ToI64 outputTotal⟩ = true :=
      isComplete_of_tokenUsageForRating
        ((tokenUsageForRating_of_totals inputTotal outputTotal).trans (if_pos fits))
    simp [streamRequestFinalUpdate, complete]
  · simp [streamRequestFinalUpdate, fits]

end

/-! ## Streamed or not -/

/-- Two usages cost the same under some rules: the rounded costs of their categories have the
same sum, or the rules can rate neither. -/
structure SameCharge (pricing : PricingRules) (first second : ExtendedTokenUsage) : Prop where
  ratable : Ratable pricing first ↔ Ratable pricing second
  units : Ratable pricing first → categoryUnits pricing first = categoryUnits pricing second

section

variable {pricing : PricingRules} {first second : ExtendedTokenUsage} {id : Uuid}
  {usage : ExtendedTokenUsage}

theorem requestRating_eq_none_iff :
    requestRatingFromPriceVersion ⟨id, some pricing⟩ usage = none ↔ ¬ Ratable pricing usage := by
  rw [← exists_rateUsage_eq_ok]
  cases rated : rateUsage pricing usage with
  | ok result | error error => simp [requestRatingFromPriceVersion, rated]

theorem requestRating_of_rateUsage {result : RatingResult}
    (rated : rateUsage pricing usage = .ok result) :
    requestRatingFromPriceVersion ⟨id, some pricing⟩ usage =
      some ⟨result.totalCost, pricing.currency, id⟩ := by
  obtain ⟨_, _, _, _, _, _, _, currencyEq, _⟩ := rateUsage_eq_ok_iff.mp rated
  simp [requestRatingFromPriceVersion, rated, currencyEq]

theorem requestRating_eq_iff : requestRatingFromPriceVersion ⟨id, some pricing⟩ first =
        requestRatingFromPriceVersion ⟨id, some pricing⟩ second ↔
      SameCharge pricing first second := by
  by_cases firstRatable : Ratable pricing first
  · by_cases secondRatable : Ratable pricing second
    · obtain ⟨firstResult, firstRated⟩ := exists_rateUsage_eq_ok.mpr firstRatable
      obtain ⟨secondResult, secondRated⟩ := exists_rateUsage_eq_ok.mpr secondRatable
      obtain ⟨firstScale, _, firstUnits⟩ := totalCost_of_rateUsage firstRated
      obtain ⟨secondScale, _, secondUnits⟩ := totalCost_of_rateUsage secondRated
      rw [requestRating_of_rateUsage firstRated, requestRating_of_rateUsage secondRated]
      constructor
      · intro same
        have totals : firstResult.totalCost = secondResult.totalCost := by
          simpa using same
        have unitsEq := congrArg (·.units.value) totals
        refine ⟨iff_of_true firstRatable secondRatable, fun _ => ?_⟩
        omega
      · intro same
        have unitsEq := same.units firstRatable
        have totals : firstResult.totalCost = secondResult.totalCost := by
          refine FixedDecimal.ext (BoundedInt.ext ?_) (firstScale.trans secondScale.symm)
          rw [firstUnits, secondUnits, unitsEq]
        rw [totals]
    · rw [requestRating_eq_none_iff.mpr secondRatable]
      refine iff_of_false (fun none => requestRating_eq_none_iff.mp none firstRatable) ?_
      exact fun same => secondRatable (same.ratable.mp firstRatable)
  · by_cases secondRatable : Ratable pricing second
    · rw [requestRating_eq_none_iff.mpr firstRatable]
      refine iff_of_false (fun none => requestRating_eq_none_iff.mp none.symm secondRatable) ?_
      exact fun same => firstRatable (same.ratable.mpr secondRatable)
    · rw [requestRating_eq_none_iff.mpr firstRatable, requestRating_eq_none_iff.mpr secondRatable]
      refine iff_of_true rfl ⟨iff_of_false firstRatable secondRatable, fun ratable => ?_⟩
      exact absurd ratable firstRatable

end

/-- For every payload with both totals and every price version with rules: the rating that
is recorded for a completed chat stream with the payload as its usage is the one that is
recorded for an answer with the payload in one piece, if and only if a total is too large for
the log, or the categories of the usage cost what its totals cost. -/
theorem stream_rating_eq_request_rating_iff (payload usage : JsonDocument)
    (inputTotal outputTotal : UInt64) (pricing : PricingRules) (priceVersionId : Uuid)
    (partialSent : Bool) (reports : ReportsBoth payload usage inputTotal outputTotal) :
    streamRating ⟨priceVersionId, some pricing⟩ partialSent payload =
        requestRating ⟨priceVersionId, some pricing⟩ payload ↔
      ¬ FitLogColumns inputTotal outputTotal ∨
        SameCharge pricing ⟨inputTotal, outputTotal, none, none⟩
          (categorizedUsage usage inputTotal outputTotal) := by
  rw [reports.streamRating_eq, reports.requestRating_eq]
  by_cases fits : FitLogColumns inputTotal outputTotal
  · rw [if_pos fits, if_pos fits, requestRating_eq_iff]
    exact ⟨.inr, fun same => same.resolve_left (not_not_intro fits)⟩
  · rw [if_neg fits, if_neg fits]
    exact iff_of_true rfl (.inl fits)

/-- Ten tokens of input, four of them from a cache. -/
def cachedUsage : JsonDocument :=
  .object [("prompt_tokens", .integer 10), ("completion_tokens", .integer 5),
    ("prompt_tokens_details", .object [("cached_tokens", .integer 4)])]

def cachedPayload : JsonDocument :=
  .object [("usage", cachedUsage)]

/-- With a rate for input alone the stream pays for ten tokens, and the answer in one piece
for six. -/
theorem stream_rating_charges_cached_tokens :
    (streamRating unitPriceVersion true cachedPayload).map (·.finalCost.units.value) = some 10 ∧
      (requestRating unitPriceVersion cachedPayload).map (·.finalCost.units.value) = some 6 := by
  decide +kernel

theorem reportsBoth_cachedPayload : ReportsBoth cachedPayload cachedUsage 10 5 :=
  ⟨rfl, by decide +kernel, by decide +kernel⟩

theorem stream_rating_eq_request_rating_iff_cached : ReportsBoth cachedPayload cachedUsage 10 5 ∧
      (streamRating unitPriceVersion true cachedPayload =
          requestRating unitPriceVersion cachedPayload ↔ ¬ FitLogColumns 10 5 ∨
          SameCharge (inputPricing unitRate) ⟨10, 5, none, none⟩
            (categorizedUsage cachedUsage 10 5)) :=
  ⟨reportsBoth_cachedPayload, stream_rating_eq_request_rating_iff cachedPayload cachedUsage 10 5
    (inputPricing unitRate) Uuid.nil true reportsBoth_cachedPayload⟩

/-! ## What a payload cannot change -/

/-- Rating goes without the details of a payload that there is not. -/
def ratedPayload (usage : AdapterUsage) (runtimePayload : Option JsonDocument) : ProviderPayload :=
  ⟨some usage, runtimePayload.elim (.ok none) extractRuntimeTokenUsageFromValue⟩

/-- For every usage of the adapter with both counts in the range of the log, and whatever the
payload is: there is a usage to be rated, and its categories add up to the adapter's counts. -/
theorem rating_conserves_tokens (inputTotal outputTotal : UInt64)
    (fits : FitLogColumns inputTotal outputTotal) (runtimePayload : Option JsonDocument) :
    ∃ rated, (requestUsageFromAdapterUsage (some ⟨inputTotal, outputTotal⟩)
        ).runtimeTokenUsageForRating (ratedPayload ⟨inputTotal, outputTotal⟩ runtimePayload) =
        some rated ∧ rated.inputTokens.toNat + (rated.cacheTokens.getD 0).toNat = inputTotal.toNat ∧
      rated.outputTokens.toNat + (rated.reasoningTokens.getD 0).toNat = outputTotal.toNat := by
  have totals : requestUsageFromAdapterUsage (some ⟨inputTotal, outputTotal⟩) =
      ⟨u64ToI64 inputTotal, u64ToI64 outputTotal⟩ := rfl
  -- every branch without matching details rates the adapter's own counts
  have fallback : ∃ rated, some (TokenUsage.extended ⟨inputTotal, outputTotal⟩) = some rated ∧
      rated.inputTokens.toNat + (rated.cacheTokens.getD 0).toNat = inputTotal.toNat ∧
      rated.outputTokens.toNat + (rated.reasoningTokens.getD 0).toNat = outputTotal.toNat :=
    ⟨_, rfl, by simp [TokenUsage.extended], by simp [TokenUsage.extended]⟩
  unfold runtimeTokenUsageForRating
  rw [totals, tokenUsageForRating_of_totals, if_pos fits, Option.map_some]
  split
  · split
    · next details _ agreed =>
      obtain ⟨inputSum, outputSum⟩ := (ratingUsageMatches_iff fits).mp agreed
      exact ⟨details, rfl, categoryTotal_eq_some_iff.mp inputSum,
        categoryTotal_eq_some_iff.mp outputSum⟩
    · exact fallback
  · exact fallback

theorem rating_conserves_tokens_cached : FitLogColumns 10 5 ∧ ∃ rated,
    (requestUsageFromAdapterUsage (some ⟨some 10, some 5⟩)).runtimeTokenUsageForRating
        (ratedPayload ⟨some 10, some 5⟩ (some cachedPayload)) = some rated ∧
      rated.inputTokens.toNat + (rated.cacheTokens.getD 0).toNat = 10 ∧
      rated.outputTokens.toNat + (rated.reasoningTokens.getD 0).toNat = 5 :=
  ⟨by decide, rating_conserves_tokens 10 5 (by decide) (some cachedPayload)⟩

end FuboxApi
