import FuboxApi.ExactCacheSpec
import FuboxApi.InMemoryWriterSteps

/-!
# The hold of an exact-cache request

The cost of a request may be held by a pending reserve, which settling reverses. Exact-cache billing
plans a settle only if the total is not zero, so a free request keeps its hold.
-/

namespace FuboxApi

open CheckedFold LedgerContract ConsistentWriter InMemoryConsistentLedgerWriter

variable {entries : List LedgerEntryRecord}

def ledgerAfter (writer : InMemoryConsistentLedgerWriter) :
    Option LedgerOperationPlan → List LedgerEntryRecord
  | none => writer.state.ledgerEntries
  | some plan => (writer.applyLedgerPlan plan).1.state.ledgerEntries

/-- No reserve of the request is pending. -/
def HoldCleared (requestId : Uuid) (entries : List LedgerEntryRecord) : Prop :=
  ∀ entry ∈ entries, ¬ IsPendingReserveFor requestId entry

instance (requestId : Uuid) (entries : List LedgerEntryRecord) :
    Decidable (HoldCleared requestId entries) :=
  inferInstanceAs (Decidable (∀ _ ∈ _, _))

theorem holdCleared_reversePendingReserves (requestId : Uuid) (entries : List LedgerEntryRecord) :
    HoldCleared requestId (reversePendingReserves requestId entries) := by
  intro entry entryMem
  obtain ⟨before, _, rfl⟩ := List.mem_map.mp entryMem
  split
  · intro pending
    exact absurd pending.2.2 (by simp [reverseEntry])
  · next notPending => exact notPending

theorem mem_ledgerEntries_pushDraft {writer : InMemoryConsistentLedgerWriter}
    {draft : LedgerEntryDraft} {entry : LedgerEntryRecord}
    (entryMem : entry ∈ (pushDrafts [draft] writer).1.state.ledgerEntries) :
    entry ∈ writer.state.ledgerEntries ∨ ∃ id, entry = recordOfDraft id draft := by
  unfold pushDrafts takeNextLedgerEntryId at entryMem
  cases taken : Uuid.fromU128 (writer.nextLedgerEntryId.asU128 + 1) with
  | none =>
    rw [taken] at entryMem
    exact .inl entryMem
  | some next =>
    rw [taken] at entryMem
    rcases List.mem_append.mp entryMem with before | added
    · exact .inl before
    · exact .inr ⟨_, List.mem_singleton.mp added⟩

section

variable {writer : InMemoryConsistentLedgerWriter} {request : SettleLedgerRequest}
  {metadata : LedgerEntryMetadata} {plan : LedgerOperationPlan}
  (planned : planLedgerSettleWithMetadata request writer.state.ledgerEntries metadata = .ok plan)

include planned

theorem holdCleared_settle (distinct : (writer.state.ledgerEntries.map LedgerEntryRecord.id).Nodup)
    (fresh : ∀ entry ∈ writer.state.ledgerEntries,
      entry.idempotencyKey ≠ settleLedgerIdempotencyKey request.requestId) :
    HoldCleared request.requestId (ledgerAfter writer (some plan)) := by
  rcases planLedgerSettle_cases planned with
    ⟨entry, entryMem, sameKey, _⟩ | ⟨amount, _, _, _, rfl, _⟩
  · exact absurd sameKey (fresh entry entryMem)
  have updated := applyStatusUpdates_pendingReserves distinct request.requestId
  intro entry entryMem
  simp only [ledgerAfter, applyLedgerPlan, applyPlan, updated] at entryMem
  rcases mem_ledgerEntries_pushDraft entryMem with before | ⟨id, rfl⟩
  · exact holdCleared_reversePendingReserves _ _ entry before
  · intro pending
    exact absurd pending.2.1 (by simp [recordOfDraft, settleDraft])

theorem ledgerAfter_replay (settled : ∃ entry ∈ writer.state.ledgerEntries,
      entry.idempotencyKey = settleLedgerIdempotencyKey request.requestId) :
    ledgerAfter writer (some plan) = writer.state.ledgerEntries := by
  rcases planLedgerSettle_cases planned with ⟨_, _, _, rfl⟩ | ⟨_, _, _, _, _, fresh⟩
  · rfl
  · obtain ⟨entry, entryMem, sameKey⟩ := settled
    exact absurd sameKey (fresh entry entryMem)

end

theorem exactCacheLedgerPlan_cases {request : ExactCacheBillingRequest}
    {pricing : ExactCachePricingRules} {plan : ExactCacheBillingPlan}
    (planned : planExactCacheBilling request pricing entries = .ok plan) :
    ((¬ ∃ charge ∈ request.charges pricing, charge.Costs) ∧ plan.ledgerPlan = none) ∨
      (∃ charge ∈ request.charges pricing, charge.Costs) ∧
        ∃ settlePlan, plan.ledgerPlan = some settlePlan ∧ planLedgerSettleWithMetadata
            ⟨request.requestId, plan.rating.totalCost, plan.rating.currency⟩ entries
            (.settle request.requestId) = .ok settlePlan := by
  obtain ⟨_, _, planned⟩ := bind_eq_ok.mp planned
  obtain ⟨_, _, planned⟩ := bind_eq_ok.mp planned
  obtain ⟨readKey, _, planned⟩ := bind_eq_ok.mp planned
  obtain ⟨writeKey, _, planned⟩ := bind_eq_ok.mp planned
  obtain ⟨operationKey, _, planned⟩ := bind_eq_ok.mp planned
  obtain ⟨rating, rated, planned⟩ := bind_eq_ok.mp planned
  obtain ⟨ledgerPlan, ledgerPlanned, built⟩ := bind_eq_ok.mp planned
  cases built
  obtain ⟨zero, rated⟩ := exists_ratedRequest rated
  rw [mapError_eq_ok, exactCacheLedgerPlan] at ledgerPlanned
  split at ledgerPlanned
  · next isZero =>
    cases ledgerPlanned
    exact .inl ⟨rated.isZero_iff.mp isZero, rfl⟩
  · next notZero =>
    obtain ⟨settlePlan, settled, rfl⟩ := map_eq_ok.mp ledgerPlanned
    exact .inr ⟨not_not.mp (mt rated.isZero_iff.mpr notZero), settlePlan, rfl, settled⟩

/-- The hold of a request is cleared exactly if there was none, or if some part of the
request costs something and the request was not settled before. -/
theorem exact_cache_clears_hold_iff (writer : InMemoryConsistentLedgerWriter)
    (distinct : (writer.state.ledgerEntries.map LedgerEntryRecord.id).Nodup)
    (request : ExactCacheBillingRequest) (pricing : ExactCachePricingRules)
    (plan : ExactCacheBillingPlan)
    (planned : planExactCacheBilling request pricing writer.state.ledgerEntries = .ok plan) :
    HoldCleared request.requestId (ledgerAfter writer plan.ledgerPlan) ↔
      HoldCleared request.requestId writer.state.ledgerEntries ∨
        (∃ charge ∈ request.charges pricing, charge.Costs) ∧ ∀ entry ∈ writer.state.ledgerEntries,
            entry.idempotencyKey ≠ settleLedgerIdempotencyKey request.requestId := by
  rcases exactCacheLedgerPlan_cases planned with
    ⟨noCharge, nothingPlanned⟩ | ⟨charged, settlePlan, settlePlanned, settled⟩
  · rw [nothingPlanned]
    exact ⟨.inl, fun cleared => cleared.resolve_right fun ⟨charged, _⟩ => noCharge charged⟩
  rw [settlePlanned]
  by_cases fresh : ∀ entry ∈ writer.state.ledgerEntries,
      entry.idempotencyKey ≠ settleLedgerIdempotencyKey request.requestId
  · exact iff_of_true (holdCleared_settle settled distinct fresh) (.inr ⟨charged, fresh⟩)
  · have replayed : ∃ entry ∈ writer.state.ledgerEntries,
        entry.idempotencyKey = settleLedgerIdempotencyKey request.requestId := by
      push Not at fresh
      exact fresh
    rw [ledgerAfter_replay settled replayed]
    exact ⟨.inl, fun cleared => cleared.resolve_right fun ⟨_, isFresh⟩ => fresh isFresh⟩

/-! ## A free hit and a charged one -/

/-- A ledger with a pending reserve of request 101. -/
def reservedWriter : InMemoryConsistentLedgerWriter where
  state :=
    { wallet := none
      creditGrants := []
      budgets := []
      ledgerEntries :=
        [⟨sampleId 1, some (sampleId 101), none, .reserve, sampleMoney (-5000), "USD", .pending,
          reserveLedgerIdempotencyKey (sampleId 101)⟩] }
  nextLedgerEntryId := sampleId 2

def samplePricing : ExactCachePricingRules where
  currency := "USD"
  scale := defaultMoneyScale
  inputTokenRatePerMillion := sampleMoney 100000000
  outputTokenRatePerMillion := sampleMoney 200000000
  cacheReadTokenRatePerMillion := sampleMoney 5000000
  cacheWriteTokenRatePerMillion := sampleMoney 2000000
  fixedCacheReadCost := sampleMoney 100000
  fixedCacheWriteCost := sampleMoney 30000
  fixedRequestCost := sampleMoney 10000

def hitRequest (readPolicy : ExactCacheReadPolicy) : ExactCacheBillingRequest where
  requestId := sampleId 101
  cacheStatus := .hit
  cacheKeyHash := "sha256:1111111111111111111111111111111111111111111111111111111111111111"
  cacheEntryId := some (sampleId 103)
  inputTokens := 1000
  outputTokens := 0
  cacheReadTokens := 1000
  cacheWriteTokens := 0
  readPolicy := readPolicy
  writePolicy := .disabled

def ledgerAfterHit (readPolicy : ExactCacheReadPolicy) : CacheResult (List LedgerEntryRecord) :=
  (planExactCacheBilling (hitRequest readPolicy) samplePricing
    reservedWriter.state.ledgerEntries).map fun plan =>
      ledgerAfter reservedWriter plan.ledgerPlan

/-- A hit that costs nothing is planned, and its hold stays pending. -/
theorem free_hit_keeps_hold :
    ∃ entries, ledgerAfterHit .disabled = .ok entries ∧ ¬ HoldCleared (sampleId 101) entries :=
  ⟨reservedWriter.state.ledgerEntries, by decide +kernel, by decide +kernel⟩

/-- A hit at the discounted rate clears it. -/
theorem exact_cache_clears_hold_discountedHit :
    ∃ plan, planExactCacheBilling (hitRequest .discountedInputTokens) samplePricing
        reservedWriter.state.ledgerEntries = .ok plan ∧
      HoldCleared (sampleId 101) (ledgerAfter reservedWriter plan.ledgerPlan) := by
  have succeeds : (planExactCacheBilling (hitRequest .discountedInputTokens) samplePricing
      reservedWriter.state.ledgerEntries).toOption.isSome = true := by decide +kernel
  have planned := eq_ok_get succeeds
  have distinct : (reservedWriter.state.ledgerEntries.map LedgerEntryRecord.id).Nodup := by
    decide +kernel
  have charged : ∃ charge ∈ (hitRequest .discountedInputTokens).charges samplePricing,
      charge.Costs := by decide +kernel
  have fresh : ∀ entry ∈ reservedWriter.state.ledgerEntries,
      entry.idempotencyKey ≠ settleLedgerIdempotencyKey (sampleId 101) := by decide +kernel
  exact ⟨_, planned,
    (exact_cache_clears_hold_iff reservedWriter distinct _ _ _ planned).mpr (.inr ⟨charged, fresh⟩)⟩

end FuboxApi
