import FuboxApi.ConsistentWriter

/-!
# What planning a ledger write establishes

`AppliedWrite` lists what a plan that is to be applied found in the ledger and which draft and
status updates it asks for; no later proof unfolds a planning function.
-/

namespace FuboxApi

open CheckedFold FixedDecimal LedgerContract

variable {entries : List LedgerEntryRecord}

namespace LedgerContract

/-- The refunds of a source that count, in money. -/
def refundedAmount (sourceId : Uuid) (entries : List LedgerEntryRecord) : ℚ :=
  ((entries.filter fun entry => IsActiveRefundOf sourceId entry).map
    fun entry => entry.amount.toRat).sum

@[simp]
theorem refundedAmount_nil (sourceId : Uuid) : refundedAmount sourceId [] = 0 :=
  rfl

theorem refundedAmount_cons (sourceId : Uuid) (entry : LedgerEntryRecord)
    (entries : List LedgerEntryRecord) : refundedAmount sourceId (entry :: entries) =
      (if IsActiveRefundOf sourceId entry then entry.amount.toRat else 0) +
        refundedAmount sourceId entries := by
  by_cases counts : IsActiveRefundOf sourceId entry
  · simp [refundedAmount, counts]
  · simp [refundedAmount, counts]

@[simp]
theorem refundedAmount_append (sourceId : Uuid) (first second : List LedgerEntryRecord) :
    refundedAmount sourceId (first ++ second) =
      refundedAmount sourceId first + refundedAmount sourceId second := by
  simp [refundedAmount]

variable {result total remaining : FixedDecimal}
  {requestId relatedLedgerEntryId : Uuid} {currency : String} {source : LedgerEntryRecord}

theorem checkedNeg_eq_ok {value : FixedDecimal} : checkedNeg value = .ok result ↔
      result.scale = value.scale ∧ result.units.value = -value.units.value :=
  negateOr_eq_ok

theorem checkedSubtract_eq_ok {left right : FixedDecimal}
    (subtracted : checkedSubtract left right = .ok result) :
    left.scale = right.scale ∧ result.scale = left.scale ∧
      result.units.value = left.units.value - right.units.value := by
  obtain ⟨_, same, subtracted⟩ := bind_eq_ok.mp subtracted
  obtain ⟨negated, negation, added⟩ := bind_eq_ok.mp subtracted
  have sameScale : left.scale = right.scale := ensure_eq_ok.mp same
  obtain ⟨_, negatedUnits⟩ := checkedNeg_eq_ok.mp negation
  obtain ⟨_, resultScale, resultUnits⟩ := checkedAdd_eq_ok.mp (mapError_eq_ok.mp added)
  exact ⟨sameScale, resultScale, by omega⟩

theorem debitAmount_eq_ok {field : String} {amount debit : FixedDecimal} :
    debitAmount field amount = .ok debit ↔ 0 < amount.units.value ∧ debit.scale = amount.scale ∧
        debit.units.value = -amount.units.value := by
  simp [debitAmount, bind_eq_ok, requirePositive, checkedNeg]

theorem findByIdempotencyKey_eq_none {key : String} :
    findByIdempotencyKey entries key = none ↔ ∀ entry ∈ entries, entry.idempotencyKey ≠ key := by
  simp [findByIdempotencyKey]

theorem findActiveForRequest_eq_none {entryType : LedgerEntryType} :
    findActiveForRequest entryType entries requestId = none ↔
      ∀ entry ∈ entries, ¬ IsActiveFor entryType requestId entry := by
  simp [findActiveForRequest]

theorem pendingReserveUpdatesForSettle_eq_ok {updates : List LedgerStatusUpdate}
    (planned : pendingReserveUpdatesForSettle entries requestId currency = .ok updates) :
    (∀ entry ∈ pendingReserves entries requestId, entry.currency = currency) ∧
      updates = (pendingReserves entries requestId).map reserveSettledUpdate := by
  have pairs := forall₂_of_mapM planned
  clear planned
  generalize pendingReserves entries requestId = reserves at pairs ⊢
  induction pairs with
  | nil => simp
  | @cons entry update reserves updates converted _ ih =>
    obtain ⟨_, currencyEq, updateEq⟩ := bind_eq_ok.mp converted
    cases updateEq
    refine ⟨?_, by rw [ih.2, List.map_cons]⟩
    intro other otherMem
    rcases List.mem_cons.mp otherMem with rfl | restMem
    · exact ensure_eq_ok.mp currencyEq
    · exact ih.1 other restMem

theorem addRefund_eq_ok {next : FixedDecimal} {entry : LedgerEntryRecord}
    (added : addRefund total entry = .ok next) :
    0 < entry.amount.units.value ∧ total.scale = entry.amount.scale ∧ next.scale = total.scale ∧
      next.units.value = total.units.value + entry.amount.units.value := by
  obtain ⟨_, positive, summed⟩ := bind_eq_ok.mp added
  exact ⟨ensure_eq_ok.mp positive, checkedAdd_eq_ok.mp (mapError_eq_ok.mp summed)⟩

theorem foldlM_addRefund_eq_ok {start : FixedDecimal}
    (folded : entries.foldlM addRefund start = .ok total) : total.scale = start.scale ∧
      total.toRat = start.toRat + (entries.map fun entry => entry.amount.toRat).sum ∧
      ∀ entry ∈ entries, 0 < entry.amount.units.value ∧ entry.amount.scale = start.scale := by
  have positive := foldlM_eq_ok_forall folded (fun _ => True)
    (fun entry : LedgerEntryRecord => 0 < entry.amount.units.value)
    (fun added _ => ⟨trivial, (addRefund_eq_ok added).1⟩) trivial
  obtain ⟨scaleKept, sum, scales⟩ := foldlM_eq_ok_toRat
    (fun entry : LedgerEntryRecord => entry.amount.toRat)
    (fun entry => entry.amount.scale)
    (fun added => by
      obtain ⟨_, same, nextScale, nextUnits⟩ := addRefund_eq_ok added
      exact ⟨same, nextScale, toRat_add nextScale.symm (same ▸ nextScale.symm) nextUnits⟩)
    folded
  exact ⟨scaleKept, sum, fun entry entryMem => ⟨positive entry entryMem, scales entry entryMem⟩⟩

/-- The remaining refundable amount is the debit without the refunds that
were counted, all of which are positive amounts of the source's scale. -/
theorem remainingRefundableAmountExcluding_eq_ok {excluded : Uuid}
    (computed : remainingRefundableAmountExcluding source entries excluded = .ok remaining) :
    remaining.scale = source.amount.scale ∧ remaining.toRat = -source.amount.toRat -
        refundedAmount source.id (entries.filter fun entry => entry.id ≠ excluded) ∧
      ∀ entry ∈ entries, entry.id ≠ excluded → IsActiveRefundOf source.id entry →
          0 < entry.amount.units.value ∧ entry.amount.scale = source.amount.scale := by
  obtain ⟨zero, zeroed, computed⟩ := bind_eq_ok.mp computed
  obtain ⟨debited, negation, computed⟩ := bind_eq_ok.mp computed
  obtain ⟨refunded, folded, subtracted⟩ := bind_eq_ok.mp computed
  obtain ⟨zeroUnits, zeroScale⟩ := zero_eq_ok.mp (mapError_eq_ok.mp zeroed)
  obtain ⟨debitedScale, debitedUnits⟩ := checkedNeg_eq_ok.mp negation
  obtain ⟨scaleEq, remainingScale, remainingUnits⟩ := checkedSubtract_eq_ok subtracted
  obtain ⟨_, sum, counted⟩ := foldlM_addRefund_eq_ok folded
  have zeroAmount : zero.toRat = 0 := toRat_eq_zero_iff.mpr zeroUnits
  have filters : (entries.filter fun entry =>
      entry.id ≠ excluded ∧ IsActiveRefundOf source.id entry) =
      (entries.filter fun entry => entry.id ≠ excluded).filter
        fun entry => IsActiveRefundOf source.id entry := by
    rw [List.filter_filter]
    apply List.filter_congr
    intro entry _
    simp [Bool.and_comm]
  refine ⟨remainingScale.trans debitedScale, ?_, ?_⟩
  · rw [toRat_sub remainingScale.symm (scaleEq ▸ remainingScale.symm) remainingUnits,
      toRat_neg debitedScale.symm debitedUnits, sum, zeroAmount,
      zero_add, refundedAmount, filters]
  · intro entry entryMem differs counts
    have entryCounted := counted entry (List.mem_filter.mpr ⟨entryMem, by simp [differs, counts]⟩)
    exact ⟨entryCounted.1, entryCounted.2.trans zeroScale⟩

/-- The source of a refund: a confirmed settle debit in the refund's currency,
with what is left of it. -/
structure RefundSource (entries : List LedgerEntryRecord) (relatedLedgerEntryId : Uuid)
    (currency : String) (source : LedgerEntryRecord) (remaining : FixedDecimal) : Prop where
  found : entries.find? (fun entry => entry.id = relatedLedgerEntryId) = some source
  settle : source.entryType = .settle
  confirmed : source.status = .confirmed
  debit : source.amount.units.value < 0
  sourceCurrency : source.currency = currency
  computed : remainingRefundableAmount source entries = .ok remaining

theorem RefundSource.mem
    (refundSource : RefundSource entries relatedLedgerEntryId currency source remaining) :
    source ∈ entries ∧ source.id = relatedLedgerEntryId :=
  ⟨List.mem_of_find?_eq_some refundSource.found, by simpa using List.find?_some refundSource.found⟩

theorem findRefundSource_eq_ok : findRefundSource entries relatedLedgerEntryId = .ok source ↔
      entries.find? (fun entry => entry.id = relatedLedgerEntryId) = some source ∧
        source.entryType = .settle ∧ source.status = .confirmed ∧
          source.amount.units.value < 0 := by
  simp only [findRefundSource, bind_eq_ok, okOr_eq_ok, ensure_eq_ok]
  constructor
  · rintro ⟨found, foundEq, _, isDebit, ⟨⟩⟩
    exact ⟨foundEq, isDebit⟩
  · rintro ⟨foundEq, isDebit⟩
    exact ⟨source, foundEq, (), isDebit, rfl⟩

end LedgerContract

namespace ConsistentWriter

/-- A write that is to be applied: what its planning found among the entries,
the draft it adds and the status updates that come with it. -/
inductive AppliedWrite (entries : List LedgerEntryRecord) :
    ConsistentLedgerWriteRequest → LedgerEntryDraft → List LedgerStatusUpdate → Prop
  | reserve {scope : ConsistentLedgerScope} {requestId : Uuid}
      {amount debit : FixedDecimal} {currency : String}
      (positive : 0 < amount.units.value)
      (debitScale : debit.scale = amount.scale)
      (debitUnits : debit.units.value = -amount.units.value)
      (noSettle : ∀ entry ∈ entries, ¬ IsActiveFor .settle requestId entry)
      (noReserve : ∀ entry ∈ entries, ¬ IsActiveFor .reserve requestId entry) :
      AppliedWrite entries (.reserve scope requestId amount currency)
        (reserveDraft ⟨requestId, amount, currency⟩ debit) []
  | settle {scope : ConsistentLedgerScope} {requestId : Uuid}
      {finalCost debit : FixedDecimal} {currency : String}
      (positive : 0 < finalCost.units.value)
      (debitScale : debit.scale = finalCost.scale)
      (debitUnits : debit.units.value = -finalCost.units.value)
      (noSettle : ∀ entry ∈ entries, ¬ IsActiveFor .settle requestId entry)
      (reserveCurrency : ∀ entry ∈ pendingReserves entries requestId, entry.currency = currency) :
      AppliedWrite entries (.settle scope requestId finalCost currency)
        (settleDraft ⟨requestId, finalCost, currency⟩ debit (.settle requestId))
        ((pendingReserves entries requestId).map reserveSettledUpdate)
  | refundFull {scope : ConsistentLedgerScope} {relatedLedgerEntryId : Uuid}
      {currency : String} {source : LedgerEntryRecord} {remaining : FixedDecimal}
      (refundSource : RefundSource entries relatedLedgerEntryId currency source remaining)
      (positive : 0 < remaining.units.value) :
      AppliedWrite entries (.refundFull scope relatedLedgerEntryId currency)
        (refundDraft source ⟨relatedLedgerEntryId, none, currency, .full, .refund,
            refundLedgerIdempotencyKey relatedLedgerEntryId⟩ remaining)
        []
  | refundPartial {scope : ConsistentLedgerScope}
      {relatedLedgerEntryId refundOperationId : Uuid} {amount : FixedDecimal}
      {currency : String} {source : LedgerEntryRecord} {remaining : FixedDecimal}
      (refundSource : RefundSource entries relatedLedgerEntryId currency source remaining)
      (positive : 0 < amount.units.value)
      (amountScale : remaining.scale = amount.scale)
      (less : amount < remaining) :
      AppliedWrite entries
        (.refundPartial scope relatedLedgerEntryId refundOperationId amount currency)
        (refundDraft source ⟨relatedLedgerEntryId, some amount, currency, .partialAmount,
            .refundPartial, refundPartialLedgerIdempotencyKey relatedLedgerEntryId
              refundOperationId⟩ amount)
        []
  | adminAdjustment {scope : ConsistentLedgerScope}
      {adjustmentOperationId : Uuid} {requestId : Option Uuid}
      {relatedLedgerEntryId : Option Uuid} {amount : FixedDecimal}
      {currency : String} (nonzero : amount.units.value ≠ 0) :
      AppliedWrite entries (.adminAdjustment scope adjustmentOperationId requestId
          relatedLedgerEntryId amount currency)
        (adminAdjustmentDraft ⟨adjustmentOperationId, requestId, relatedLedgerEntryId, amount,
            currency⟩)
        []

/-- The plan that applies a draft with its status updates. -/
def plannedWrite (request : ConsistentLedgerWriteRequest) (draft : LedgerEntryDraft)
    (updates : List LedgerStatusUpdate) : LedgerOperationPlan where
  operation := request.operation
  idempotencyKey := request.idempotencyKey
  outcome := .apply
  entries := [draft]
  statusUpdates := updates

variable {request : ConsistentLedgerWriteRequest}

section

variable {draft : LedgerEntryDraft} {updates : List LedgerStatusUpdate}
  (write : AppliedWrite entries request draft updates)

include write

theorem AppliedWrite.draft_key : draft.idempotencyKey = request.idempotencyKey := by
  cases write <;> rfl

theorem AppliedWrite.draft_currency : draft.currency = request.currency := by
  cases write with
  | reserve => rfl
  | settle => rfl
  | refundFull refundSource | refundPartial refundSource => exact refundSource.sourceCurrency
  | adminAdjustment => rfl

theorem AppliedWrite.draft_active : draft.status.IsActive := by
  cases write <;> simp [reserveDraft, settleDraft, refundDraft, adminAdjustmentDraft]

end

variable {scope : ConsistentLedgerScope} {plan : LedgerOperationPlan} {currency : String}

/-- A plan replays the entry that is stored under the key of the request. -/
def ReplaysEntry (entries : List LedgerEntryRecord) (operation : LedgerOperationKind) (key : String)
    (plan : LedgerOperationPlan) : Prop :=
  ∃ existing ∈ entries, existing.idempotencyKey = key ∧
    plan = idempotentPlan operation key existing.id

/-- A plan applies a draft for a request whose key no entry has. -/
def AppliesDraft (entries : List LedgerEntryRecord) (request : ConsistentLedgerWriteRequest)
    (plan : LedgerOperationPlan) : Prop :=
  ∃ draft updates, AppliedWrite entries request draft updates ∧
    plan = plannedWrite request draft updates ∧
    ∀ entry ∈ entries, entry.idempotencyKey ≠ request.idempotencyKey

def PlannedAs (entries : List LedgerEntryRecord) (request : ConsistentLedgerWriteRequest)
    (plan : LedgerOperationPlan) : Prop :=
  ReplaysEntry entries request.operation request.idempotencyKey plan ∨
    AppliesDraft entries request plan

private theorem replaysEntry_of_found {α : Type} {key : String} {stored : LedgerEntryRecord}
    {matching : ContractResult α} {operation : LedgerOperationKind}
    (found : findByIdempotencyKey entries key = some stored)
    (planned : (matching >>= fun _ => pure (idempotentPlan operation key stored.id)) = .ok plan) :
    ReplaysEntry entries operation key plan := by
  obtain ⟨_, _, planEq⟩ := bind_eq_ok.mp planned
  cases planEq
  have keyEq : stored.idempotencyKey = key := by simpa using List.find?_some found
  exact ⟨stored, List.mem_of_find?_eq_some found, keyEq, rfl⟩

private theorem reserve_plannedAs {requestId : Uuid} {amount : FixedDecimal}
    (planned : planLedgerReserve ⟨requestId, amount, currency⟩ entries = .ok plan) :
    PlannedAs entries (.reserve scope requestId amount currency) plan := by
  obtain ⟨_, _, planned⟩ := bind_eq_ok.mp planned
  obtain ⟨debit, debited, planned⟩ := bind_eq_ok.mp planned
  obtain ⟨positive, debitScale, debitUnits⟩ := debitAmount_eq_ok.mp debited
  dsimp only at planned
  split at planned
  · next stored found => exact .inl (replaysEntry_of_found found planned)
  · next absent =>
    obtain ⟨_, noSettle, planned⟩ := bind_eq_ok.mp planned
    obtain ⟨_, noReserve, planEq⟩ := bind_eq_ok.mp planned
    cases planEq
    exact .inr ⟨_, _, .reserve positive debitScale debitUnits
        (findActiveForRequest_eq_none.mp (ensure_eq_ok.mp noSettle))
        (findActiveForRequest_eq_none.mp (ensure_eq_ok.mp noReserve)),
      rfl, findByIdempotencyKey_eq_none.mp absent⟩

theorem planLedgerSettle_cases {request : SettleLedgerRequest} {metadata : LedgerEntryMetadata}
    (planned : planLedgerSettleWithMetadata request entries metadata = .ok plan) :
    ReplaysEntry entries .settle (settleLedgerIdempotencyKey request.requestId) plan ∨
      ∃ amount, debitAmount "final_cost" request.finalCost = .ok amount ∧
        findActiveSettleForRequest entries request.requestId = none ∧
        (∀ reserve ∈ pendingReserves entries request.requestId,
          reserve.currency = request.currency) ∧
        plan = { applyPlan .settle (settleLedgerIdempotencyKey request.requestId)
            (settleDraft request amount metadata) with statusUpdates :=
              (pendingReserves entries request.requestId).map reserveSettledUpdate } ∧
        ∀ entry ∈ entries, entry.idempotencyKey ≠ settleLedgerIdempotencyKey request.requestId := by
  obtain ⟨_, _, planned⟩ := bind_eq_ok.mp planned
  obtain ⟨amount, debited, planned⟩ := bind_eq_ok.mp planned
  dsimp only at planned
  split at planned
  · next stored found => exact .inl (replaysEntry_of_found found planned)
  · next absent =>
    obtain ⟨_, noSettle, planned⟩ := bind_eq_ok.mp planned
    obtain ⟨updates, updated, planEq⟩ := bind_eq_ok.mp planned
    obtain ⟨reserveCurrency, rfl⟩ := pendingReserveUpdatesForSettle_eq_ok updated
    exact .inr ⟨amount, debited, ensure_eq_ok.mp noSettle, reserveCurrency,
      (Except.ok.inj planEq).symm, findByIdempotencyKey_eq_none.mp absent⟩

private theorem settle_plannedAs {requestId : Uuid} {finalCost : FixedDecimal}
    (planned : planLedgerSettle ⟨requestId, finalCost, currency⟩ entries = .ok plan) :
    PlannedAs entries (.settle scope requestId finalCost currency) plan := by
  refine (planLedgerSettle_cases planned).imp_right ?_
  rintro ⟨debit, debited, noSettle, reserveCurrency, planEq, absent⟩
  obtain ⟨positive, debitScale, debitUnits⟩ := debitAmount_eq_ok.mp debited
  exact ⟨_, _, .settle positive debitScale debitUnits (findActiveForRequest_eq_none.mp noSettle)
    reserveCurrency, planEq, absent⟩

/-- The common part of both refunds: a plan that replays nothing found a source and pays
back a positive part of what remains of it. -/
private theorem refund_cases {request : RefundLedgerRequest} {refund : NormalizedRefundRequest}
    (normalized : normalizeRefundRequest request = .ok refund)
    (planned : planLedgerRefund request entries = .ok plan) :
    ReplaysEntry entries refund.operation refund.idempotencyKey plan ∨ ∃ source remaining amount,
      RefundSource entries refund.relatedLedgerEntryId refund.currency source remaining ∧
      refundAmount refund remaining = .ok amount ∧ 0 < amount.units.value ∧
      plan = applyPlan refund.operation refund.idempotencyKey (refundDraft source refund amount) ∧
      ∀ entry ∈ entries, entry.idempotencyKey ≠ refund.idempotencyKey := by
  obtain ⟨_, normalizedEq, planned⟩ := bind_eq_ok.mp planned
  cases normalized.symm.trans normalizedEq
  obtain ⟨_, _, planned⟩ := bind_eq_ok.mp planned
  obtain ⟨source, sourced, planned⟩ := bind_eq_ok.mp planned
  obtain ⟨_, sameCurrency, planned⟩ := bind_eq_ok.mp planned
  obtain ⟨found, settle, confirmed, debit⟩ := findRefundSource_eq_ok.mp sourced
  split at planned
  · next stored found =>
    obtain ⟨_, _, planned⟩ := bind_eq_ok.mp planned
    exact .inl (replaysEntry_of_found found planned)
  · next absent =>
    obtain ⟨remaining, computed, planned⟩ := bind_eq_ok.mp planned
    obtain ⟨amount, chosen, planned⟩ := bind_eq_ok.mp planned
    obtain ⟨_, positive, planned⟩ := bind_eq_ok.mp planned
    obtain ⟨_, _, planEq⟩ := bind_eq_ok.mp planned
    cases planEq
    exact .inr ⟨source, remaining, amount,
      ⟨found, settle, confirmed, debit, ensure_eq_ok.mp sameCurrency, computed⟩,
      chosen, ensure_eq_ok.mp positive, rfl, findByIdempotencyKey_eq_none.mp absent⟩

private theorem adminAdjustment_plannedAs {adjustmentOperationId : Uuid}
    {requestId relatedLedgerEntryId : Option Uuid} {amount : FixedDecimal} (planned :
      planLedgerAdminAdjustment
        ⟨adjustmentOperationId, requestId, relatedLedgerEntryId, amount, currency⟩
        entries = .ok plan) : PlannedAs entries (.adminAdjustment scope adjustmentOperationId
      requestId relatedLedgerEntryId amount currency) plan := by
  obtain ⟨_, _, planned⟩ := bind_eq_ok.mp planned
  obtain ⟨_, notZero, planned⟩ := bind_eq_ok.mp planned
  have nonzero : amount.units.value ≠ 0 := by
    simpa [isZero] using ensure_eq_ok.mp notZero
  dsimp only at planned
  split at planned
  · next stored found => exact .inl (replaysEntry_of_found found planned)
  · next absent =>
    cases planned
    exact .inr ⟨_, _, .adminAdjustment nonzero, rfl, findByIdempotencyKey_eq_none.mp absent⟩

variable (planned : planInnerLedgerWrite request entries = .ok plan)

include planned

theorem planInnerLedgerWrite_currency : validateCurrency request.currency = .ok () := by
  cases request with
  | reserve | settle | adminAdjustment =>
    obtain ⟨_, valid, _⟩ := bind_eq_ok.mp planned
    exact valid
  | refundFull | refundPartial =>
    obtain ⟨_, normalized, planned⟩ := bind_eq_ok.mp planned
    cases normalized
    obtain ⟨_, valid, _⟩ := bind_eq_ok.mp planned
    exact valid

theorem planInnerLedgerWrite_plannedAs : PlannedAs entries request plan := by
  cases request with
  | reserve scope requestId amount currency => exact reserve_plannedAs planned
  | settle scope requestId finalCost currency => exact settle_plannedAs planned
  | refundFull scope relatedLedgerEntryId currency =>
    refine (refund_cases rfl planned).imp_right ?_
    rintro ⟨source, remaining, amount, refundSource, chosen, positive, planEq, absent⟩
    cases chosen
    exact ⟨_, _, .refundFull refundSource positive, planEq, absent⟩
  | refundPartial scope relatedLedgerEntryId refundOperationId amount currency =>
    refine (refund_cases rfl planned).imp_right ?_
    rintro ⟨source, remaining, chosenAmount, refundSource, chosen, positive, planEq, absent⟩
    obtain ⟨_, requestedEq, chosen⟩ := bind_eq_ok.mp chosen
    cases requestedEq
    obtain ⟨_, _, chosen⟩ := bind_eq_ok.mp chosen
    obtain ⟨_, sameScale, chosen⟩ := bind_eq_ok.mp chosen
    obtain ⟨_, less, chosen⟩ := bind_eq_ok.mp chosen
    cases chosen
    exact ⟨_, _, .refundPartial refundSource positive (ensure_eq_ok.mp sameScale)
        (ensure_eq_ok.mp less), planEq, absent⟩
  | adminAdjustment scope adjustmentOperationId requestId relatedLedgerEntryId amount currency =>
    exact adminAdjustment_plannedAs planned

theorem planInnerLedgerWrite_apply (applies : plan.outcome = .apply) :
    AppliesDraft entries request plan := by
  rcases planInnerLedgerWrite_plannedAs planned with ⟨existing, _, _, rfl⟩ | applied
  · cases applies
  · exact applied

theorem planInnerLedgerWrite_replay (replays : plan.outcome ≠ .apply) :
    ReplaysEntry entries request.operation request.idempotencyKey plan := by
  rcases planInnerLedgerWrite_plannedAs planned with replayed | ⟨draft, updates, _, rfl, _⟩
  · exact replayed
  · exact absurd rfl replays

end ConsistentWriter

end FuboxApi
