import FuboxApi.GrowingLists
import FuboxApi.InMemoryWriterBalance
import FuboxApi.InMemoryWriterRefunds
import FuboxApi.ReplayPlanning

/-!
# Replays of applied requests

The entry of an applied request stays the first entry of its key, and nothing of it changes but that
a settle may reverse a pending reserve. So a replay finds the entry it compares itself with.
-/

namespace FuboxApi

open CheckedFold LedgerContract ConsistentWriter TransitionRuns GrowingLists

namespace ConsistentWriter

/-- What the status updates of an applied request make of an entry. -/
def updateEntry (request : ConsistentLedgerWriteRequest) (entry : LedgerEntryRecord) :
    LedgerEntryRecord :=
  match request with
  | .settle _ requestId _ _ =>
    if IsPendingReserveFor requestId entry then reverseEntry entry else entry
  | _ => entry

theorem entriesAfterUpdates_eq_map (request : ConsistentLedgerWriteRequest)
    (entries : List LedgerEntryRecord) :
    entriesAfterUpdates request entries = entries.map (updateEntry request) := by
  cases request with
  | settle => rfl
  | _ => exact (List.map_id _).symm

theorem updateEntry_cases (request : ConsistentLedgerWriteRequest) (entry : LedgerEntryRecord) :
    updateEntry request entry = entry ∨ entry.entryType = .reserve ∧ entry.status = .pending ∧
        updateEntry request entry = reverseEntry entry := by
  cases request with
  | settle scope requestId finalCost currency =>
    by_cases isPending : IsPendingReserveFor requestId entry
    · exact Or.inr ⟨isPending.2.1, isPending.2.2, if_pos isPending⟩
    · exact Or.inl (if_neg isPending)
  | _ => exact Or.inl rfl

theorem find?_entriesAfterUpdates {α : Type} [DecidableEq α] (field : LedgerEntryRecord → α)
    (kept : ∀ original, field (reverseEntry original) = field original) (target : α)
    (request : ConsistentLedgerWriteRequest) (entries : List LedgerEntryRecord) :
    (entriesAfterUpdates request entries).find? (fun entry => field entry = target) =
      (entries.find? fun entry => field entry = target).map (updateEntry request) := by
  have sameField : ∀ entry, field (updateEntry request entry) = field entry := by
    intro entry
    rcases updateEntry_cases request entry with same | ⟨_, _, reversed⟩
    · rw [same]
    · rw [reversed, kept]
  rw [entriesAfterUpdates_eq_map, List.find?_map]
  congr 2
  funext entry
  simp [sameField]

/-- A record as it was written, or reversed by a settle. -/
def IsStoredFormOf (record stored : LedgerEntryRecord) : Prop :=
  stored = record ∨ record.entryType = .reserve ∧ record.status = .pending ∧
      stored = reverseEntry record

theorem IsStoredFormOf.updateEntry {record stored : LedgerEntryRecord}
    (form : IsStoredFormOf record stored) (request : ConsistentLedgerWriteRequest) :
    IsStoredFormOf record (ConsistentWriter.updateEntry request stored) := by
  rcases updateEntry_cases request stored with same | ⟨isReserve, pending, reversed⟩
  · rw [same]
    exact form
  · rcases form with rfl | ⟨_, _, rfl⟩
    · exact Or.inr ⟨isReserve, pending, reversed⟩
    · cases pending

end ConsistentWriter

namespace InMemoryConsistentLedgerWriter

variable {id : Uuid} {stored record source : LedgerEntryRecord} {currency : String}
  {wallet : ConsistentWalletSnapshot} {entries : List LedgerEntryRecord} {remaining : FixedDecimal}

theorem ensureExistingMatchesDraft_of_storedForm {draft : LedgerEntryDraft}
    (form : IsStoredFormOf (recordOfDraft id draft) stored) :
    ensureExistingMatchesDraft stored draft = .ok () := by
  apply ensure_eq_ok.mpr
  rcases form with rfl | ⟨isReserve, pending, rfl⟩
  · exact ⟨rfl, rfl, rfl, rfl, rfl, Or.inl rfl⟩
  · exact ⟨rfl, rfl, rfl, rfl, rfl, Or.inr ⟨isReserve, pending, rfl⟩⟩

/-- The ledger holds a stored form of the record under the record's key. -/
def Remembers (record : LedgerEntryRecord) (writer : InMemoryConsistentLedgerWriter) : Prop :=
  ∃ stored, findByIdempotencyKey writer.state.ledgerEntries
      record.idempotencyKey = some stored ∧ IsStoredFormOf record stored

variable {writer after : InMemoryConsistentLedgerWriter} {request : ConsistentLedgerWriteRequest}
  {outcome : ConsistentLedgerCommandExecutionOutcome}

theorem Remembers.step (stepped : StepResult writer request after outcome)
    (remembers : Remembers record writer) : Remembers record after := by
  obtain ⟨stored, found, form⟩ := remembers
  have updatedFound : findByIdempotencyKey (entriesAfterUpdates request writer.state.ledgerEntries)
      record.idempotencyKey = some (updateEntry request stored) := by
    rw [findByIdempotencyKey, find?_entriesAfterUpdates
      LedgerEntryRecord.idempotencyKey fun _ => rfl]
    rw [findByIdempotencyKey] at found
    rw [found, Option.map_some]
  cases stepped with
  | unchanged => exact ⟨stored, found, form⟩
  | exhausted => exact ⟨_, updatedFound, form.updateEntry request⟩
  | applied =>
    refine ⟨_, ?_, form.updateEntry request⟩
    rw [findByIdempotencyKey] at updatedFound ⊢
    rw [afterWrite, List.find?_append, updatedFound, Option.some_or]

theorem grows_of_step {earlier : List LedgerEntryRecord}
    (stepped : StepResult writer request after outcome)
    (grows : Grows IsStoredFormOf earlier writer.state.ledgerEntries) :
    Grows IsStoredFormOf earlier after.state.ledgerEntries := by
  have updated : Grows IsStoredFormOf earlier
      (entriesAfterUpdates request writer.state.ledgerEntries) := by
    rw [entriesAfterUpdates_eq_map]
    exact grows.map fun _ _ form => form.updateEntry request
  cases stepped with
  | unchanged => exact grows
  | exhausted => exact updated
  | applied => exact updated.append _

section

variable {plan : ConsistentLedgerWriterPlan} {draft : LedgerEntryDraft}
  {updates : List LedgerStatusUpdate}
  (planned : WritePlanned writer.state request plan draft updates)

include planned

theorem remembers_afterWrite (next : Uuid) :
    Remembers (recordOfDraft writer.nextLedgerEntryId draft)
      (writer.afterWrite request draft next) := by
  refine ⟨_, ?_, Or.inl rfl⟩
  have absent : (entriesAfterUpdates request writer.state.ledgerEntries).find?
      (fun entry => entry.idempotencyKey = draft.idempotencyKey) = none := by
    rw [find?_entriesAfterUpdates LedgerEntryRecord.idempotencyKey fun _ => rfl]
    have noneBefore := findByIdempotencyKey_eq_none.mpr planned.keyFresh
    rw [findByIdempotencyKey, ← planned.write.draft_key] at noneBefore
    rw [noneBefore, Option.map_none]
  change ((entriesAfterUpdates request writer.state.ledgerEntries) ++
    [recordOfDraft writer.nextLedgerEntryId draft]).find?
      (fun entry => entry.idempotencyKey = draft.idempotencyKey) = _
  rw [List.find?_append, absent, Option.none_or]
  simp [recordOfDraft]

theorem replayContext_afterWrite (next : Uuid) : ∃ wallet, ReplayContext request.currency wallet
      (writer.afterWrite request draft next).state := by
  obtain ⟨wallet, required, credit, facts⟩ := planConsistentLedgerWrite_eq_ok planned.planned
  obtain ⟨draftScale, requiredNonneg, _⟩ := planned.required_debit facts
  refine ⟨wallet, facts.walletFound, facts.walletCurrency, ?_, ?_, ?_⟩
  · obtain ⟨total, summed, _⟩ := bind_eq_ok.mp facts.window
    exact ⟨total, summed⟩
  · intro budget known active currencyEq
    obtain ⟨sameScale, enough⟩ := facts.budget_covered known active
      (currencyEq.trans facts.walletCurrency.symm)
    refine ⟨sameScale.trans facts.required_scale, ?_⟩
    by_contra negative
    have := FixedDecimal.toRat_lt_zero_iff.mpr (not_le.mp negative)
    linarith
  · intro entry entryMem currencyEq active
    rcases List.mem_append.mp entryMem with oldMem | newMem
    · exact facts.entry_scale (mem_of_active_mem_entriesAfterUpdates oldMem active)
        (currencyEq.trans facts.walletCurrency.symm) active
    · rw [List.mem_singleton.mp newMem]
      exact draftScale

end

theorem replayContext_of_step (stepped : StepResult writer request after outcome)
    (context : ReplayContext currency wallet writer.state) :
    ReplayContext currency wallet after.state := by
  obtain ⟨walletKept, grantsKept, budgetsKept⟩ := snapshot_of_step stepped
  refine ⟨walletKept.trans context.walletFound, context.walletCurrency,
    grantsKept ▸ context.grantsSummable, budgetsKept ▸ context.budgets, ?_⟩
  intro entry entryMem currencyEq active
  cases stepped with
  | unchanged => exact context.entryScale entry entryMem currencyEq active
  | exhausted =>
    exact context.entryScale entry
      (mem_of_active_mem_entriesAfterUpdates entryMem active) currencyEq active
  | @applied plan draft updates next planned advanced =>
    rcases List.mem_append.mp entryMem with oldMem | newMem
    · exact context.entryScale entry
        (mem_of_active_mem_entriesAfterUpdates oldMem active) currencyEq active
    · obtain ⟨_, required, credit, facts⟩ :=
        planConsistentLedgerWrite_eq_ok planned.planned
      cases context.walletFound.symm.trans facts.walletFound
      rw [List.mem_singleton.mp newMem]
      exact (planned.required_debit facts).1

/-- The source of an applied refund, still in place, with positive refunds. -/
structure RefundHistory (source : LedgerEntryRecord) (entries : List LedgerEntryRecord) : Prop where
  found : entries.find? (fun entry => entry.id = source.id) = some source
  settle : source.entryType = .settle
  confirmed : source.status = .confirmed
  debit : source.amount.units.value < 0
  positive : ∀ entry ∈ entries, IsActiveRefundOf source.id entry → 0 < entry.amount.units.value

theorem RefundHistory.sourced (history : RefundHistory source entries) :
    findRefundSource entries source.id = .ok source :=
  findRefundSource_eq_ok.mpr ⟨history.found, history.settle, history.confirmed, history.debit⟩

theorem refundHistory_of_refundSource (notNil : RefundsNotNil entries)
    (refundSource : RefundSource entries source.id currency source remaining) :
    RefundHistory source entries := by
  obtain ⟨_, _, counted⟩ := remainingRefundableAmountExcluding_eq_ok refundSource.computed
  refine ⟨refundSource.found, refundSource.settle, refundSource.confirmed, refundSource.debit, ?_⟩
  intro entry entryMem isRefund
  exact (counted entry entryMem (notNil entry entryMem isRefund.2.1) isRefund).1

theorem RefundHistory.step (stepped : StepResult writer request after outcome)
    (history : RefundHistory source writer.state.ledgerEntries) :
    RefundHistory source after.state.ledgerEntries := by
  have sourceKept : updateEntry request source = source := by
    rcases updateEntry_cases request source with same | ⟨isReserve, _⟩
    · exact same
    · cases isReserve.symm.trans history.settle
  have updatedFound : (entriesAfterUpdates request writer.state.ledgerEntries).find?
        (fun entry => entry.id = source.id) = some source := by
    rw [find?_entriesAfterUpdates LedgerEntryRecord.id reverseEntry_id,
      history.found, Option.map_some, sourceKept]
  have updatedPositive : ∀ entry ∈ entriesAfterUpdates request writer.state.ledgerEntries,
        IsActiveRefundOf source.id entry → 0 < entry.amount.units.value := by
    intro entry entryMem isRefund
    exact history.positive entry
      (mem_of_active_mem_entriesAfterUpdates entryMem isRefund.2.2) isRefund
  cases stepped with
  | unchanged => exact history
  | exhausted =>
    exact ⟨updatedFound, history.settle, history.confirmed, history.debit, updatedPositive⟩
  | @applied plan draft updates next planned advanced =>
    refine ⟨?_, history.settle, history.confirmed, history.debit, ?_⟩
    · rw [afterWrite, List.find?_append, updatedFound, Option.some_or]
    · intro entry entryMem isRefund
      rcases List.mem_append.mp entryMem with oldMem | newMem
      · exact updatedPositive entry oldMem isRefund
      · rw [List.mem_singleton.mp newMem] at isRefund ⊢
        obtain ⟨_, _, _, _, _, amountPositive, _⟩ :=
          exists_refundSource_of_write planned.write isRefund.2.1
        exact FixedDecimal.toRat_pos_iff.mp amountPositive

theorem refundedAmount_filter_ne {sourceId : Uuid}
    (distinct : (entries.map LedgerEntryRecord.id).Nodup) {refund : LedgerEntryRecord}
    (refundMem : refund ∈ entries) (isRefund : IsActiveRefundOf sourceId refund) :
    refundedAmount sourceId (entries.filter fun entry => entry.id ≠ refund.id) +
      refund.amount.toRat = refundedAmount sourceId entries := by
  induction entries with
  | nil => simp at refundMem
  | cons head rest ih =>
    obtain ⟨headFresh, restDistinct⟩ := List.nodup_cons.mp distinct
    rcases List.mem_cons.mp refundMem with rfl | restMem
    · have restKept : (rest.filter fun entry => entry.id ≠ refund.id) = rest := by
        rw [List.filter_eq_self]
        intro entry entryMem
        have differs : entry.id ≠ refund.id := by
          intro same
          exact headFresh (same ▸ List.mem_map_of_mem entryMem)
        simpa using differs
      rw [List.filter_cons_of_neg (by simp), restKept, refundedAmount_cons,
        if_pos isRefund, add_comm]
    · have differs : head.id ≠ refund.id := by
        intro same
        exact headFresh (same ▸ List.mem_map_of_mem restMem)
      rw [List.filter_cons_of_pos (by simpa using differs),
        refundedAmount_cons, refundedAmount_cons, add_assoc, ih restDistinct restMem]

theorem amount_eq_of_fullyRefunded (fresh : FreshIds writer)
    (history : RefundHistory source writer.state.ledgerEntries)
    (full : FullyRefunded source.id writer) (storedMem : stored ∈ writer.state.ledgerEntries)
    (isRefund : IsActiveRefundOf source.id stored)
    (storedScale : stored.amount.scale = source.amount.scale)
    (computed : remainingRefundableAmountExcluding source
      writer.state.ledgerEntries stored.id = .ok remaining) : stored.amount = remaining := by
  obtain ⟨settle, settleMem, settleId, _, _, sum⟩ := full
  have sameSettle : settle = source := List.inj_on_of_nodup_map fresh.distinct settleMem
      (List.mem_of_find?_eq_some history.found) settleId
  obtain ⟨remainingScale, remainingEq, _⟩ := remainingRefundableAmountExcluding_eq_ok computed
  have withoutStored := refundedAmount_filter_ne fresh.distinct storedMem isRefund
  apply FixedDecimal.eq_of_toRat_eq (storedScale.trans remainingScale.symm)
  rw [sameSettle] at sum
  linarith

/-- Executing the request leaves the writer as it is and answers that the
request is already stored, or that a sum overflowed. -/
def AnswersReplay (writer : InMemoryConsistentLedgerWriter)
    (request : ConsistentLedgerWriteRequest) : Prop :=
  (writer.executeConsistentLedgerWrite request).1 = writer ∧
    ((writer.executeConsistentLedgerWrite request).2.outcome = .idempotent ∨
      ∃ error, IsOverflow error ∧ (writer.executeConsistentLedgerWrite request).2 =
          rejectedExecution request.operation [] error writer.state)

theorem answersReplay_of_inner (context : ReplayContext request.currency wallet writer.state)
    (inner : Yields IsReplayPlan Overflowed
      (planInnerLedgerWrite request writer.state.ledgerEntries)) :
    AnswersReplay writer request := by
  have yields := context.yields_planConsistentLedgerWrite inner
  unfold AnswersReplay executeConsistentLedgerWrite
  cases planned : planConsistentLedgerWrite request writer.state with
  | error error =>
    rw [planned] at yields
    exact ⟨rfl, Or.inr ⟨error, yields, rfl⟩⟩
  | ok plan =>
    obtain ⟨existingEntryId, outcome⟩ := yields.of_ok planned
    simp [outcome]

/-- The common part of all replays: the record and its context are kept by
every run, together with whatever else its operation needs. -/
theorem replayable_of_run (also : InMemoryConsistentLedgerWriter → Prop)
    (kept : ∀ {writer after request outcome}, FreshIds writer →
      StepResult writer request after outcome → also writer → also after) (fresh : FreshIds writer)
    (remembers : Remembers record writer) (context : ReplayContext currency wallet writer.state)
    (initially : also writer) (requests : List ConsistentLedgerWriteRequest) :
    let reached := stateAfter executeConsistentLedgerWrite writer requests
    FreshIds reached ∧ Remembers record reached ∧
      ReplayContext currency wallet reached.state ∧ also reached :=
  run_invariant (fun current => Remembers record current ∧
      ReplayContext currency wallet current.state ∧ also current)
    (fun currentFresh stepped ⟨currentRemembers, currentContext, currentAlso⟩ =>
      ⟨currentRemembers.step stepped, replayContext_of_step stepped currentContext,
        kept currentFresh stepped currentAlso⟩)
    fresh ⟨remembers, context, initially⟩ requests

theorem answersReplay_of_remembers (fresh : FreshIds writer) (remembers : Remembers record writer)
    (context : ReplayContext request.currency wallet writer.state)
    (replays : ∀ current : InMemoryConsistentLedgerWriter, Remembers record current →
      Yields IsReplayPlan Overflowed (planInnerLedgerWrite request current.state.ledgerEntries))
    (later : List ConsistentLedgerWriteRequest) :
    AnswersReplay (stateAfter executeConsistentLedgerWrite writer later) request := by
  obtain ⟨_, reachedRemembers, reachedContext, _⟩ :=
    replayable_of_run (fun _ => True) (fun _ _ _ => trivial) fresh remembers context trivial later
  exact answersReplay_of_inner reachedContext (replays _ reachedRemembers)

theorem answersReplay_of_refund {refundRequest : RefundLedgerRequest}
    {refund : NormalizedRefundRequest} {amount : FixedDecimal}
    (isRefundRequest : ∀ entries, planInnerLedgerWrite request entries =
      planLedgerRefund refundRequest entries)
    (normalized : normalizeRefundRequest refundRequest = .ok refund)
    (related : refund.relatedLedgerEntryId = source.id)
    (valid : validateCurrency refund.currency = .ok ())
    (sourceCurrency : source.currency = refund.currency) (positive : 0 < amount.units.value)
    (history : RefundHistory source writer.state.ledgerEntries)
    (remembers : Remembers (recordOfDraft id (refundDraft source refund amount)) writer)
    (context : ReplayContext request.currency wallet writer.state)
    (amountMatched : ∀ stored ∈ writer.state.ledgerEntries,
      IsActiveRefundOf source.id stored → stored.amount = amount →
        ∀ remaining, remainingRefundableAmountExcluding source
          writer.state.ledgerEntries stored.id = .ok remaining →
            amount = refund.amount.getD remaining) : AnswersReplay writer request := by
  apply answersReplay_of_inner context
  rw [isRefundRequest]
  obtain ⟨stored, found, form⟩ := remembers
  have isWritten : stored = recordOfDraft id (refundDraft source refund amount) := by
    rcases form with same | ⟨isReserve, _⟩
    · exact same
    · cases isReserve
  have storedMem : stored ∈ writer.state.ledgerEntries := List.mem_of_find?_eq_some found
  subst isWritten
  apply yields_planLedgerRefund normalized valid (related ▸ history.sourced)
    sourceCurrency history.positive found
  · exact ⟨congrArg some related.symm, rfl, rfl, sourceCurrency, positive⟩
  · exact amountMatched _ storedMem ⟨rfl, rfl, LedgerEntryStatus.isActive_confirmed⟩ rfl

theorem answersReplay_of_step (fresh : FreshIds writer)
    (notNil : RefundsNotNil writer.state.ledgerEntries)
    (stepped : StepResult writer request after .applied)
    (later : List ConsistentLedgerWriteRequest) :
    AnswersReplay (stateAfter executeConsistentLedgerWrite after later) request := by
  have afterFresh := fresh.step stepped
  have afterNotNil := refundsNotNil_of_step fresh stepped notNil
  have sourceKept : ∀ {source : LedgerEntryRecord},
      RefundHistory source writer.state.ledgerEntries →
        RefundHistory source after.state.ledgerEntries :=
    RefundHistory.step stepped
  have fullyRefunded : ∀ {scope settleId currency}, request = .refundFull scope settleId currency →
        FullyRefunded settleId after := by
    rintro scope settleId currency rfl
    exact fullyRefunded_of_applied notNil stepped
  cases stepped with
  | unchanged notApplied => exact (notApplied rfl).elim
  | @applied plan draft updates next planned advanced =>
    obtain ⟨wallet, context⟩ := replayContext_afterWrite planned next
    have remembers := remembers_afterWrite planned next
    obtain ⟨_, _, _, facts⟩ := planConsistentLedgerWrite_eq_ok planned.planned
    have valid := planInnerLedgerWrite_currency facts.inner
    cases planned.write with
    | reserve positive debitScale debitUnits =>
      refine answersReplay_of_remembers afterFresh remembers context ?_ later
      rintro current ⟨stored, found, form⟩
      exact yields_planLedgerReserve valid
        (debitAmount_eq_ok.mpr ⟨positive, debitScale, debitUnits⟩) found
        (ensureExistingMatchesDraft_of_storedForm form)
    | settle positive debitScale debitUnits =>
      refine answersReplay_of_remembers afterFresh remembers context ?_ later
      rintro current ⟨stored, found, form⟩
      exact yields_planLedgerSettle valid
        (debitAmount_eq_ok.mpr ⟨positive, debitScale, debitUnits⟩) found
        (ensureExistingMatchesDraft_of_storedForm form)
    | adminAdjustment nonzero =>
      refine answersReplay_of_remembers afterFresh remembers context ?_ later
      rintro current ⟨stored, found, form⟩
      exact yields_planLedgerAdminAdjustment valid nonzero found
        (ensureExistingMatchesDraft_of_storedForm form)
    | @refundPartial _ _ _ amount _ source remaining refundSource positive =>
      obtain ⟨_, rfl⟩ := refundSource.mem
      obtain ⟨_, reachedRemembers, reachedContext, history⟩ := replayable_of_run
          (fun current => RefundHistory source current.state.ledgerEntries)
          (fun _ stepped history => history.step stepped) afterFresh
          remembers context
          (sourceKept (refundHistory_of_refundSource notNil refundSource))
          later
      exact answersReplay_of_refund (fun _ => rfl) rfl rfl valid
        refundSource.sourceCurrency positive history reachedRemembers
        reachedContext fun _ _ _ _ _ _ => rfl
    | @refundFull _ _ _ source remaining refundSource positive =>
      obtain ⟨_, rfl⟩ := refundSource.mem
      obtain ⟨remainingScale, _⟩ := remainingRefundableAmountExcluding_eq_ok refundSource.computed
      obtain ⟨reachedFresh, reachedRemembers, reachedContext, _, history, full⟩ := replayable_of_run
          (fun current => RefundsNotNil current.state.ledgerEntries ∧
            RefundHistory source current.state.ledgerEntries ∧ FullyRefunded source.id current)
          (fun currentFresh stepped ⟨currentNotNil, history, full⟩ =>
            ⟨refundsNotNil_of_step currentFresh stepped currentNotNil, history.step stepped,
              full.step currentFresh currentNotNil stepped⟩)
          afterFresh remembers context
          ⟨afterNotNil, sourceKept (refundHistory_of_refundSource notNil refundSource),
            fullyRefunded rfl⟩
          later
      refine answersReplay_of_refund (fun _ => rfl) rfl rfl valid
        refundSource.sourceCurrency positive history reachedRemembers
        reachedContext ?_
      rintro stored storedMem isRefund rfl again computed
      exact amount_eq_of_fullyRefunded reachedFresh history full storedMem
        isRefund remainingScale computed

/-- In a run that starts with pairwise distinct entry identifiers below the next
one, and with no refund under the nil identifier, replaying an applied request
after any further writes leaves the writer unchanged and is answered as
idempotent, unless a sum overflows. -/
theorem answersReplay_of_run (fresh : FreshIds writer)
    (notNil : RefundsNotNil writer.state.ledgerEntries)
    (earlier : List ConsistentLedgerWriteRequest) (request : ConsistentLedgerWriteRequest)
    (applied : ((stateAfter executeConsistentLedgerWrite writer
      earlier).executeConsistentLedgerWrite request).2.outcome = .applied)
    (later : List ConsistentLedgerWriteRequest) : AnswersReplay
      (stateAfter executeConsistentLedgerWrite writer (earlier ++ request :: later)) request := by
  obtain ⟨currentFresh, currentNotNil⟩ := run_invariant
    (fun current => RefundsNotNil current.state.ledgerEntries)
    refundsNotNil_of_step fresh notNil earlier
  have stepped := stepResult_execute _ request currentFresh.distinct
  rw [applied] at stepped
  rw [stateAfter_append, stateAfter_cons]
  exact answersReplay_of_step currentFresh currentNotNil stepped later

/-- A settle of 10 under identifier 1 with a refund of 3. -/
def partlyRefundedState (refundId : Uuid) (status : LedgerEntryStatus) :
    ConsistentLedgerWriterState where
  wallet := some ⟨sampleId 9, "USD", sampleMoney 100⟩
  creditGrants := []
  budgets := []
  ledgerEntries :=
    [⟨sampleId 1, some (sampleId 21), none, .settle, sampleMoney (-10), "USD",
        .confirmed, settleLedgerIdempotencyKey (sampleId 21)⟩,
      ⟨refundId, some (sampleId 21), some (sampleId 1), .refund, sampleMoney 3, "USD", status,
        refundPartialLedgerIdempotencyKey (sampleId 1) (sampleId 31)⟩]

/-- A full refund of the settle under identifier 1. -/
def refundRest : ConsistentLedgerWriteRequest :=
  .refundFull ⟨sampleId 1, none, none⟩ (sampleId 1) "USD"

theorem answersReplay_refundRest : AnswersReplay (stateAfter executeConsistentLedgerWrite
        ⟨partlyRefundedState (sampleId 2) .confirmed, sampleId 3⟩
        ([] ++ refundRest :: reserveThenSettle)) refundRest :=
  answersReplay_of_run ⟨by decide +kernel, by decide +kernel⟩
    (by unfold RefundsNotNil; decide +kernel) [] refundRest (by decide +kernel)
    reserveThenSettle

/-- Whatever is written: the entries of the ledger stay at their places, and all that ever changes
of one is that a settle reverses a pending reserve. -/
theorem ledger_append_only (fresh : FreshIds writer)
    (requests : List ConsistentLedgerWriteRequest) :
    Grows IsStoredFormOf writer.state.ledgerEntries
      (stateAfter executeConsistentLedgerWrite writer requests).state.ledgerEntries :=
  (run_invariant (fun after => Grows IsStoredFormOf _ after.state.ledgerEntries)
    (fun _ stepped => grows_of_step stepped) fresh
    (grows_refl (fun _ => .inl rfl) _) requests).2

theorem ledger_append_only_refunded : Grows IsStoredFormOf
    (partlyRefundedState (sampleId 2) .confirmed).ledgerEntries
    (stateAfter executeConsistentLedgerWrite
      ⟨partlyRefundedState (sampleId 2) .confirmed, sampleId 3⟩
      reserveThenSettle).state.ledgerEntries :=
  ledger_append_only ⟨by decide +kernel, by decide +kernel⟩ reserveThenSettle

/-- A refund under the nil identifier is left out when the first full refund is
planned and counted when it is replayed. A reserve under the identifier of a
pending refund makes its settle reverse that refund. Either way the replay of
the applied full refund is answered with a conflict. -/
theorem replay_conflict_of_nil_or_taken_identifier :
    (∃ start : InMemoryConsistentLedgerWriter, ∃ earlier later, FreshIds start ∧
      ((stateAfter executeConsistentLedgerWrite start
        earlier).executeConsistentLedgerWrite refundRest).2.outcome = .applied ∧
      ((stateAfter executeConsistentLedgerWrite start
        (earlier ++ refundRest :: later)).executeConsistentLedgerWrite refundRest).2.error =
        some ⟨"idempotency_conflict", "ledger_contract"⟩) ∧
    ∃ start : InMemoryConsistentLedgerWriter, ∃ earlier later,
      RefundsNotNil start.state.ledgerEntries ∧ ((stateAfter executeConsistentLedgerWrite start
        earlier).executeConsistentLedgerWrite refundRest).2.outcome = .applied ∧
      ((stateAfter executeConsistentLedgerWrite start
        (earlier ++ refundRest :: later)).executeConsistentLedgerWrite refundRest).2.error =
        some ⟨"idempotency_conflict", "ledger_contract"⟩ := by
  constructor
  · refine ⟨⟨partlyRefundedState Uuid.nil .confirmed, sampleId 2⟩, [], [],
      ⟨by decide +kernel, by decide +kernel⟩, ?_⟩
    decide +kernel
  · refine ⟨⟨partlyRefundedState (sampleId 7) .pending, sampleId 7⟩,
      [.reserve ⟨sampleId 1, none, none⟩ (sampleId 22) (sampleMoney 50) "USD"],
      [.settle ⟨sampleId 1, none, none⟩ (sampleId 22) (sampleMoney 60) "USD"],
      by unfold RefundsNotNil; decide +kernel, ?_⟩
    decide +kernel

end InMemoryConsistentLedgerWriter

end FuboxApi
