import FuboxApi.InMemoryWriterSteps

/-!
# Invariants of the in-memory writer

In a ledger built from an empty one identifiers and keys are distinct, each request has at most one
active settle and one active reserve, not both, and the signs of the amounts follow the entry types.
-/

namespace FuboxApi

open LedgerContract ConsistentWriter TransitionRuns

namespace ConsistentWriter

variable {request : ConsistentLedgerWriteRequest}
  {entries : List LedgerEntryRecord} {entry : LedgerEntryRecord}

theorem exists_entry_of_mem_entriesAfterUpdates
    (entryMem : entry ∈ entriesAfterUpdates request entries) :
    ∃ original ∈ entries, entry = original ∨
      original.entryType = .reserve ∧ original.status = .pending ∧
        entry = reverseEntry original := by
  cases request with
  | settle scope requestId finalCost currency =>
    obtain ⟨original, originalMem, rfl⟩ := List.mem_map.mp entryMem
    refine ⟨original, originalMem, ?_⟩
    split
    · next isPending => exact Or.inr ⟨isPending.2.1, isPending.2.2, rfl⟩
    · exact Or.inl rfl
  | _ => exact ⟨entry, entryMem, Or.inl rfl⟩

theorem mem_of_active_mem_entriesAfterUpdates
    (entryMem : entry ∈ entriesAfterUpdates request entries) (active : entry.status.IsActive) :
    entry ∈ entries := by
  obtain ⟨original, originalMem, rfl | ⟨_, _, rfl⟩⟩ :=
    exists_entry_of_mem_entriesAfterUpdates entryMem
  · exact originalMem
  · exact (LedgerEntryStatus.not_isActive_reversed active).elim

theorem map_entriesAfterUpdates {α : Type} (field : LedgerEntryRecord → α)
    (kept : ∀ original, field (reverseEntry original) = field original)
    (request : ConsistentLedgerWriteRequest) (entries : List LedgerEntryRecord) :
    (entriesAfterUpdates request entries).map field = entries.map field := by
  cases request with
  | settle scope requestId finalCost currency =>
    simp only [entriesAfterUpdates, reversePendingReserves, List.map_map]
    apply List.map_congr_left
    intro original _
    simp only [Function.comp_apply]
    split
    · exact kept original
    · rfl
  | _ => rfl

theorem countP_entriesAfterUpdates_le (entryType : LedgerEntryType) (requestId : Uuid)
    (request : ConsistentLedgerWriteRequest) (entries : List LedgerEntryRecord) :
    (entriesAfterUpdates request entries).countP
        (fun entry => IsActiveFor entryType requestId entry) ≤
      entries.countP fun entry => IsActiveFor entryType requestId entry := by
  cases request with
  | settle scope settled finalCost currency =>
    simp only [entriesAfterUpdates, reversePendingReserves, List.countP_map]
    apply List.countP_mono_left
    intro original _ active
    simp only [Function.comp_apply, decide_eq_true_eq] at active ⊢
    split at active
    · exact (LedgerEntryStatus.not_isActive_reversed active.2.2).elim
    · exact active
  | _ => exact le_rfl

end ConsistentWriter

namespace InMemoryConsistentLedgerWriter

/-- The identifiers of the ledger are pairwise distinct and the next one is
above all of them. -/
structure FreshIds (writer : InMemoryConsistentLedgerWriter) : Prop where
  distinct : (writer.state.ledgerEntries.map LedgerEntryRecord.id).Nodup
  below : ∀ entry ∈ writer.state.ledgerEntries, entry.id.asU128 < writer.nextLedgerEntryId.asU128

variable {writer after : InMemoryConsistentLedgerWriter} {request : ConsistentLedgerWriteRequest}
  {outcome : ConsistentLedgerCommandExecutionOutcome}

theorem FreshIds.step (fresh : FreshIds writer)
    (stepped : StepResult writer request after outcome) : FreshIds after := by
  have idsKept := map_entriesAfterUpdates LedgerEntryRecord.id
    reverseEntry_id request writer.state.ledgerEntries
  have updatedBelow : ∀ entry ∈ entriesAfterUpdates request writer.state.ledgerEntries,
        entry.id.asU128 < writer.nextLedgerEntryId.asU128 := by
    intro entry entryMem
    obtain ⟨original, originalMem, rfl | ⟨_, _, rfl⟩⟩ :=
      exists_entry_of_mem_entriesAfterUpdates entryMem
    · exact fresh.below _ originalMem
    · exact fresh.below original originalMem
  cases stepped with
  | unchanged => exact fresh
  | @applied plan draft updates next planned advanced =>
    constructor
    · simp only [afterWrite, List.map_append, List.map_cons, List.map_nil, idsKept]
      apply List.Nodup.append fresh.distinct (by simp)
      intro id idMem newMem
      obtain ⟨entry, entryMem, rfl⟩ := List.mem_map.mp idMem
      have sameId : entry.id = writer.nextLedgerEntryId := by
        simpa [recordOfDraft] using newMem
      have := fresh.below entry entryMem
      rw [sameId] at this
      omega
    · intro entry entryMem
      change entry.id.asU128 < next.asU128
      rcases List.mem_append.mp entryMem with oldMem | newMem
      · have := updatedBelow entry oldMem
        omega
      · have newId : entry.id = writer.nextLedgerEntryId := by
          rw [List.mem_singleton.mp newMem]
          rfl
        rw [newId]
        omega
  | exhausted planned last =>
    exact ⟨by simpa only [withEntries, idsKept] using fresh.distinct, updatedBelow⟩

/-- A run keeps identifiers fresh, so a property that each step from fresh
identifiers keeps holds after the run as well. -/
theorem run_invariant (holds : InMemoryConsistentLedgerWriter → Prop)
    (kept : ∀ {writer after request outcome}, FreshIds writer →
      StepResult writer request after outcome → holds writer → holds after)
    (fresh : FreshIds writer) (initially : holds writer)
    (requests : List ConsistentLedgerWriteRequest) :
    FreshIds (stateAfter executeConsistentLedgerWrite writer requests) ∧
      holds (stateAfter executeConsistentLedgerWrite writer requests) := by
  apply stateAfter_invariant (fun current => FreshIds current ∧ holds current)
  · intro current request invariant
    have stepped := stepResult_execute current request invariant.1.distinct
    exact ⟨invariant.1.step stepped, kept invariant.1 stepped invariant.2⟩
  · exact ⟨fresh, initially⟩

/-- Reserves and settles are debits, refunds are credits; an adjustment may be
either. -/
def SignMatchesType (entry : LedgerEntryRecord) : Prop :=
  match entry.entryType with
  | .reserve | .settle => entry.amount.units.value < 0
  | .refund => 0 < entry.amount.units.value
  | .adjust => True

/-- What a run from an empty ledger keeps of the entries. -/
structure LedgerInvariant (entries : List LedgerEntryRecord) : Prop where
  ids_distinct : (entries.map LedgerEntryRecord.id).Nodup
  keys_distinct : (entries.map LedgerEntryRecord.idempotencyKey).Nodup
  one_active_settle : ∀ requestId,
    entries.countP (fun entry => IsActiveFor .settle requestId entry) ≤ 1
  one_active_reserve : ∀ requestId,
    entries.countP (fun entry => IsActiveFor .reserve requestId entry) ≤ 1
  no_settle_beside_pending : ∀ requestId, ∀ reserve ∈ entries,
    IsPendingReserveFor requestId reserve → ∀ entry ∈ entries, ¬ IsActiveFor .settle requestId entry
  signs : ∀ entry ∈ entries, SignMatchesType entry

theorem ledgerInvariant_nil : LedgerInvariant [] := by
  constructor <;> simp

theorem LedgerInvariant.updates {entries : List LedgerEntryRecord}
    (invariant : LedgerInvariant entries) (request : ConsistentLedgerWriteRequest) :
    LedgerInvariant (entriesAfterUpdates request entries) := by
  constructor
  · rw [map_entriesAfterUpdates LedgerEntryRecord.id reverseEntry_id]
    exact invariant.ids_distinct
  · rw [map_entriesAfterUpdates LedgerEntryRecord.idempotencyKey fun _ => rfl]
    exact invariant.keys_distinct
  · intro requestId
    exact (countP_entriesAfterUpdates_le _ _ _ _).trans (invariant.one_active_settle requestId)
  · intro requestId
    exact (countP_entriesAfterUpdates_le _ _ _ _).trans (invariant.one_active_reserve requestId)
  · intro requestId reserve reserveMem pending entry entryMem active
    have reserveActive : reserve.status.IsActive := by
      rw [pending.2.2]
      exact LedgerEntryStatus.isActive_pending
    exact invariant.no_settle_beside_pending requestId reserve
      (mem_of_active_mem_entriesAfterUpdates reserveMem reserveActive) pending
      entry (mem_of_active_mem_entriesAfterUpdates entryMem active.2.2) active
  · intro entry entryMem
    obtain ⟨original, originalMem, rfl | ⟨_, _, rfl⟩⟩ :=
      exists_entry_of_mem_entriesAfterUpdates entryMem
    · exact invariant.signs _ originalMem
    · exact invariant.signs original originalMem

section

variable {entries : List LedgerEntryRecord} {draft : LedgerEntryDraft}
  {updates : List LedgerStatusUpdate}
  (write : AppliedWrite entries request draft updates) (id : Uuid)

include write

theorem signMatchesType_recordOfDraft : SignMatchesType (recordOfDraft id draft) := by
  cases write with
  | reserve positive debitScale debitUnits =>
    change _ < (0 : Int)
    simp only [recordOfDraft, reserveDraft]
    omega
  | settle positive debitScale debitUnits =>
    change _ < (0 : Int)
    simp only [recordOfDraft, settleDraft]
    omega
  | refundFull _ positive | refundPartial _ positive => exact positive
  | adminAdjustment => exact trivial

theorem no_active_of_draft_active {id requestId : Uuid} {entryType : LedgerEntryType}
    (guarded : entryType = .settle ∨ entryType = .reserve)
    (active : IsActiveFor entryType requestId (recordOfDraft id draft)) :
    ∀ entry ∈ entries, ¬ IsActiveFor entryType requestId entry := by
  obtain ⟨requestEq, typeEq, _⟩ := active
  subst typeEq
  cases write with
  | reserve _ _ _ _ noReserve =>
    cases requestEq
    exact noReserve
  | settle _ _ _ noSettle =>
    cases requestEq
    exact noSettle
  | refundFull | refundPartial => simp [recordOfDraft, refundDraft] at guarded
  | adminAdjustment => simp [recordOfDraft, adminAdjustmentDraft] at guarded

/-- After a write to apply, no pending reserve of a request stands beside the
settle of that request that the write adds, and no active settle beside the
reserve that it adds. -/
theorem no_settle_beside_draft {id requestId : Uuid} {entry : LedgerEntryRecord}
    (entryMem : entry ∈ entriesAfterUpdates request entries) :
    ¬ (IsPendingReserveFor requestId entry ∧
        IsActiveFor .settle requestId (recordOfDraft id draft)) ∧
      ¬ (IsActiveFor .settle requestId entry ∧
        IsPendingReserveFor requestId (recordOfDraft id draft)) := by
  constructor
  · rintro ⟨pending, requestEq, typeEq, _⟩
    cases write with
    | settle =>
      cases requestEq
      obtain ⟨original, originalMem, rfl⟩ := List.mem_map.mp entryMem
      split at pending
      · cases pending.2.2
      · next notPending => exact notPending pending
    | _ => cases typeEq
  · rintro ⟨active, requestEq, typeEq, _⟩
    cases write with
    | reserve _ _ _ noSettle =>
      cases requestEq
      exact noSettle entry (mem_of_active_mem_entriesAfterUpdates entryMem active.2.2) active
    | _ => cases typeEq

theorem countP_active_afterWrite_le {requestId : Uuid} {entryType : LedgerEntryType}
    (guarded : entryType = .settle ∨ entryType = .reserve)
    (before : entries.countP (fun entry => IsActiveFor entryType requestId entry) ≤ 1) :
    (entriesAfterUpdates request entries ++ [recordOfDraft id draft]).countP
      (fun entry => IsActiveFor entryType requestId entry) ≤ 1 := by
  have shrinks := countP_entriesAfterUpdates_le entryType requestId request entries
  rw [List.countP_append, List.countP_singleton]
  split
  · next active =>
    have noneBefore := no_active_of_draft_active write guarded (of_decide_eq_true active)
    have zeroBefore : entries.countP (fun entry => IsActiveFor entryType requestId entry) = 0 := by
      simpa [List.countP_eq_zero] using noneBefore
    omega
  · omega

theorem no_settle_beside_pending_afterWrite
    (updated : LedgerInvariant (entriesAfterUpdates request entries)) (requestId : Uuid) :
    ∀ reserve ∈ entriesAfterUpdates request entries ++ [recordOfDraft id draft],
      IsPendingReserveFor requestId reserve →
        ∀ entry ∈ entriesAfterUpdates request entries ++ [recordOfDraft id draft],
          ¬ IsActiveFor .settle requestId entry := by
  intro reserve reserveMem pending entry entryMem active
  rcases List.mem_append.mp reserveMem with reserveOld | reserveNew
  · rcases List.mem_append.mp entryMem with entryOld | entryNew
    · exact updated.no_settle_beside_pending requestId reserve reserveOld
        pending entry entryOld active
    · rw [List.mem_singleton.mp entryNew] at active
      exact (no_settle_beside_draft write reserveOld).1 ⟨pending, active⟩
  · rw [List.mem_singleton.mp reserveNew] at pending
    rcases List.mem_append.mp entryMem with entryOld | entryNew
    · exact (no_settle_beside_draft write entryOld).2 ⟨active, pending⟩
    · rw [List.mem_singleton.mp entryNew] at active
      cases pending.2.1.symm.trans active.2.1

end

theorem LedgerInvariant.step (fresh : FreshIds writer)
    (stepped : StepResult writer request after outcome)
    (invariant : LedgerInvariant writer.state.ledgerEntries) :
    LedgerInvariant after.state.ledgerEntries := by
  have afterFresh := fresh.step stepped
  cases stepped with
  | unchanged => exact invariant
  | exhausted => exact invariant.updates request
  | @applied plan draft updates next planned advanced =>
    have updated := invariant.updates request
    refine ⟨afterFresh.distinct, ?_, fun requestId => ?_, fun requestId => ?_,
      no_settle_beside_pending_afterWrite planned.write _ updated, ?_⟩
    · change ((_ ++ [_]).map LedgerEntryRecord.idempotencyKey).Nodup
      rw [List.map_append, map_entriesAfterUpdates LedgerEntryRecord.idempotencyKey fun _ => rfl]
      apply List.Nodup.append invariant.keys_distinct (by simp)
      intro key keyMem newMem
      obtain ⟨entry, entryMem, rfl⟩ := List.mem_map.mp keyMem
      apply planned.keyFresh entry entryMem
      rw [List.mem_singleton.mp newMem, ← planned.write.draft_key]
      rfl
    · exact countP_active_afterWrite_le planned.write _ (Or.inl rfl)
        (invariant.one_active_settle requestId)
    · exact countP_active_afterWrite_le planned.write _ (Or.inr rfl)
        (invariant.one_active_reserve requestId)
    · intro entry entryMem
      rcases List.mem_append.mp entryMem with entryOld | entryNew
      · exact updated.signs entry entryOld
      · rw [List.mem_singleton.mp entryNew]
        exact signMatchesType_recordOfDraft planned.write _

variable (wallet : Option ConsistentWalletSnapshot)
  (creditGrants : List ConsistentCreditGrantSnapshot) (budgets : List ConsistentBudgetSnapshot)
  (nextLedgerEntryId : Uuid)

def overEmptyLedger : InMemoryConsistentLedgerWriter where
  state :=
    { wallet := wallet
      creditGrants := creditGrants
      budgets := budgets
      ledgerEntries := [] }
  nextLedgerEntryId := nextLedgerEntryId

theorem freshIds_overEmptyLedger :
    FreshIds (overEmptyLedger wallet creditGrants budgets nextLedgerEntryId) :=
  ⟨List.nodup_nil, by simp [overEmptyLedger]⟩

/-- In every state that a run from an empty ledger reaches, the ledger has its
invariant. -/
theorem ledgerInvariant_of_run (requests : List ConsistentLedgerWriteRequest) : LedgerInvariant
      (stateAfter executeConsistentLedgerWrite
        (overEmptyLedger wallet creditGrants budgets nextLedgerEntryId)
        requests).state.ledgerEntries :=
  (run_invariant (fun writer => LedgerInvariant writer.state.ledgerEntries)
    LedgerInvariant.step (freshIds_overEmptyLedger _ _ _ _) ledgerInvariant_nil requests).2

end InMemoryConsistentLedgerWriter

end FuboxApi
