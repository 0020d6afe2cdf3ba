import FuboxApi.ConsistentWriterSpec
import FuboxApi.InMemoryWriter
import FuboxApi.KeyedRows
import FuboxApi.TransitionRuns

/-!
# What a step of the in-memory writer does

Executing a request on a ledger with distinct identifiers leaves the writer unchanged, applies the
write, or exhausts the identifiers and leaves only the status updates. The invariants are proved
from these cases.
-/

namespace FuboxApi

open CheckedFold LedgerContract

namespace ConsistentWriter

def reverseEntry (entry : LedgerEntryRecord) : LedgerEntryRecord :=
  { entry with status := .reversed }

@[simp]
theorem reverseEntry_id (entry : LedgerEntryRecord) : (reverseEntry entry).id = entry.id :=
  rfl

def reversePendingReserves (requestId : Uuid) (entries : List LedgerEntryRecord) :
    List LedgerEntryRecord :=
  entries.map fun entry =>
    if IsPendingReserveFor requestId entry then reverseEntry entry else entry

def entriesAfterUpdates (request : ConsistentLedgerWriteRequest)
    (entries : List LedgerEntryRecord) : List LedgerEntryRecord :=
  match request with
  | .settle _ requestId _ _ => reversePendingReserves requestId entries
  | _ => entries

variable {entries : List LedgerEntryRecord}

theorem applyStatusUpdate_eq_ok (distinct : (entries.map LedgerEntryRecord.id).Nodup)
    (update : LedgerStatusUpdate) {entry : LedgerEntryRecord} (entryMem : entry ∈ entries)
    (idEq : entry.id = update.ledgerEntryId) (statusEq : entry.status = update.fromStatus) :
    applyStatusUpdate update entries =
      .ok (KeyedRows.modify LedgerEntryRecord.id update.ledgerEntryId
        (fun current => { current with status := update.toStatus }) entries) := by
  induction entries with
  | nil => simp at entryMem
  | cons head rest ih =>
    obtain ⟨headFresh, restDistinct⟩ := List.nodup_cons.mp distinct
    rcases List.mem_cons.mp entryMem with rfl | restMem
    · have restUntouched := KeyedRows.modify_eq_self
        (fun current : LedgerEntryRecord => { current with status := update.toStatus })
        (idEq ▸ headFresh)
      rw [KeyedRows.modify] at restUntouched
      rw [applyStatusUpdate, if_pos idEq, if_pos statusEq, KeyedRows.modify,
        List.map_cons, if_pos idEq, restUntouched]
    · have headDiffers : head.id ≠ update.ledgerEntryId := by
        intro headEq
        apply headFresh
        rw [headEq, ← idEq]
        exact List.mem_map_of_mem restMem
      rw [applyStatusUpdate, if_neg headDiffers, ih restDistinct restMem]
      simp [KeyedRows.modify, headDiffers, Except.map]

theorem pending_of_modify {reserve : LedgerEntryRecord} {rest : List LedgerEntryRecord}
    (reservesDistinct : ((reserve :: rest).map LedgerEntryRecord.id).Nodup)
    (pending : ∀ target ∈ reserve :: rest, ∃ entry ∈ entries,
      entry.id = target.id ∧ entry.status = .pending) :
    ∀ target ∈ rest, ∃ entry ∈ KeyedRows.modify LedgerEntryRecord.id reserve.id
      reverseEntry entries, entry.id = target.id ∧ entry.status = .pending := by
  intro target targetMem
  obtain ⟨entry, entryMem, idEq, isPending⟩ := pending target (List.mem_cons_of_mem _ targetMem)
  have differs : entry.id ≠ reserve.id := by
    intro same
    apply (List.nodup_cons.mp reservesDistinct).1
    rw [← same, idEq]
    exact List.mem_map_of_mem targetMem
  refine ⟨entry, List.mem_map.mpr ⟨entry, entryMem, ?_⟩, idEq, isPending⟩
  exact if_neg differs

theorem applyStatusUpdates_eq_ok (distinct : (entries.map LedgerEntryRecord.id).Nodup)
    {reserves : List LedgerEntryRecord}
    (reservesDistinct : (reserves.map LedgerEntryRecord.id).Nodup)
    (pending : ∀ reserve ∈ reserves, ∃ entry ∈ entries,
      entry.id = reserve.id ∧ entry.status = .pending) :
    applyStatusUpdates (reserves.map reserveSettledUpdate) entries =
      ((reserves.map LedgerEntryRecord.id).foldl (fun current target =>
          KeyedRows.modify LedgerEntryRecord.id target reverseEntry current) entries, .ok ()) := by
  induction reserves generalizing entries with
  | nil => rfl
  | cons reserve rest ih =>
    have restDistinct := (List.nodup_cons.mp reservesDistinct).2
    obtain ⟨entry, entryMem, idEq, statusEq⟩ := pending reserve (by simp)
    have updated := applyStatusUpdate_eq_ok distinct
      (reserveSettledUpdate reserve) entryMem idEq statusEq
    rw [List.map_cons, applyStatusUpdates, updated, List.map_cons, List.foldl_cons]
    apply ih _ restDistinct (pending_of_modify reservesDistinct pending)
    rw [KeyedRows.map_key_modify reverseEntry_id]
    exact distinct

theorem foldl_modify_pendingReserves (distinct : (entries.map LedgerEntryRecord.id).Nodup)
    (requestId : Uuid) : ((pendingReserves entries requestId).map LedgerEntryRecord.id).foldl
        (fun current target => KeyedRows.modify LedgerEntryRecord.id target reverseEntry current)
        entries = reversePendingReserves requestId entries := by
  have reservesDistinct : ((pendingReserves entries requestId).map LedgerEntryRecord.id).Nodup :=
    distinct.sublist (List.filter_sublist.map _)
  rw [KeyedRows.foldl_modify_eq_map reverseEntry_id reservesDistinct, reversePendingReserves]
  apply List.map_congr_left
  intro entry entryMem
  simp [pendingReserves, KeyedRows.mem_keys_filter_iff distinct entryMem]

theorem pending_of_pendingReserves (requestId : Uuid) :
    ∀ reserve ∈ pendingReserves entries requestId, ∃ entry ∈ entries,
      entry.id = reserve.id ∧ entry.status = .pending := by
  intro reserve reserveMem
  have selected := List.mem_filter.mp reserveMem
  have isPending : IsPendingReserveFor requestId reserve := by
    simpa using selected.2
  exact ⟨reserve, selected.1, rfl, isPending.2.2⟩

variable (distinct : (entries.map LedgerEntryRecord.id).Nodup)

include distinct

theorem applyStatusUpdates_pendingReserves (requestId : Uuid) : applyStatusUpdates
        ((pendingReserves entries requestId).map reserveSettledUpdate) entries =
      (reversePendingReserves requestId entries, .ok ()) := by
  have reservesDistinct : ((pendingReserves entries requestId).map LedgerEntryRecord.id).Nodup :=
    distinct.sublist (List.filter_sublist.map _)
  rw [applyStatusUpdates_eq_ok distinct reservesDistinct (pending_of_pendingReserves requestId),
    foldl_modify_pendingReserves distinct]

theorem AppliedWrite.applyStatusUpdates_eq {request : ConsistentLedgerWriteRequest}
    {draft : LedgerEntryDraft} {updates : List LedgerStatusUpdate}
    (write : AppliedWrite entries request draft updates) : applyStatusUpdates updates entries =
      (entriesAfterUpdates request entries, .ok ()) := by
  cases write with
  | settle => exact applyStatusUpdates_pendingReserves distinct _
  | _ => rfl

end ConsistentWriter

namespace InMemoryConsistentLedgerWriter

open ConsistentWriter

def afterWrite (writer : InMemoryConsistentLedgerWriter) (request : ConsistentLedgerWriteRequest)
    (draft : LedgerEntryDraft) (next : Uuid) : InMemoryConsistentLedgerWriter where
  state := { writer.state with
    ledgerEntries := entriesAfterUpdates request writer.state.ledgerEntries ++
      [recordOfDraft writer.nextLedgerEntryId draft] }
  nextLedgerEntryId := next

/-- The three results of executing a request. -/
inductive StepResult (writer : InMemoryConsistentLedgerWriter)
    (request : ConsistentLedgerWriteRequest) :
    InMemoryConsistentLedgerWriter → ConsistentLedgerCommandExecutionOutcome → Prop
  | unchanged {outcome : ConsistentLedgerCommandExecutionOutcome} (notApplied : outcome ≠ .applied)
      (notPlanned : ∀ plan, planConsistentLedgerWrite request writer.state =
        .ok plan → plan.outcome ≠ .apply) :
      StepResult writer request writer outcome
  | applied {plan : ConsistentLedgerWriterPlan} {draft : LedgerEntryDraft}
      {updates : List LedgerStatusUpdate} {next : Uuid}
      (planned : WritePlanned writer.state request plan draft updates)
      (advanced : next.asU128 = writer.nextLedgerEntryId.asU128 + 1) :
      StepResult writer request (writer.afterWrite request draft next) .applied
  | exhausted {plan : ConsistentLedgerWriterPlan} {draft : LedgerEntryDraft}
      {updates : List LedgerStatusUpdate}
      (planned : WritePlanned writer.state request plan draft updates)
      (last : Uuid.fromU128 (writer.nextLedgerEntryId.asU128 + 1) = none) :
      StepResult writer request
        (writer.withEntries (entriesAfterUpdates request writer.state.ledgerEntries))
        .rejected

theorem applyLedgerPlan_eq {writer : InMemoryConsistentLedgerWriter}
    (distinct : (writer.state.ledgerEntries.map LedgerEntryRecord.id).Nodup)
    {request : ConsistentLedgerWriteRequest} {plan : ConsistentLedgerWriterPlan}
    {draft : LedgerEntryDraft} {updates : List LedgerStatusUpdate}
    (planned : WritePlanned writer.state request plan draft updates) :
    writer.applyLedgerPlan plan.ledgerPlan =
      match Uuid.fromU128 (writer.nextLedgerEntryId.asU128 + 1) with
      | some next => (writer.afterWrite request draft next, .ok ())
      | none =>
        (writer.withEntries (entriesAfterUpdates request writer.state.ledgerEntries),
          .error .arithmeticOverflow) := by
  have updated := planned.write.applyStatusUpdates_eq distinct
  rw [planned.ledgerPlan]
  simp only [applyLedgerPlan, plannedWrite, updated, pushDrafts, takeNextLedgerEntryId, withEntries]
  cases Uuid.fromU128 (writer.nextLedgerEntryId.asU128 + 1) with
  | none => rfl
  | some next => rfl

theorem stepResult_execute (writer : InMemoryConsistentLedgerWriter)
    (request : ConsistentLedgerWriteRequest)
    (distinct : (writer.state.ledgerEntries.map LedgerEntryRecord.id).Nodup) :
    StepResult writer request (writer.executeConsistentLedgerWrite request).1
      (writer.executeConsistentLedgerWrite request).2.outcome := by
  unfold executeConsistentLedgerWrite
  cases planned : planConsistentLedgerWrite request writer.state with
  | error error => exact .unchanged (by simp [rejectedExecution]) (by simp [planned])
  | ok plan =>
    dsimp only
    cases outcome : plan.outcome with
    | idempotent existingEntryId =>
      exact .unchanged (by simp) (by simp [planned, outcome])
    | apply =>
      obtain ⟨draft, updates, writePlanned⟩ := exists_writePlanned planned outcome
      rw [applyLedgerPlan_eq distinct writePlanned]
      cases advanced :
          Uuid.fromU128 (writer.nextLedgerEntryId.asU128 + 1) with
      | none => exact .exhausted writePlanned advanced
      | some next =>
        exact .applied writePlanned (Uuid.fromU128_eq_some_iff.mp advanced)

end InMemoryConsistentLedgerWriter

end FuboxApi
