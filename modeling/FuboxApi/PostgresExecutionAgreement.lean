import FuboxApi.InMemoryWriterBalance
import FuboxApi.PostgresExecutionSpec

/-!
# The two executors agree

The in-memory writer reverses reserves before it appends the new entry; the statements for Postgres
insert first. `HoldsEntries` relates a table to a ledger, and an insert and a status update keep the
relation.
-/

namespace FuboxApi.PostgresExecution

open CheckedFold ConsistentWriter InMemoryConsistentLedgerWriter LedgerContract

/-- The rows of a tenant hold the entries of a ledger, in some order. -/
def HoldsEntries (tenantId : Uuid) (rows : List LedgerEntryRow) (entries : List LedgerEntryRecord) :
    Prop :=
  ∃ listed : List LedgerEntryRow, listed.Perm (rows.filter fun row => row.tenantId = tenantId) ∧
      List.Forall₂ (HoldsEntry tenantId) listed entries

variable {entries : List LedgerEntryRecord}

section

variable {tenantId : Uuid} {rows : List LedgerEntryRow} {row : LedgerEntryRow}
  {entry : LedgerEntryRecord} (held : HoldsEntries tenantId rows entries)

include held

theorem HoldsEntries.exists_entry (rowMem : row ∈ rows) (tenantEq : row.tenantId = tenantId) :
    ∃ entry ∈ entries, HoldsEntry tenantId row entry := by
  obtain ⟨listed, sameRows, pairs⟩ := held
  have listedMem : row ∈ listed :=
    sameRows.mem_iff.mpr (List.mem_filter.mpr ⟨rowMem, by simpa using tenantEq⟩)
  obtain ⟨index, indexLt, rfl⟩ := List.mem_iff_getElem.mp listedMem
  have entryLt : index < entries.length := pairs.length_eq ▸ indexLt
  exact ⟨entries[index], List.getElem_mem _, pairs.get indexLt entryLt⟩

theorem HoldsEntries.exists_row (entryMem : entry ∈ entries) :
    ∃ row ∈ rows, HoldsEntry tenantId row entry := by
  obtain ⟨listed, sameRows, pairs⟩ := held
  obtain ⟨index, indexLt, rfl⟩ := List.mem_iff_getElem.mp entryMem
  have rowLt : index < listed.length := pairs.length_eq ▸ indexLt
  have rowMem := sameRows.mem_iff.mp (List.getElem_mem rowLt)
  exact ⟨listed[index], (List.mem_filter.mp rowMem).1, pairs.get rowLt indexLt⟩

theorem HoldsEntries.countP_eq (selectsRow : LedgerEntryRow → Bool)
    (selectsEntry : LedgerEntryRecord → Bool)
    (ofTenant : ∀ row, selectsRow row = true → row.tenantId = tenantId)
    (agrees : ∀ row entry, HoldsEntry tenantId row entry → selectsRow row = selectsEntry entry) :
    rows.countP selectsRow = entries.countP selectsEntry := by
  obtain ⟨listed, sameRows, pairs⟩ := held
  have filtered : rows.countP selectsRow =
      (rows.filter fun row => row.tenantId = tenantId).countP selectsRow := by
    rw [List.countP_filter]
    apply List.countP_congr
    intro row _
    simp only [Bool.and_eq_true, decide_eq_true_eq]
    exact ⟨fun selected => ⟨selected, ofTenant row selected⟩, And.left⟩
  rw [filtered, ← sameRows.countP_eq]
  clear sameRows filtered
  induction pairs with
  | nil => rfl
  | @cons row entry listed entries holds _ ih =>
    rw [List.countP_cons, List.countP_cons, ih, agrees row entry holds]

theorem HoldsEntries.map {changeRow : LedgerEntryRow → LedgerEntryRow}
    {changeEntry : LedgerEntryRecord → LedgerEntryRecord}
    (sameTenant : ∀ row, (changeRow row).tenantId = row.tenantId)
    (holds : ∀ row, ∀ entry ∈ entries, HoldsEntry tenantId row entry →
      HoldsEntry tenantId (changeRow row) (changeEntry entry)) :
    HoldsEntries tenantId (rows.map changeRow) (entries.map changeEntry) := by
  obtain ⟨listed, sameRows, pairs⟩ := held
  refine ⟨listed.map changeRow, ?_, ?_⟩
  · rw [List.filter_map]
    simp only [Function.comp_def, sameTenant]
    exact sameRows.map changeRow
  · obtain ⟨sameLength, holdsAt⟩ := List.forall₂_iff_get.mp pairs
    rw [List.forall₂_map_left_iff, List.forall₂_map_right_iff, List.forall₂_iff_get]
    refine ⟨sameLength, fun index rowLt entryLt => ?_⟩
    exact holds _ _ (List.get_mem _ _) (holdsAt index rowLt entryLt)

theorem HoldsEntries.append (holds : HoldsEntry tenantId row entry) :
    HoldsEntries tenantId (rows ++ [row]) (entries ++ [entry]) := by
  obtain ⟨listed, sameRows, pairs⟩ := held
  refine ⟨listed ++ [row], ?_, List.rel_append pairs (.cons holds .nil)⟩
  rw [List.filter_append, List.filter_cons_of_pos (by simpa using holds.tenantId)]
  exact sameRows.append_right [row]

end

section

variable {context : SqlContext} {plan : ConsistentLedgerWriterPlan} {database : LedgerDatabase}
  {target : LedgerEntryRecord} {draft : LedgerEntryDraft} {request : ConsistentLedgerWriteRequest}
  {updates : List LedgerStatusUpdate}

section

variable (context) (distinct : (entries.map LedgerEntryRecord.id).Nodup)
  (held : HoldsEntries plan.scope.tenantId database.ledgerEntries entries)

include distinct held

theorem countP_matches (targetMem : target ∈ entries) (pending : target.status = .pending) :
    (database.ledgerEntries.countP fun row => MatchesStatusUpdate plan.scope.tenantId target.id
        (ledgerEntryStatusSql .pending) row) = 1 := by
  have agrees : ∀ row entry, HoldsEntry plan.scope.tenantId row entry →
      decide (MatchesStatusUpdate plan.scope.tenantId target.id
        (ledgerEntryStatusSql .pending) row) =
          decide (entry.id = target.id ∧ entry.status = .pending) := by
    intro row entry holds
    rw [decide_eq_decide, matchesStatusUpdate_pending_iff, holds.tenantId, holds.id, holds.status]
    simp
  rw [held.countP_eq _ _ (fun row selected => (of_decide_eq_true selected).1) agrees]
  have sameCount : entries.countP (fun entry => entry.id = target.id ∧ entry.status = .pending) =
        (entries.map LedgerEntryRecord.id).count target.id := by
    rw [List.count, List.countP_map]
    apply List.countP_congr
    intro entry entryMem
    simp only [decide_eq_true_eq, Function.comp_apply, beq_iff_eq]
    refine ⟨And.left, fun idEq => ⟨idEq, ?_⟩⟩
    rw [List.inj_on_of_nodup_map distinct entryMem targetMem idEq]
    exact pending
  rw [sameCount]
  exact List.count_eq_one_of_mem distinct (List.mem_map_of_mem targetMem)

theorem statusUpdate_agrees (targetMem : target ∈ entries) (pending : target.status = .pending) :
    ∃ after, applyCommand context plan database (fun order => statusUpdateCommand order target.id) =
          .ok after ∧ HoldsEntries plan.scope.tenantId after.ledgerEntries
        (KeyedRows.modify LedgerEntryRecord.id target.id reverseEntry entries) := by
  refine ⟨_, applyCommand_statusUpdate_eq_ok.mpr
    ⟨countP_matches distinct held targetMem pending, rfl⟩, ?_⟩
  apply held.map
  · intro row
    rw [updatedRow]
    split <;> rfl
  · intro row entry entryMem holds
    have matchesIff : MatchesStatusUpdate plan.scope.tenantId target.id
        (ledgerEntryStatusSql .pending) row ↔ entry.id = target.id := by
      rw [matchesStatusUpdate_pending_iff, holds.tenantId, holds.id, holds.status]
      refine ⟨fun selected => selected.2.1, fun idEq => ⟨rfl, idEq, ?_⟩⟩
      rw [List.inj_on_of_nodup_map distinct entryMem targetMem idEq]
      exact pending
    rw [updatedRow]
    by_cases idEq : entry.id = target.id
    · rw [if_pos (matchesIff.mpr idEq), if_pos idEq]
      exact { holds with status := rfl }
    · rw [if_neg (mt matchesIff.mp idEq), if_neg idEq]
      exact holds

theorem statusUpdates_agree {reserves : List LedgerEntryRecord}
    (reservesDistinct : (reserves.map LedgerEntryRecord.id).Nodup)
    (pending : ∀ reserve ∈ reserves, ∃ entry ∈ entries,
      entry.id = reserve.id ∧ entry.status = .pending) :
    ∃ after, ((reserves.map reserveSettledUpdate).map fun update order =>
        statusUpdateCommand order update.ledgerEntryId).foldlM
          (applyCommand context plan) database = .ok after ∧
      HoldsEntries plan.scope.tenantId after.ledgerEntries
        ((reserves.map LedgerEntryRecord.id).foldl (fun current target =>
            KeyedRows.modify LedgerEntryRecord.id target reverseEntry current) entries) := by
  induction reserves generalizing entries database with
  | nil => exact ⟨database, rfl, held⟩
  | cons reserve rest ih =>
    have restDistinct := (List.nodup_cons.mp reservesDistinct).2
    obtain ⟨entry, entryMem, idEq, statusEq⟩ := pending reserve (by simp)
    obtain ⟨next, applied, nextHeld⟩ := statusUpdate_agrees context distinct held entryMem statusEq
    rw [idEq] at applied nextHeld
    have stillDistinct : ((KeyedRows.modify LedgerEntryRecord.id reserve.id
        reverseEntry entries).map LedgerEntryRecord.id).Nodup := by
      rw [KeyedRows.map_key_modify reverseEntry_id]
      exact distinct
    obtain ⟨final, folded, finalHeld⟩ := ih stillDistinct nextHeld
      restDistinct (pending_of_modify reservesDistinct pending)
    exact ⟨final, bind_eq_ok.mpr ⟨_, applied, folded⟩, finalHeld⟩

end

theorem appliedUpdates_agree (context : SqlContext) {record : LedgerEntryRecord}
    (write : AppliedWrite entries request draft updates)
    (distinct : ((entries ++ [record]).map LedgerEntryRecord.id).Nodup)
    (held : HoldsEntries plan.scope.tenantId database.ledgerEntries (entries ++ [record])) :
    ∃ after, (updates.map fun update order => statusUpdateCommand order update.ledgerEntryId).foldlM
          (applyCommand context plan) database = .ok after ∧
      HoldsEntries plan.scope.tenantId after.ledgerEntries
        (entriesAfterUpdates request entries ++ [record]) := by
  cases write with
  | @settle _ requestId =>
    rw [List.map_append] at distinct
    have entriesDistinct := distinct.of_append_left
    have reservesDistinct : ((pendingReserves entries requestId).map LedgerEntryRecord.id).Nodup :=
      entriesDistinct.sublist (List.filter_sublist.map _)
    have recordKept : record.id ∉ (pendingReserves entries requestId).map LedgerEntryRecord.id := by
      intro recordMem
      have entryMem := (List.filter_sublist.map _).subset recordMem
      exact List.disjoint_of_nodup_append distinct entryMem (by simp)
    have pending : ∀ reserve ∈ pendingReserves entries requestId, ∃ entry ∈ entries ++ [record],
          entry.id = reserve.id ∧ entry.status = .pending := by
      intro reserve reserveMem
      obtain ⟨entry, entryMem, isPending⟩ := pending_of_pendingReserves requestId reserve reserveMem
      exact ⟨entry, List.mem_append_left _ entryMem, isPending⟩
    obtain ⟨after, folded, afterHeld⟩ := statusUpdates_agree context
      (by rwa [List.map_append]) held reservesDistinct pending
    refine ⟨after, folded, ?_⟩
    rw [KeyedRows.foldl_modify_eq_map reverseEntry_id reservesDistinct,
      List.map_append, List.map_singleton, if_neg recordKept,
      ← KeyedRows.foldl_modify_eq_map reverseEntry_id reservesDistinct,
      foldl_modify_pendingReserves entriesDistinct] at afterHeld
    exact afterHeld
  | _ => exact ⟨database, rfl, held⟩

theorem insert_agrees (single : plan.ledgerPlan.entries = [draft])
    (draftKey : draft.idempotencyKey = plan.idempotencyKey)
    (held : HoldsEntries plan.scope.tenantId database.ledgerEntries entries)
    (keyFresh : ∀ entry ∈ entries, entry.idempotencyKey ≠ plan.idempotencyKey)
    (idFresh : context.newId ∉ database.ledgerEntries.map LedgerEntryRow.id)
    (stored : context.amountColumn draft.amount.toRat = some draft.amount.toRat) :
    ∃ after, applyCommand context plan database (fun order => insertLedgerCommand order draft) =
          .ok after ∧ HoldsEntries plan.scope.tenantId after.ledgerEntries
        (entries ++ [recordOfDraft context.newId draft]) := by
  refine ⟨_, (applyCommand_insert_eq_ok single).mpr ⟨_, stored, ?_, idFresh, rfl⟩, held.append ?_⟩
  · intro row rowMem tenantEq keyEq
    obtain ⟨entry, entryMem, holds⟩ := held.exists_entry rowMem tenantEq
    exact keyFresh entry entryMem (holds.idempotencyKey.symm.trans keyEq)
  · exact ⟨rfl, rfl, rfl, rfl, rfl, rfl, rfl, rfl, draftKey.symm⟩

/-- The mutating statements of a plan for a settle or another write leave the
rows of the updated ledger with the new entry. -/
theorem mutatingStatements_agree {state : ConsistentLedgerWriterState}
    (planned : WritePlanned state request plan draft updates)
    (distinct : (state.ledgerEntries.map LedgerEntryRecord.id).Nodup)
    (held : HoldsEntries plan.scope.tenantId database.ledgerEntries state.ledgerEntries)
    (idFresh : context.newId ∉ database.ledgerEntries.map LedgerEntryRow.id)
    (stored : context.amountColumn draft.amount.toRat = some draft.amount.toRat) :
    ∃ after, (mutatingStatements (executionPlan plan)).foldlM
        (applyStatement context plan) database = .ok after ∧
      HoldsEntries plan.scope.tenantId after.ledgerEntries
        (entriesAfterUpdates request state.ledgerEntries ++
          [recordOfDraft context.newId draft]) := by
  obtain ⟨_, _, _, facts⟩ := planConsistentLedgerWrite_eq_ok planned.planned
  have planEq := planned.ledgerPlan
  have single : plan.ledgerPlan.entries = [draft] := by rw [planEq]; rfl
  have updatesEq : plan.ledgerPlan.statusUpdates = updates := by rw [planEq]; rfl
  have draftKey : draft.idempotencyKey = plan.idempotencyKey :=
    planned.write.draft_key.trans facts.idempotencyKey.symm
  obtain ⟨inserted, applied, insertedHeld⟩ := insert_agrees single draftKey held
    (facts.idempotencyKey ▸ planned.keyFresh) idFresh stored
  have recordFresh : context.newId ∉ state.ledgerEntries.map LedgerEntryRecord.id := by
    intro known
    obtain ⟨entry, entryMem, idEq⟩ := List.mem_map.mp known
    obtain ⟨row, rowMem, holds⟩ := held.exists_row entryMem
    exact idFresh (List.mem_map.mpr ⟨row, rowMem, holds.id.trans idEq⟩)
  have allDistinct : ((state.ledgerEntries ++ [recordOfDraft context.newId draft]).map
        LedgerEntryRecord.id).Nodup := by
    rw [List.map_append]
    exact distinct.append (List.nodup_singleton _) (List.disjoint_singleton.mpr recordFresh)
  obtain ⟨after, folded, afterHeld⟩ :=
    appliedUpdates_agree context planned.write allDistinct insertedHeld
  rw [foldlM_mutatingStatements planned.applies, single, updatesEq]
  exact ⟨after, bind_eq_ok.mpr ⟨inserted, applied, folded⟩, afterHeld⟩

end

def mutatingPlan (writerPlan : ConsistentLedgerWriterPlan) :
    ConsistentLedgerPostgresExecutionPlan :=
  { executionPlan writerPlan with sqlStatements := mutatingStatements (executionPlan writerPlan) }

/-- The in-memory writer applies the plan, its mutating statements commit, and
the table then holds the entries of the writer, but for the identifier of the
new one. -/
def ExecutorsAgree (writer : InMemoryConsistentLedgerWriter) (plan : ConsistentLedgerWriterPlan)
    (context : SqlContext) (database : LedgerDatabase) : Prop :=
  (writer.applyLedgerPlan plan.ledgerPlan).2 = .ok () ∧
    (runPostgresPlan context plan (mutatingPlan plan) database).2.committed = true ∧
    ∃ entries record, (writer.applyLedgerPlan plan.ledgerPlan).1.state.ledgerEntries =
        entries ++ [record] ∧
      HoldsEntries plan.scope.tenantId
        (runPostgresPlan context plan (mutatingPlan plan) database).1.ledgerEntries
        (entries ++ [{ record with id := context.newId }])

/-- The executors agree on every plan to apply, when the writer has an
identifier left and the amount column stores the new amount as it is. -/
theorem executorsAgree_of_apply {writer : InMemoryConsistentLedgerWriter}
    {request : ConsistentLedgerWriteRequest} {plan : ConsistentLedgerWriterPlan}
    {context : SqlContext} {database : LedgerDatabase}
    (distinct : (writer.state.ledgerEntries.map LedgerEntryRecord.id).Nodup)
    (planned : planConsistentLedgerWrite request writer.state = .ok plan)
    (applies : plan.outcome = .apply)
    (held : HoldsEntries request.scope.tenantId database.ledgerEntries writer.state.ledgerEntries)
    (idFresh : context.newId ∉ database.ledgerEntries.map LedgerEntryRow.id)
    (idLeft : writer.nextLedgerEntryId.asU128 + 1 < 2 ^ 128)
    (stored : ∀ draft ∈ plan.ledgerPlan.entries,
      context.amountColumn draft.amount.toRat = some draft.amount.toRat) :
    ExecutorsAgree writer plan context database := by
  obtain ⟨draft, updates, writePlanned⟩ := exists_writePlanned planned applies
  obtain ⟨_, _, _, facts⟩ := planConsistentLedgerWrite_eq_ok planned
  rw [← facts.scope] at held
  have draftStored := stored draft (by rw [writePlanned.ledgerPlan]; simp [plannedWrite])
  obtain ⟨after, folded, afterHeld⟩ :=
    mutatingStatements_agree writePlanned distinct held idFresh draftStored
  obtain ⟨committed, afterEq⟩ := committed_of_foldlM (mutatingPlan plan) folded
  have advanced : Uuid.fromU128 (writer.nextLedgerEntryId.asU128 + 1) =
      some ⟨_, idLeft⟩ := dif_pos idLeft
  rw [ExecutorsAgree, afterEq, applyLedgerPlan_eq distinct writePlanned, advanced]
  exact ⟨rfl, committed, _, _, rfl, afterHeld⟩

/-- A transaction that gives its new row identifier 40, over the
`numeric(20, 8)` amount column. -/
def sampleContext : SqlContext where
  now := 0
  newId := sampleId 40
  amountColumn := moneyColumn.assign

/-- The table of the ledger with one pending reserve of 10. -/
def reservedTable : LedgerDatabase where
  wallets := []
  creditGrants := []
  budgets := []
  ledgerEntries :=
    [⟨sampleId 5, sampleId 1, none, none, some (sampleId 9), some (sampleId 21),
      none, .reserve, -10 / 10 ^ 8, "USD", .pending, reserveLedgerIdempotencyKey (sampleId 21)⟩]

/-- The plan that settles the reserve at 60. -/
def settlePlan : ConsistentLedgerWriterPlan :=
  (planConsistentLedgerWrite (.settle ⟨sampleId 1, none, none⟩ (sampleId 21) (sampleMoney 60) "USD")
    reservedState).toOption.get (by decide +kernel)

theorem holdsEntries_reservedTable : HoldsEntries (sampleId 1) reservedTable.ledgerEntries
      reservedState.ledgerEntries := by
  refine ⟨_, .refl _, .cons ⟨?_, ?_, ?_, ?_, ?_, ?_, ?_, ?_, ?_⟩ .nil⟩
  all_goals decide +kernel

theorem executorsAgree_settlePlan : ExecutorsAgree ⟨reservedState, sampleId 6⟩
      settlePlan sampleContext reservedTable :=
  executorsAgree_of_apply (by decide +kernel)
    (CheckedFold.eq_ok_get _) (by decide +kernel) holdsEntries_reservedTable
    (by decide +kernel) (by decide +kernel) (by decide +kernel)

/-- A wallet of 15 units of nine decimal digits over an empty ledger. -/
def fineState : ConsistentLedgerWriterState where
  wallet := some ⟨sampleId 9, "USD", { sampleMoney 15 with scale := 9, scale_le := by decide }⟩
  creditGrants := []
  budgets := []
  ledgerEntries := []

def fineReservePlan : ConsistentLedgerWriterPlan :=
  (planConsistentLedgerWrite (.reserve ⟨sampleId 1, none, none⟩ (sampleId 21)
      { sampleMoney 15 with scale := 9, scale_le := by decide } "USD")
    fineState).toOption.get (by decide +kernel)

/-- Without an identifier left, only the statements succeed; an amount with
more digits than the column keeps is stored rounded. -/
theorem executors_disagree : (settlePlan.outcome = .apply ∧
      HoldsEntries (sampleId 1) reservedTable.ledgerEntries
        reservedState.ledgerEntries ∧ ¬ ExecutorsAgree
        ⟨reservedState, sampleId (2 ^ 128 - 1)⟩
        settlePlan sampleContext reservedTable) ∧ fineReservePlan.outcome = .apply ∧
      HoldsEntries (sampleId 1) [] fineState.ledgerEntries ∧
      ¬ ExecutorsAgree ⟨fineState, sampleId 6⟩ fineReservePlan sampleContext ⟨[], [], [], []⟩ := by
  refine ⟨⟨by decide +kernel, holdsEntries_reservedTable, ?_⟩,
    by decide +kernel, ⟨[], .refl _, .nil⟩, ?_⟩
  · intro ⟨applied, _⟩
    revert applied
    decide +kernel
  · intro ⟨_, _, entries, record, ledgerEq, held⟩
    have recorded : ∀ entry ∈ entries ++ [record], entry.amount.toRat ≠ -2 / 10 ^ 8 := by
      rw [← ledgerEq]
      decide +kernel
    have rounded : ∀ row ∈ (runPostgresPlan sampleContext fineReservePlan
        (mutatingPlan fineReservePlan) ⟨[], [], [], []⟩).1.ledgerEntries,
        row.amount = -2 / 10 ^ 8 := by
      decide +kernel
    obtain ⟨row, rowMem, holds⟩ := held.exists_row
      (List.mem_append_right entries (List.mem_singleton_self _))
    exact recorded record (by simp) (holds.amount.symm.trans (rounded row rowMem))

end FuboxApi.PostgresExecution
