import FuboxApi.PostgresCommits

/-!
# When concurrent writers stay solvent

A commit keeps every wallet solvent and every refund within its settle exactly when the tables it is
applied to cover its plan. Nothing checks that: two writers with one snapshot are the
counterexample.
-/

namespace FuboxApi.PostgresWriters

open PostgresExecution WriterSnapshot LedgerDatabase TransitionRuns

/-- The tables cover what a plan requires and refunds, and what it releases is its own. -/
structure CoveredBy (now : Int) (plan : ConsistentLedgerWriterPlan) (database : LedgerDatabase) :
    Prop where
  releases : ReleasesOwn plan database
  balance : ∀ wallet ∈ database.wallets, wallet.id = plan.walletCheck.walletId →
      plan.balanceWindow.requiredDebit.toRat ≤ walletBalance now wallet database
  refunds : ∀ draft ∈ plan.ledgerPlan.entries, draft.entryType = .refund →
    ∀ settle ∈ database.ledgerEntries, IsConfirmedSettle settle →
      settle.tenantId = plan.scope.tenantId →
      draft.relatedLedgerEntryId = some settle.id →
      refundedTotal settle database + draft.amount.toRat ≤ -settle.amount

/-- A waiting plan whose key and row identifier are free is covered by the tables
that it is executed on. -/
def ExecutesCovered (now : Int) (writers : PostgresWriters) : WriterAction → Prop
  | .plan _ _ _ _ => True
  | .execute index newId => ∀ plan ∈ writers.planned[index]?, plan.outcome = .apply →
      (∀ row ∈ writers.database.ledgerEntries, row.tenantId = plan.scope.tenantId →
          row.idempotencyKey ≠ plan.idempotencyKey) →
      newId ∉ writers.database.ledgerEntries.map LedgerEntryRow.id →
      CoveredBy now plan writers.database

/-- The constraints of the tables, and where the waiting plans come from. -/
structure Consistent (now : Int) (writers : PostgresWriters) : Prop where
  walletIds : (writers.database.wallets.map WalletRow.id).Nodup
  rowIds : (writers.database.ledgerEntries.map LedgerEntryRow.id).Nodup
  refundsKnown : ∀ row ∈ writers.database.ledgerEntries, row.entryType = .refund → ∀ related,
    row.relatedLedgerEntryId = some related →
      related ∈ writers.database.ledgerEntries.map LedgerEntryRow.id
  plannedFrom : ∀ plan ∈ writers.planned, PlannedFrom now writers.database plan

/-- Every refund of the ledger refunds a row of the ledger. -/
def RefundsKnown (database : LedgerDatabase) : Prop :=
  ∀ row ∈ database.ledgerEntries, row.entryType = .refund →
    ∀ related, row.relatedLedgerEntryId = some related →
      related ∈ database.ledgerEntries.map LedgerEntryRow.id

variable {now : Int} {newId : Uuid} {plan : ConsistentLedgerWriterPlan} {draft : LedgerEntryDraft}
  {before after : LedgerDatabase}

section

theorem newRow_entryType_iff (entryType : LedgerEntryType) :
    (newRow now newId plan draft).entryType = LedgerRow.rowType entryType ↔
      draft.entryType = entryType :=
  LedgerRow.rowType_injective.eq_iff

variable (write : CommittedWrite now newId plan draft before after)

include write

theorem CommittedWrite.solvent_iff (own : ReleasesOwn plan before)
    (solvent : ∀ wallet ∈ before.wallets, 0 ≤ walletBalance now wallet before) :
    (∀ wallet ∈ after.wallets, 0 ≤ walletBalance now wallet after) ↔
      ∀ wallet ∈ before.wallets, wallet.id = plan.walletCheck.walletId →
        plan.balanceWindow.requiredDebit.toRat ≤ walletBalance now wallet before := by
  rw [write.frame.wallets]
  apply forall₂_congr
  intro wallet walletMem
  have nonneg := solvent wallet walletMem
  have requiredNonneg := write.requiredNonneg
  by_cases isOwn : wallet.id = plan.walletCheck.walletId
  · obtain ⟨change, balanceEq, exactly, atMost⟩ :=
      write.ownWallet own wallet walletMem isOwn
    rw [balanceEq]
    constructor
    · intro afterNonneg _
      rcases requiredNonneg.eq_or_lt with isZero | positive
      · rw [← isZero]
        exact nonneg
      · rw [exactly positive] at afterNonneg
        linarith
    · intro covered
      have enough := covered isOwn
      linarith
  · rw [write.otherWallet own wallet isOwn]
    exact ⟨fun _ same => absurd same isOwn, fun _ => nonneg⟩

theorem CommittedWrite.refundedTotal_newRow (refundsKnown : RefundsKnown before)
    (isSettle : draft.entryType = .settle) :
    refundedTotal (newRow now newId plan draft) after = 0 := by
  have ownPart : refundedBy (newRow now newId plan draft) (newRow now newId plan draft) = 0 := by
    apply if_neg
    rintro ⟨_, _, isRefund, _⟩
    have draftRefund := (newRow_entryType_iff .refund).mp isRefund
    rw [isSettle] at draftRefund
    cases draftRefund
  have noRefunds : refundedTotal (newRow now newId plan draft) before = 0 := by
    apply List.sum_eq_zero
    intro amount amountMem
    obtain ⟨row, rowMem, rfl⟩ := List.mem_map.mp amountMem
    apply if_neg
    rintro ⟨_, relatedEq, isRefund, _⟩
    exact write.idFresh (refundsKnown row rowMem isRefund _ relatedEq)
  rw [write.refunded, noRefunds, ownPart, add_zero]

theorem CommittedWrite.refundsBounded_iff (refundsKnown : RefundsKnown before)
    (bounded : ∀ settle ∈ before.ledgerEntries, IsConfirmedSettle settle →
      refundedTotal settle before ≤ -settle.amount) :
    (∀ settle ∈ after.ledgerEntries, IsConfirmedSettle settle →
        refundedTotal settle after ≤ -settle.amount) ↔
      ∀ other ∈ plan.ledgerPlan.entries, other.entryType = .refund →
        ∀ settle ∈ before.ledgerEntries, IsConfirmedSettle settle →
          settle.tenantId = plan.scope.tenantId → other.relatedLedgerEntryId = some settle.id →
          refundedTotal settle before + other.amount.toRat ≤ -settle.amount := by
  rw [write.single]
  constructor
  · intro afterBounded other otherMem isRefund settle settleMem isSettle tenantEq relatedEq
    cases List.mem_singleton.mp otherMem
    have afterMem := (write.frame.confirmed settle isSettle.2).mpr
      (List.mem_append_left _ settleMem)
    have counted : refundedBy settle (newRow now newId plan draft) = draft.amount.toRat :=
      if_pos ⟨tenantEq.symm, relatedEq, (newRow_entryType_iff .refund).mpr isRefund, write.active⟩
    have bound := afterBounded settle afterMem isSettle
    rw [write.refunded, counted] at bound
    exact bound
  · intro fits settle settleMem isSettle
    rcases List.mem_append.mp
      ((write.frame.confirmed settle isSettle.2).mp settleMem) with old | new
    · rw [write.refunded]
      by_cases counts : (newRow now newId plan draft).tenantId = settle.tenantId ∧
          (newRow now newId plan draft).relatedLedgerEntryId = some settle.id ∧
          (newRow now newId plan draft).entryType = .refund ∧
          (newRow now newId plan draft).status.IsActive
      · rw [refundedBy, if_pos counts]
        exact fits draft (by simp) ((newRow_entryType_iff .refund).mp counts.2.2.1) settle
          old isSettle counts.1.symm counts.2.1
      · rw [refundedBy, if_neg counts, add_zero]
        exact bounded settle old isSettle
    · cases List.mem_singleton.mp new
      have draftSettle := (newRow_entryType_iff .settle).mp isSettle.1
      rw [write.refundedTotal_newRow refundsKnown draftSettle]
      have negative := write.settleNegative draftSettle
      exact neg_nonneg.mpr negative.le

end

section

variable {writers : PostgresWriters} {database : LedgerDatabase}

theorem transaction_of_idempotent (notApplied : plan.outcome ≠ .apply) :
    (transaction now newId plan database).1 = database := by
  cases committed : (transaction now newId plan database).2.committed with
  | false => exact runPostgresPlan_of_not_committed committed
  | true =>
    have folded := foldlM_mutatingStatements_of_committed committed
    have nothing : mutatingStatements (executionPlan plan) = [] := by
      cases outcome : plan.outcome with
      | apply => exact absurd outcome notApplied
      | idempotent existing =>
        simp [mutatingStatements, executionPlan, planConsistentLedgerPostgresExecution,
          ConsistentWriter.planConsistentLedgerWriteCommands, outcome,
          orderedLockStatements, lockStatement, commandStatements, readsOnly]
    rw [nothing] at folded
    exact (Except.ok.inj folded).symm

theorem transaction_cases (consistent : Consistent now writers) (newId : Uuid)
    (planMem : plan ∈ writers.planned) : (¬ (plan.outcome = .apply ∧
        (transaction now newId plan writers.database).2.committed = true) ∧
      (transaction now newId plan writers.database).1 = writers.database) ∨ (plan.outcome = .apply ∧
      (transaction now newId plan writers.database).2.committed = true ∧
      ∃ draft, CommittedWrite now newId plan draft writers.database
        (transaction now newId plan writers.database).1) := by
  by_cases applies : plan.outcome = .apply
  · cases committed : (transaction now newId plan writers.database).2.committed with
    | false =>
      exact Or.inl ⟨by simp, runPostgresPlan_of_not_committed committed⟩
    | true =>
      exact Or.inr ⟨applies, rfl, committedWrite_of_committed consistent.rowIds consistent.walletIds
        (consistent.plannedFrom plan planMem) applies committed⟩
  · exact Or.inl ⟨fun both => applies both.1, transaction_of_idempotent applies⟩

theorem PlannedFrom.of_kept (planned : PlannedFrom now before plan)
    (wallets : after.wallets = before.wallets)
    (creditGrants : after.creditGrants = before.creditGrants)
    (budgets : after.budgets = before.budgets)
    (kept : before.ledgerEntries.map eraseStatus ⊆ after.ledgerEntries.map eraseStatus) :
    PlannedFrom now after plan := by
  obtain ⟨walletId, requestId, related, request, state, earlier, stillKept, read, planEq⟩ := planned
  refine ⟨walletId, requestId, related, request, state, earlier,
    List.Subset.trans stillKept kept, ?_, planEq⟩
  rw [wallets, creditGrants, budgets]
  exact read

theorem CommittedWrite.map_id (write : CommittedWrite now newId plan draft before after) :
    after.ledgerEntries.map LedgerEntryRow.id =
      before.ledgerEntries.map LedgerEntryRow.id ++ [newId] := by
  have rows := congrArg (List.map LedgerEntryRow.id) write.frame.rows
  simpa [Function.comp_def, eraseStatus, newRow, rowOfDraft, sqlContext] using rows

theorem CommittedWrite.refundsKnown (write : CommittedWrite now newId plan draft before after)
    (known : RefundsKnown before) : RefundsKnown after := by
  intro row rowMem isRefund related relatedEq
  rw [write.map_id]
  apply List.mem_append_left
  have erasedMem : eraseStatus row ∈ after.ledgerEntries.map eraseStatus :=
    List.mem_map_of_mem rowMem
  rw [write.frame.rows] at erasedMem
  obtain ⟨original, originalMem, same⟩ := List.mem_map.mp erasedMem
  simp only [eraseStatus, LedgerEntryRow.mk.injEq] at same
  obtain ⟨_, _, _, _, _, _, sameRelated, sameType, _⟩ := same
  rcases List.mem_append.mp originalMem with old | new
  · exact known original old (sameType.trans isRefund) related (sameRelated.trans relatedEq)
  · cases List.mem_singleton.mp new
    obtain ⟨source, sourceMem, sourceEq⟩ := write.refundKnown
      ((newRow_entryType_iff .refund).mp (sameType.trans isRefund))
    have relatedSource : some source = some related :=
      sourceEq.symm.trans (sameRelated.trans relatedEq)
    exact Option.some.inj relatedSource ▸ sourceMem

theorem planFromSnapshot_eq_some {walletId : Uuid} {requestId related : Option Uuid}
    {request : ConsistentLedgerWriteRequest}
    (planned : planFromSnapshot now walletId requestId related request database = some plan) :
    PlannedFrom now database plan := by
  unfold planFromSnapshot at planned
  split at planned
  · cases planned
  · next state read =>
    cases planEq : ConsistentWriter.planConsistentLedgerWrite request state with
    | error failure =>
      rw [planEq] at planned
      cases planned
    | ok made =>
      rw [planEq] at planned
      cases planned
      exact ⟨walletId, requestId, related, request, state, database.ledgerEntries,
        List.Subset.refl _, read, planEq⟩

theorem consistent_of_step (consistent : Consistent now writers) (action : WriterAction) :
    Consistent now (step now writers action).1 := by
  cases action with
  | plan walletId requestId related request =>
    simp only [step]
    split
    · exact consistent
    · next plan planned =>
      refine { consistent with plannedFrom := ?_ }
      intro other otherMem
      rcases List.mem_append.mp otherMem with old | new
      · exact consistent.plannedFrom other old
      · cases List.mem_singleton.mp new
        exact planFromSnapshot_eq_some planned
  | execute index newId =>
    simp only [step]
    split
    · exact consistent
    · next plan found =>
      have stillPlanned : ∀ other ∈ writers.planned.eraseIdx index,
          PlannedFrom now writers.database other := fun other otherMem =>
        consistent.plannedFrom other (List.mem_of_mem_eraseIdx otherMem)
      rcases transaction_cases consistent newId (List.mem_of_getElem? found)
        with ⟨_, unchanged⟩ | ⟨_, _, draft, write⟩
      · rw [unchanged]
        exact { consistent with plannedFrom := stillPlanned }
      · have frame := write.frame
        refine ⟨frame.wallets ▸ consistent.walletIds, ?_,
          write.refundsKnown consistent.refundsKnown, ?_⟩
        · rw [write.map_id]
          exact consistent.rowIds.append (List.nodup_singleton _)
            (List.disjoint_singleton.mpr write.idFresh)
        · intro other otherMem
          apply (stillPlanned other otherMem).of_kept frame.wallets frame.creditGrants frame.budgets
          rw [frame.rows, List.map_append]
          exact List.subset_append_left _ _

theorem CommittedWrite.sound_iff (write : CommittedWrite now newId plan draft before after)
    (refundsKnown : RefundsKnown before) (own : ReleasesOwn plan before)
    (sound : Sound now before) : Sound now after ↔ CoveredBy now plan before := by
  have solventIff := write.solvent_iff own sound.solvent
  have refundsIff := write.refundsBounded_iff refundsKnown sound.refundsBounded
  constructor
  · intro soundAfter
    exact ⟨own, solventIff.mp soundAfter.solvent, refundsIff.mp soundAfter.refundsBounded⟩
  · intro covered
    exact ⟨solventIff.mpr covered.balance, refundsIff.mpr covered.refunds⟩

theorem sound_of_step (consistent : Consistent now writers) (sound : Sound now writers.database)
    (action : WriterAction) (covered : ExecutesCovered now writers action) :
    Sound now (step now writers action).1.database := by
  cases action with
  | plan walletId requestId related request =>
    simp only [step]
    split <;> exact sound
  | execute index newId =>
    simp only [step]
    split
    · exact sound
    · next plan found =>
      rcases transaction_cases consistent newId (List.mem_of_getElem? found)
        with ⟨_, unchanged⟩ | ⟨applies, _, draft, write⟩
      · rw [unchanged]
        exact sound
      · have coveredBy := covered plan found applies write.keyFree write.idFresh
        exact (write.sound_iff consistent.refundsKnown coveredBy.releases sound).mpr coveredBy

end

/-- Concurrent writers keep every wallet solvent and every refund within its
settle in every state of a run whose executed plans are covered by the tables
that they meet. -/
theorem sound_throughout_of_covered {now : Int} {writers : PostgresWriters}
    (consistent : Consistent now writers) (sound : Sound now writers.database)
    (actions : List WriterAction)
    (covered : StepsMeet (step now) (ExecutesCovered now) writers actions) :
    ∀ earlier later, actions = earlier ++ later →
      Sound now (stateAfter (step now) writers earlier).database := by
  have kept (current : PostgresWriters) (action : WriterAction)
      (executesCovered : ExecutesCovered now current action)
      (held : Consistent now current ∧ Sound now current.database) :
      Consistent now (step now current action).1 ∧ Sound now (step now current action).1.database :=
    ⟨consistent_of_step held.1 action, sound_of_step held.1 held.2 action executesCovered⟩
  intro earlier later split
  exact (stateAfter_invariant_of_stepsMeet kept ⟨consistent, sound⟩ covered earlier later split).2

/-- A wallet of 100 with a confirmed settle of 10 under identifier 5. -/
def sampleTables : LedgerDatabase where
  wallets := [⟨sampleId 9, sampleId 1, none, "USD", .active, 100, 0, none⟩]
  creditGrants := []
  budgets := []
  ledgerEntries :=
    [⟨sampleId 5, sampleId 1, none, none, some (sampleId 9), some (sampleId 21),
      none, .settle, -10, "USD", .confirmed, settleLedgerIdempotencyKey (sampleId 21)⟩]

theorem sound_sampleTables : Sound 0 sampleTables := by
  refine ⟨by decide +kernel, ?_⟩
  intro settle settleMem _
  cases List.mem_singleton.mp settleMem
  decide +kernel

theorem consistent_sampleTables : Consistent 0 ⟨sampleTables, []⟩ := by
  refine ⟨by decide +kernel, by decide +kernel, ?_, by simp⟩
  intro row rowMem isRefund
  cases List.mem_singleton.mp rowMem
  cases isRefund

def planReserve (amount : Int) (requestId : Uuid) : WriterAction :=
  .plan (sampleId 9) (some requestId) none
    (.reserve ⟨sampleId 1, none, none⟩ requestId (sampleMoney (amount * 10 ^ 8)) "USD")

def planRefund (operationId : Uuid) : WriterAction :=
  .plan (sampleId 9) none (some (sampleId 5)) (.refundPartial ⟨sampleId 1, none, none⟩ (sampleId 5)
    operationId (sampleMoney (6 * 10 ^ 8)) "USD")

/-- Two writers that plan from one snapshot and commit one after the other. -/
def interleaved (plan : Uuid → WriterAction) : List WriterAction :=
  [plan (sampleId 22), plan (sampleId 23), .execute 0 (sampleId 40), .execute 0 (sampleId 41)]

instance (plan : ConsistentLedgerWriterPlan) (database : LedgerDatabase) :
    Decidable (ReleasesOwn plan database) := by
  unfold ReleasesOwn
  infer_instance

instance (plan : ConsistentLedgerWriterPlan) (database : LedgerDatabase) :
    Decidable (CoveredBy 0 plan database) :=
  decidable_of_iff (_ ∧ _ ∧ _) ⟨fun covered => ⟨covered.1, covered.2.1, covered.2.2⟩,
    fun covered => ⟨covered.releases, covered.balance, covered.refunds⟩⟩

instance (writers : PostgresWriters) (action : WriterAction) :
    Decidable (ExecutesCovered 0 writers action) := by
  unfold ExecutesCovered
  split <;> infer_instance

/-- Two reserves of 40 from one snapshot are covered by the wallet of 100, and both commit. -/
theorem sound_throughout_interleaved :
    (stateAfter (step 0) ⟨sampleTables, []⟩
        (interleaved (planReserve 40))).database.ledgerEntries.length = 3 ∧
      ∀ earlier later, interleaved (planReserve 40) = earlier ++ later →
        Sound 0 (stateAfter (step 0) ⟨sampleTables, []⟩ earlier).database :=
  ⟨by decide +kernel, sound_throughout_of_covered consistent_sampleTables sound_sampleTables
    (interleaved (planReserve 40)) (by decide +kernel)⟩

/-- Two reserves of 80 from one snapshot overdraw the wallet of 100, and two
refunds of 6 from one snapshot exceed the settle of 10. -/
theorem interleaved_not_sound : Sound 0 sampleTables ∧
      ¬ Sound 0 (stateAfter (step 0) ⟨sampleTables, []⟩ (interleaved (planReserve 80))).database ∧
      ¬ Sound 0 (stateAfter (step 0) ⟨sampleTables, []⟩ (interleaved planRefund)).database := by
  refine ⟨sound_sampleTables, ?_, ?_⟩
  · intro sound
    have solvent := sound.solvent
    revert solvent
    decide +kernel
  · intro sound
    have bounded := sound.refundsBounded
    revert bounded
    decide +kernel

/-! ## No write is lost or repeated -/

/-- The operations that the ledger has a row for, each with its tenant. -/
def operations (database : LedgerDatabase) : List (Uuid × String) :=
  database.ledgerEntries.map fun row => (row.tenantId, row.idempotencyKey)

/-- The rows of an earlier ledger stay where they are and keep all but their status, a confirmed
one keeps that, too, and no operation has two rows. -/
structure Extends (before after : LedgerDatabase) : Prop where
  rows : before.ledgerEntries.map eraseStatus <+: after.ledgerEntries.map eraseStatus
  confirmed : ∀ row ∈ before.ledgerEntries, row.status = .confirmed → row ∈ after.ledgerEntries
  once : (operations after).Nodup

section

variable {now : Int} {newId : Uuid} {plan : ConsistentLedgerWriterPlan} {draft : LedgerEntryDraft}
  {initial before after : LedgerDatabase} {writers : PostgresWriters}

theorem CommittedWrite.operations_eq (write : CommittedWrite now newId plan draft before after) :
    operations after = operations before ++ [(plan.scope.tenantId, plan.idempotencyKey)] := by
  have rows := congrArg (List.map fun row => (row.tenantId, row.idempotencyKey)) write.frame.rows
  simpa [Function.comp_def, operations, eraseStatus, newRow, rowOfDraft] using rows

theorem Extends.commit (held : Extends initial before)
    (write : CommittedWrite now newId plan draft before after) : Extends initial after := by
  refine ⟨held.rows.trans ?_, fun row member isConfirmed => ?_, ?_⟩
  · rw [write.frame.rows, List.map_append]
    exact List.prefix_append _ _
  · exact (write.frame.confirmed row isConfirmed).mpr
      (List.mem_append_left _ (held.confirmed row member isConfirmed))
  · rw [write.operations_eq]
    refine held.once.append (List.nodup_singleton _) (List.disjoint_singleton.mpr fun taken => ?_)
    obtain ⟨row, member, same⟩ := List.mem_map.mp taken
    obtain ⟨tenantEq, keyEq⟩ := Prod.mk.inj same
    exact write.keyFree row member tenantEq keyEq

theorem Extends.step (consistent : Consistent now writers)
    (held : Extends initial writers.database) (action : WriterAction) :
    Extends initial (PostgresWriters.step now writers action).1.database := by
  cases action with
  | plan walletId requestId related request =>
    simp only [PostgresWriters.step]
    split <;> exact held
  | execute index newId =>
    simp only [PostgresWriters.step]
    split
    · exact held
    · next plan found =>
      rcases transaction_cases consistent newId (List.mem_of_getElem? found)
        with ⟨_, unchanged⟩ | ⟨_, _, draft, write⟩
      · rw [unchanged]
        exact held
      · exact held.commit write

end

/-- However the writers interleave, with whatever stale snapshots: the ledger is append-only but
for the statuses of rows that are not confirmed, and no operation is written twice. -/
theorem extends_of_run {now : Int} {writers : PostgresWriters}
    (consistent : Consistent now writers) (once : (operations writers.database).Nodup)
    (actions : List WriterAction) :
    Extends writers.database (stateAfter (step now) writers actions).database :=
  (stateAfter_invariant
    (fun current => Consistent now current ∧ Extends writers.database current.database)
    (fun _ action held => ⟨consistent_of_step held.1 action, held.2.step held.1 action⟩)
    ⟨consistent, List.prefix_refl _, fun _ member _ => member, once⟩ actions).2

theorem extends_of_run_interleaved : Extends sampleTables
    (stateAfter (step 0) ⟨sampleTables, []⟩ (interleaved planRefund)).database :=
  extends_of_run consistent_sampleTables (by decide +kernel) (interleaved planRefund)

end FuboxApi.PostgresWriters
