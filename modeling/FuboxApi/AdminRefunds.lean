import FuboxApi.LedgerAdjustments

/-!
# Refunds of an admin stay within the debit

Whatever the interleaving: the confirmed refunds against a ledger entry do not add up to more than
its amount. They are compared as texts of eight places.
-/

namespace FuboxApi

open CheckedFold TransactionSystem TransactionSystem.LockParts

/-- The constraints of the ledger: its primary key, the type of its amounts, and
the foreign key of related entries. -/
structure LedgerConstraints (database : BillingDatabase) : Prop where
  unique : (database.ledgerEntries.map LedgerEntryRow.id).Nodup
  stored : ∀ row ∈ database.ledgerEntries, moneyColumn.Stores row.amount
  related : ∀ row ∈ database.ledgerEntries, ∀ relatedId, row.relatedLedgerEntryId = some relatedId →
      relatedId ∈ database.ledgerEntries.map LedgerEntryRow.id

/-- What the confirmed credits against an entry add up to. -/
def creditTotal (database : BillingDatabase) (entryId : Uuid) (currency : String) : ℚ :=
  ((confirmedCredits database entryId currency).map LedgerEntryRow.amount).sum

/-! ## What an execution writes -/

/-- A row that an execution writes to the ledger. -/
structure WritesEntry (before : BillingDatabase) (row : LedgerEntryRow) : Prop where
  fresh : row.id ∉ before.ledgerEntries.map LedgerEntryRow.id
  stored : moneyColumn.Stores row.amount
  related : ∀ relatedId, row.relatedLedgerEntryId = some relatedId →
    relatedId ∈ before.ledgerEntries.map LedgerEntryRow.id
  refund : row.entryType = .refund → ∃ entry ∈ before.ledgerEntries,
    row.relatedLedgerEntryId = some entry.id ∧ entry.tenantId = defaultTenantId ∧
      row.tenantId = entry.tenantId ∧ row.currency = entry.currency ∧
      creditTotal before entry.id entry.currency + row.amount ≤ |entry.amount|

/-- What an execution may do to the ledger. -/
inductive AdjustmentEffect (before : BillingDatabase) :
    LedgerAdjustmentOutcome → BillingDatabase → Prop
  | idempotent {existing : LedgerEntryRow} : AdjustmentEffect before (.idempotent existing) before
  | created {row : LedgerEntryRow} {remaining : Option RefundRemainingSummary}
      (writes : WritesEntry before row) :
      AdjustmentEffect before (.created row remaining) (before.write (.ledgerEntry row))

variable {before : BillingDatabase}

section

variable {newId : Uuid} {plan : LedgerAdjustmentPlan}
  {value : LedgerAdjustmentOutcome} {written : List BillingWrite}

/-- An entry to which a plan relates: one of the tenant, in the currency. -/
def RelatesTo (before : BillingDatabase) (plan : LedgerAdjustmentPlan) : Prop :=
  ∀ entry ∈ plan.relatedEntry, entry ∈ before.ledgerEntries ∧
    entry.tenantId = defaultTenantId ∧ entry.currency = plan.currency

/-- All statements but the insert. -/
def LedgerAdjustmentCall.isRead : LedgerAdjustmentCall → Bool
  | insertLedgerAdjustmentEntry _ _ => false
  | _ => true

variable {call : LedgerAdjustmentCall}

theorem writes_eq_nil_of_permits {executed : BillingStatement call.Answer}
    (reads : call.isRead = true) (permitted : call.Permits before executed) :
    executed.writes = [] := by
  cases call with
  | insertLedgerAdjustmentEntry newId plan => cases reads
  | getLedgerEntryForAdjustmentExecute _ =>
    rcases permitted with execution | unlocked
    · cases execution
      rfl
    · exact unlocked.2
  | getLedgerAdjustmentDedupeEntryForUpdate _ =>
    rcases permitted with execution | unlocked
    · cases execution
      rfl
    · exact unlocked
  | lockLedgerAdjustmentWallet _ | getConfirmedRefundCreditSummaryForUpdate _ _ =>
    rcases permitted with execution | unlocked
    · cases execution
      rfl
    · exact unlocked.elim

theorem endsWith_of_read
    {next : call.Answer → LedgerAdjustmentProgram (AdminResult LedgerAdjustmentOutcome)}
    (reads : call.isRead = true) (ends : ledgerAdjustmentParts.EndsWith before value written
      (AsyncProgram.perform call >>= next) []) : ∃ executed, call.Permits before executed ∧
      ledgerAdjustmentParts.EndsWith before value written (next executed.answer) [] := by
  obtain ⟨executed, permitted, ends⟩ := ends
  have nothing : executed.writes = [] := writes_eq_nil_of_permits reads permitted
  rw [nothing] at ends
  exact ⟨executed, permitted, ends⟩

theorem writesEntry_of_insert {remaining : Option RefundRemainingSummary}
    (relates : RelatesTo before plan)
    (within : plan.operation = .refund → ∀ amount, DecimalText.number plan.amount.toList =
      some amount → amount ∈ moneyColumn.grid ∧ ∃ entry ∈ plan.relatedEntry,
        creditTotal before entry.id entry.currency + amount ≤ |entry.amount|)
    (ends : ledgerAdjustmentParts.EndsWith before value written
      (insertLedgerAdjustment newId plan remaining) []) :
    AdjustmentEffect before value (ledgerAdjustmentSystem.view before written) := by
  obtain ⟨executed, permitted, ends⟩ := ends
  rcases permitted with execution | unlocked
  · obtain ⟨amount, stored, amountEq, assigned, rfl, fits, _⟩ :=
      execute_insertLedgerAdjustmentEntry execution
    obtain ⟨valueEq, rfl⟩ := ends
    cases valueEq
    refine .created ⟨fits.1, NumericColumn.stores_of_assign assigned, ?_, ?_⟩
    · intro relatedId relatedEq
      obtain ⟨entry, entryEq, rfl⟩ := Option.map_eq_some_iff.mp relatedEq
      exact List.mem_map_of_mem (relates entry entryEq).1
    · intro isRefund
      have operationEq : plan.operation = .refund := by
        cases operation : plan.operation with
        | refund => rfl
        | adjust =>
          simp [LedgerAdjustmentPlan.ledgerEntry, operation,
            LedgerAdjustmentOperation.plannedEntryType] at isRefund
      obtain ⟨onGrid, entry, entryEq, bound⟩ := within operationEq amount amountEq
      obtain ⟨member, tenantEq, currencyEq⟩ := relates entry entryEq
      have exactly : stored = amount := le_antisymm (NumericColumn.assign_le onGrid le_rfl assigned)
        (NumericColumn.le_assign onGrid le_rfl assigned)
      subst exactly
      refine ⟨entry, member, ?_, tenantEq, tenantEq.symm, currencyEq.symm, bound⟩
      rw [LedgerAdjustmentPlan.ledgerEntry, Option.mem_def.mp entryEq]
      rfl
  · exact unlocked.elim

variable (constraints : LedgerConstraints before)

include constraints

theorem effect_writeLedgerAdjustment (relates : RelatesTo before plan)
    (ends : ledgerAdjustmentParts.EndsWith before value written
      (writeLedgerAdjustment newId plan) []) :
    AdjustmentEffect before value (ledgerAdjustmentSystem.view before written) := by
  unfold writeLedgerAdjustment at ends
  split at ends
  · next operationEq =>
    refine writesEntry_of_insert relates (fun refund => ?_) ends
    cases operationEq.symm.trans refund
  · cases ends.1
  · next entry operationEq entryEq =>
    obtain ⟨executed, permitted, ends⟩ := endsWith_of_read rfl ends
    rcases permitted with execution | unlocked
    · cases execution
      split at ends
      · cases ends.1
      · next remaining accepted =>
        refine writesEntry_of_insert relates (fun _ amount amountEq => ?_) ends
        obtain ⟨member, _, currencyEq⟩ := relates entry entryEq
        have onGrid : ∀ row ∈ before.ledgerEntries, row.amount ∈ moneyColumn.grid :=
          fun row rowMem => NumericColumn.mem_grid_of_stores (constraints.stored row rowMem)
        have creditsOnGrid : ∀ amount ∈ (confirmedCredits before entry.id plan.currency).map
            LedgerEntryRow.amount, amount ∈ moneyColumn.grid := by
          intro credit creditMem
          obtain ⟨row, rowMem, rfl⟩ := List.mem_map.mp creditMem
          exact onGrid row (List.mem_filter.mp rowMem).1
        obtain ⟨_, bound, amountGrid⟩ := validateRefundRemainingAmount_eq_ok accepted amountEq
          (number_moneyText (onGrid entry member)) (number_moneySumText creditsOnGrid)
        exact ⟨amountGrid, entry, entryEq, currencyEq ▸ bound⟩
    · exact unlocked.elim

theorem effect_executeOnWallet (relates : RelatesTo before plan)
    (ends : ledgerAdjustmentParts.EndsWith before value written (executeOnWallet newId plan) []) :
    AdjustmentEffect before value (ledgerAdjustmentSystem.view before written) := by
  have once : ledgerAdjustmentParts.EndsWith before value written (executeOnce newId plan) [] →
      AdjustmentEffect before value (ledgerAdjustmentSystem.view before written) := by
    intro ends
    obtain ⟨⟨_, existing, _⟩, _, ends⟩ := endsWith_of_read rfl ends
    cases existing with
    | some existing =>
      obtain ⟨valueEq, rfl⟩ := ends
      cases valueEq
      exact .idempotent
    | none => exact effect_writeLedgerAdjustment constraints relates ends
  unfold executeOnWallet at ends
  split at ends
  · split at ends
    · cases ends.1
    · exact once ends
  · obtain ⟨⟨_, found, _⟩, _, ends⟩ := endsWith_of_read rfl ends
    cases found with
    | true => exact once ends
    | false => cases ends.1

theorem effect_executeLedgerAdjustment {execution : LedgerAdjustmentExecution}
    (ends : ledgerAdjustmentParts.EndsWith before value written
      (ledgerAdjustmentSystem.program execution) []) :
    AdjustmentEffect before value (ledgerAdjustmentSystem.view before written) := by
  rw [program_ledgerAdjustmentSystem, executeLedgerAdjustment] at ends
  split at ends
  · cases ends.1
  · split at ends
    · obtain ⟨⟨locks, entry, writes⟩, permitted, ends⟩ := endsWith_of_read rfl ends
      cases entry with
      | none => cases ends.1
      | some entry =>
        dsimp only at ends
        split at ends
        · cases ends.1
        · next valid =>
          refine effect_executeOnWallet constraints ?_ ends
          rintro related ⟨⟩
          rcases permitted with execution | unlocked
          · have found : findLedgerEntry before _ = some entry :=
              congrArg ExecutedStatement.answer (Except.ok.inj execution)
            obtain ⟨member, tenantEq, _⟩ := findLedgerEntry_eq_some found
            obtain ⟨_, currencyEq, _⟩ := bind_eq_ok.mp valid
            exact ⟨member, tenantEq, ensure_eq_ok.mp currencyEq⟩
          · cases unlocked.1
    · split at ends
      · cases ends.1
      · exact effect_executeOnWallet constraints
          (fun _ related => absurd related (Option.not_mem_none _)) ends

end

/-! ## Refunds against an entry -/

/-- The confirmed refunds against an entry. -/
def refundsOf (database : BillingDatabase) (entryId : Uuid) : List LedgerEntryRow :=
  database.ledgerEntries.filter fun row =>
    row.relatedLedgerEntryId = some entryId ∧ row.entryType = .refund ∧ row.status = .confirmed

/-- What the confirmed refunds against an entry add up to. -/
def refunded (database : BillingDatabase) (entryId : Uuid) : ℚ :=
  ((refundsOf database entryId).map LedgerEntryRow.amount).sum

/-- The refunds against an entry are in its currency and do not exceed it. -/
structure RefundedWithin (database : BillingDatabase) (entry : LedgerEntryRow) : Prop where
  sameCurrency : ∀ refund ∈ refundsOf database entry.id,
    refund.tenantId = entry.tenantId ∧ refund.currency = entry.currency
  bounded : refunded database entry.id ≤ |entry.amount|

section

variable {row entry : LedgerEntryRow}

theorem sum_filter_le_sum_filter {rows : List LedgerEntryRow} {first second : LedgerEntryRow → Bool}
    (dropped : ∀ row ∈ rows, first row = true → second row = false → row.amount ≤ 0)
    (added : ∀ row ∈ rows, second row = true → 0 ≤ row.amount) :
    ((rows.filter first).map LedgerEntryRow.amount).sum ≤
      ((rows.filter second).map LedgerEntryRow.amount).sum := by
  induction rows with
  | nil => exact le_rfl
  | cons row rest ih =>
    have restLe := ih (fun row member => dropped row (List.mem_cons_of_mem _ member))
      (fun row member => added row (List.mem_cons_of_mem _ member))
    have headLe : (if first row = true then row.amount else 0) ≤
        if second row = true then row.amount else 0 := by
      cases isSecond : second row with
      | false =>
        split
        · next isFirst => exact dropped row List.mem_cons_self isFirst isSecond
        · exact le_rfl
      | true =>
        split
        · exact le_rfl
        · exact added row List.mem_cons_self isSecond
    have sum_cons (selected : LedgerEntryRow → Bool) :
        (((row :: rest).filter selected).map LedgerEntryRow.amount).sum =
          (if selected row = true then row.amount else 0) +
            ((rest.filter selected).map LedgerEntryRow.amount).sum := by
      cases isSelected : selected row <;> simp [isSelected]
    rw [sum_cons, sum_cons]
    exact add_le_add headLe restLe

theorem refunded_le_creditTotal (within : RefundedWithin before entry)
    (tenantEq : entry.tenantId = defaultTenantId) :
    refunded before entry.id ≤ creditTotal before entry.id entry.currency := by
  refine sum_filter_le_sum_filter (fun row member isRefund notCredit => ?_) fun row _ isCredit => ?_
  · obtain ⟨rowTenant, rowCurrency⟩ :=
      within.sameCurrency row (List.mem_filter.mpr ⟨member, isRefund⟩)
    simp only [decide_eq_true_eq, decide_eq_false_iff_not] at isRefund notCredit
    by_contra positive
    exact notCredit ⟨rowTenant.trans tenantEq, isRefund.1, rowCurrency, isRefund.2.2,
      .inl isRefund.2.1, not_le.mp positive⟩
  · simp only [decide_eq_true_eq] at isCredit
    exact isCredit.2.2.2.2.2.le

theorem refundsOf_write (entryId : Uuid) :
    refundsOf (before.write (.ledgerEntry row)) entryId = refundsOf before entryId ++
      if row.relatedLedgerEntryId = some entryId ∧ row.entryType = .refund ∧
        row.status = .confirmed then [row] else [] := by
  simp only [refundsOf, BillingDatabase.write, List.filter_append, List.filter_singleton,
    decide_eq_true_eq, Bool.cond_eq_ite]

variable (constraints : LedgerConstraints before)

include constraints

theorem refundsOf_eq_nil {entryId : Uuid}
    (fresh : entryId ∉ before.ledgerEntries.map LedgerEntryRow.id) :
    refundsOf before entryId = [] := by
  refine List.filter_eq_nil_iff.mpr fun row member isRefund => ?_
  simp only [decide_eq_true_eq] at isRefund
  exact fresh (constraints.related row member entryId isRefund.1)

variable (writes : WritesEntry before row)

include writes

theorem LedgerConstraints.write : LedgerConstraints (before.write (.ledgerEntry row)) where
  unique := by
    have appended : ((before.write (.ledgerEntry row)).ledgerEntries.map LedgerEntryRow.id) =
        before.ledgerEntries.map LedgerEntryRow.id ++ [row.id] := List.map_append
    rw [appended]
    exact List.Nodup.append constraints.unique (List.nodup_singleton _)
      (List.disjoint_singleton.mpr writes.fresh)
  stored other member := by
    rcases List.mem_append.mp member with old | new
    · exact constraints.stored other old
    · rw [List.mem_singleton.mp new]
      exact writes.stored
  related other member relatedId relatedEq := by
    refine List.map_subset _ (List.subset_append_left _ _) ?_
    rcases List.mem_append.mp member with old | new
    · exact constraints.related other old relatedId relatedEq
    · rw [List.mem_singleton.mp new] at relatedEq
      exact writes.related relatedId relatedEq

theorem RefundedWithin.write (member : entry ∈ before.ledgerEntries)
    (within : RefundedWithin before entry) :
    RefundedWithin (before.write (.ledgerEntry row)) entry := by
  have refundsEq : refundsOf (before.write (.ledgerEntry row)) entry.id = _ :=
    refundsOf_write entry.id
  by_cases against : row.relatedLedgerEntryId = some entry.id ∧ row.entryType = .refund ∧
      row.status = .confirmed
  · rw [if_pos against] at refundsEq
    obtain ⟨debit, debitMem, relatedEq, debitTenant, tenantEq, currencyEq, bound⟩ :=
      writes.refund against.2.1
    have same : debit = entry := List.inj_on_of_nodup_map constraints.unique debitMem member
      (Option.some.inj (relatedEq.symm.trans against.1))
    subst same
    constructor
    · intro refund refundMem
      rw [refundsEq] at refundMem
      rcases List.mem_append.mp refundMem with old | new
      · exact within.sameCurrency refund old
      · rw [List.mem_singleton.mp new]
        exact ⟨tenantEq, currencyEq⟩
    · have total : refunded (before.write (.ledgerEntry row)) debit.id =
          refunded before debit.id + row.amount := by
        simp [refunded, refundsEq]
      calc refunded (before.write (.ledgerEntry row)) debit.id
          = refunded before debit.id + row.amount := total
        _ ≤ creditTotal before debit.id debit.currency + row.amount := by
            gcongr
            exact refunded_le_creditTotal within debitTenant
        _ ≤ |debit.amount| := bound
  · rw [if_neg against, List.append_nil] at refundsEq
    exact ⟨refundsEq ▸ within.sameCurrency, by rw [refunded, refundsEq]; exact within.bounded⟩

theorem refundedWithin_written : RefundedWithin (before.write (.ledgerEntry row)) row := by
  have notOwn : row.relatedLedgerEntryId ≠ some row.id := fun own =>
    writes.fresh (writes.related row.id own)
  have nothing : refundsOf (before.write (.ledgerEntry row)) row.id = [] := by
    rw [refundsOf_write, refundsOf_eq_nil constraints writes.fresh, if_neg (notOwn ·.1)]
    rfl
  constructor
  · simp [nothing]
  · simp [refunded, nothing]

end

/-! ## Every interleaving -/

abbrev LedgerAdjustmentCommit :=
  Commit BillingDatabase LedgerAdjustmentExecution LedgerAdjustmentOutcome

def createdEntry (commit : LedgerAdjustmentCommit) : Option LedgerEntryRow :=
  match commit.value with
  | .created entry _ => some entry
  | .idempotent _ => none

structure LedgerHistory (initial : BillingDatabase) (commits : List LedgerAdjustmentCommit)
    (database : BillingDatabase) : Prop where
  constraints : LedgerConstraints database
  within : ∀ entry ∈ database.ledgerEntries,
    (entry ∈ initial.ledgerEntries → RefundedWithin initial entry) → RefundedWithin database entry
  appended : database.ledgerEntries =
    initial.ledgerEntries ++ commits.reverse.filterMap createdEntry

section

variable {initial database : BillingDatabase} {commits : List LedgerAdjustmentCommit}

theorem LedgerHistory.commit {request : LedgerAdjustmentExecution} {value : LedgerAdjustmentOutcome}
    {after : BillingDatabase} (history : LedgerHistory initial commits before)
    (effect : AdjustmentEffect before value after) :
    LedgerHistory initial (⟨request, value, before, after⟩ :: commits) after := by
  cases effect with
  | idempotent =>
    refine ⟨history.constraints, history.within, ?_⟩
    simpa [createdEntry, List.filterMap_cons] using history.appended
  | @created row remaining writes =>
    refine ⟨history.constraints.write writes, fun entry member initially => ?_, ?_⟩
    · rcases List.mem_append.mp member with old | new
      · exact (history.within entry old initially).write history.constraints writes old
      · rw [List.mem_singleton.mp new]
        exact refundedWithin_written history.constraints writes
    · simp [createdEntry, BillingDatabase.write, history.appended]

theorem ledgerHistory_of_serial (constraints : LedgerConstraints initial)
    (history : ledgerAdjustmentParts.SerialHistory initial commits database) :
    LedgerHistory initial commits database := by
  induction history with
  | nil =>
    exact ⟨constraints, fun _ member initially => initially member, (List.append_nil _).symm⟩
  | commit _ reached earlier =>
    have ends := endsWith_of_reached reached
    exact earlier.commit (effect_executeLedgerAdjustment earlier.constraints ends)

end

abbrev ledgerServerAfter (initial : BillingDatabase)
    (actions : List (Action LedgerAdjustmentExecution)) :=
  ledgerAdjustmentSystem.serverAfter initial actions

theorem ledgerHistory_serverAfter {initial : BillingDatabase}
    (constraints : LedgerConstraints initial) (actions : List (Action LedgerAdjustmentExecution)) :
    LedgerHistory initial (ledgerServerAfter initial actions).commits
      (ledgerServerAfter initial actions).committed :=
  ledgerHistory_of_serial constraints
    (serialHistory_serverAfter guarded_executeLedgerAdjustment initial actions)

/-- Whatever the interleaving: the confirmed refunds against an entry do not
exceed it, the ledger consists of what was there and of the entries with which
executions have answered, and an execution that is refused does not change what
is committed, whether it goes on, tries to commit or is rolled back. -/
theorem admin_refunds_within_debit {initial : BillingDatabase}
    (constraints : LedgerConstraints initial) (actions : List (Action LedgerAdjustmentExecution)) :
    (∀ entry ∈ (ledgerServerAfter initial actions).committed.ledgerEntries,
      (entry ∈ initial.ledgerEntries → RefundedWithin initial entry) →
        refunded (ledgerServerAfter initial actions).committed entry.id ≤ |entry.amount|) ∧
      (ledgerServerAfter initial actions).committed.ledgerEntries = initial.ledgerEntries ++
        (ledgerServerAfter initial actions).commits.reverse.filterMap createdEntry ∧
      ∀ index transaction refusal,
        (ledgerServerAfter initial actions).active[index]? = some transaction →
        transaction.program = .done (.error refusal) →
        ∀ action, action = .statement index ∨ action = .commit index ∨ action = .rollback index →
          (ledgerServerAfter initial (actions ++ [action])).committed =
            (ledgerServerAfter initial actions).committed := by
  have history := ledgerHistory_serverAfter constraints actions
  refine ⟨fun entry member initially => (history.within entry member initially).bounded,
    history.appended, ?_⟩
  intro index transaction refusal found failed action own
  have after : ledgerServerAfter initial (actions ++ [action]) =
      (ledgerAdjustmentSystem.step (ledgerServerAfter initial actions) action).1 :=
    TransitionRuns.stateAfter_append actions [action]
  rw [after]
  exact committed_step_of_error ledgerAdjustmentSystem found failed own

/-! Two refunds of a debit of ten at the same time: together they would exceed it. -/

def refundableDebit : LedgerEntryRow where
  id := sampleId 70
  tenantId := defaultTenantId
  projectId := none
  virtualKeyId := none
  walletId := some (sampleId 9)
  requestId := none
  relatedLedgerEntryId := none
  entryType := .settle
  amount := -10
  currency := "USD"
  status := .confirmed
  idempotencyKey := "settle"

def refundableLedger : BillingDatabase :=
  { BillingDatabase.empty with
    wallets := [⟨sampleId 9, defaultTenantId, none, "USD", .active, 0, 0, none⟩]
    ledgerEntries := [refundableDebit] }

def refundOfDebit (newId : Nat) (amount : String) : LedgerAdjustmentExecution :=
  ⟨sampleId newId,
    ⟨"refund", amount, "USD", none, none, none, some refundableDebit.id, some "goodwill"⟩⟩

def refundActions : List (Action LedgerAdjustmentExecution) :=
  List.flatten [[.begin (refundOfDebit 71 "3.75"), .begin (refundOfDebit 72 "6.5")],
    -- the other client waits for the row of the debit
    List.replicate 2 (.statement 0), [.statement 1], List.replicate 3 (.statement 0), [.commit 0],
    -- and then finds that too little is left
    List.replicate 4 (.statement 0), [.commit 0, .rollback 0],
    [.begin (refundOfDebit 73 "3.5")], List.replicate 5 (.statement 0), [.commit 0]]

theorem ledgerConstraints_refundableLedger : LedgerConstraints refundableLedger where
  unique := by decide +kernel
  stored row member := by
    cases List.mem_singleton.mp member
    decide +kernel
  related row member relatedId relatedEq := by
    cases List.mem_singleton.mp member
    cases relatedEq

theorem admin_refunds_within_debit_exhausted :
    refunded (ledgerServerAfter refundableLedger refundActions).committed (sampleId 70) = 10 ∧
      (ledgerServerAfter refundableLedger refundActions).commits.length = 2 ∧
      refunded (ledgerServerAfter refundableLedger refundActions).committed refundableDebit.id ≤
        |refundableDebit.amount| :=
  ⟨by decide +kernel, by decide +kernel,
    (admin_refunds_within_debit ledgerConstraints_refundableLedger refundActions).1
      refundableDebit (by decide +kernel) fun _ => ⟨by simp [refundsOf, refundableLedger,
        refundableDebit], by decide +kernel⟩⟩

end FuboxApi
