import FuboxApi.ControlPlaneTables
import FuboxApi.GatewayBalance
import FuboxApi.JsonDocument

/-!
# Paid reserves in the ledger

The gateway writes a pending reserve before it calls a provider. Settling writes a confirmed debit
and reverses the reserve; releasing only reverses it. The settle row names no wallet.
-/

namespace FuboxApi

open CheckedFold

structure AuthContext where
  tenantId : Uuid
  projectId : Uuid
  virtualKeyId : Uuid
  rateLimitPolicy : JsonDocument

/-- A ledger row and whether its metadata has the billing mode
`paid_controlled_beta`. -/
structure GatewayLedgerRow extends LedgerEntryRow where
  paidControlledBeta : Bool

structure GatewayLedger where
  wallets : List WalletRow
  creditGrants : List CreditGrantRow
  rows : List GatewayLedgerRow

inductive PaidReserveOutcome where
  | applied
  | idempotent
  | rejectedInsufficientBalance

structure PaidReserveEntry where
  requestId : Uuid
  reserveAmount : FixedDecimal
  currency : String

structure LedgerSettleEntry where
  requestId : Uuid
  finalCost : FixedDecimal
  currency : String

def paidReserveLedgerIdempotencyKey (requestId : Uuid) : String :=
  "reserve:" ++ requestId.toText

/-- The debit of a settle, unless the cost has no digit but zero. -/
def settleLedgerAmount (finalCost : FixedDecimal) : Option ℚ :=
  if finalCost.isZero then none else some (-|finalCost.toRat|)

theorem settleLedgerAmount_eq_some {finalCost : FixedDecimal} {cost : ℚ}
    (costEq : settleLedgerAmount finalCost = some cost) : cost = -|finalCost.toRat| := by
  rw [settleLedgerAmount] at costEq
  split at costEq
  · cases costEq
  · exact (Option.some.inj costEq).symm

/-- An amount as the column stores it; the column admits no zero. -/
def assignLedgerAmount (amount : ℚ) : Except DbError ℚ := do
  let stored ← okOr .numericValueOutOfRange (moneyColumn.assign amount)
  ensure (stored ≠ 0) (.checkViolation "ledger_entries" "amount <> 0")
  return stored

theorem assign_of_assignLedgerAmount {amount stored : ℚ}
    (assigned : assignLedgerAmount amount = .ok stored) :
    moneyColumn.assign amount = some stored := by
  obtain ⟨value, rounded, checked⟩ := bind_eq_ok.mp assigned
  obtain ⟨_, _, returned⟩ := bind_eq_ok.mp checked
  cases Except.ok.inj returned
  exact okOr_eq_ok.mp rounded

namespace GatewayLedger

/-- The tables as the balance queries read them. -/
def database (ledger : GatewayLedger) : LedgerDatabase where
  wallets := ledger.wallets
  creditGrants := ledger.creditGrants
  budgets := []
  ledgerEntries := ledger.rows.map GatewayLedgerRow.toLedgerEntryRow

/-- The rows with which a new row conflicts: those under its idempotency key,
and for a settle row the active settle rows of its request. -/
def conflicts (ledger : GatewayLedger) (row : GatewayLedgerRow) : Bool :=
  ledger.rows.any fun other =>
    other.tenantId = row.tenantId && (other.idempotencyKey = row.idempotencyKey ||
        (row.entryType = .settle && other.entryType = .settle &&
          other.requestId = row.requestId && decide other.status.IsActive))

def reserveRow (auth : AuthContext) (rowId walletId : Uuid) (entry : PaidReserveEntry)
    (amount : ℚ) : GatewayLedgerRow where
  id := rowId
  tenantId := auth.tenantId
  projectId := some auth.projectId
  virtualKeyId := some auth.virtualKeyId
  walletId := some walletId
  requestId := some entry.requestId
  relatedLedgerEntryId := none
  entryType := .reserve
  amount := amount
  currency := entry.currency
  status := .pending
  idempotencyKey := paidReserveLedgerIdempotencyKey entry.requestId
  paidControlledBeta := true

/-- The row that a settle inserts; it names no wallet. -/
def settleRow (auth : AuthContext) (rowId : Uuid) (entry : LedgerSettleEntry) (amount : ℚ) :
    GatewayLedgerRow where
  id := rowId
  tenantId := auth.tenantId
  projectId := some auth.projectId
  virtualKeyId := some auth.virtualKeyId
  walletId := none
  requestId := some entry.requestId
  relatedLedgerEntryId := none
  entryType := .settle
  amount := amount
  currency := entry.currency
  status := .confirmed
  idempotencyKey := settleLedgerIdempotencyKey entry.requestId
  paidControlledBeta := false

/-- A reserve of the request that is already there. -/
def existingReserve (ledger : GatewayLedger) (auth : AuthContext) (requestId : Uuid) : Bool :=
  ledger.rows.any fun row =>
    row.tenantId = auth.tenantId && row.requestId = some requestId &&
      row.idempotencyKey = paidReserveLedgerIdempotencyKey requestId &&
      row.entryType = .reserve && decide row.status.IsActive

/-- The serializable transaction that writes a reserve, at the time `now` and
with the identifier that the database generates for the row. -/
def insertPendingPaidReserveLedgerEntry (auth : AuthContext) (now : Int) (rowId : Uuid)
    (entry : PaidReserveEntry) (ledger : GatewayLedger) :
    Except DbError (PaidReserveOutcome × GatewayLedger) :=
  let query : BalanceQuery := ⟨auth.tenantId, auth.projectId, entry.currency, now⟩
  let readBack : PaidReserveOutcome × GatewayLedger :=
    if ledger.existingReserve auth entry.requestId then (.idempotent, ledger)
    else (.rejectedInsufficientBalance, ledger)
  match query.paidReserveBalanceWindow ledger.database with
  | none => .ok (.rejectedInsufficientBalance, ledger)
  | some (walletId, available) =>
    if entry.reserveAmount.toRat ≤ available then do
      let amount ← assignLedgerAmount (-entry.reserveAmount.toRat)
      let row := reserveRow auth rowId walletId entry amount
      return if ledger.conflicts row then readBack
        else (.applied, { ledger with rows := ledger.rows ++ [row] })
    else .ok readBack

/-- The reserves that a release or a settle of the request reverses. -/
def isPendingPaidReserve (auth : AuthContext) (requestId : Uuid) (row : GatewayLedgerRow) : Bool :=
  row.tenantId = auth.tenantId && row.requestId = some requestId &&
    row.virtualKeyId = some auth.virtualKeyId && row.entryType = .reserve &&
    row.status = .pending && row.paidControlledBeta

def reverse (row : GatewayLedgerRow) : GatewayLedgerRow :=
  { row with status := .reversed }

def reversePendingPaidReserves (auth : AuthContext) (requestId : Uuid)
    (rows : List GatewayLedgerRow) : List GatewayLedgerRow :=
  rows.map fun row => if isPendingPaidReserve auth requestId row then reverse row else row

def releasePendingPaidReserve (auth : AuthContext) (requestId : Uuid) (ledger : GatewayLedger) :
    Bool × GatewayLedger :=
  (ledger.rows.any (isPendingPaidReserve auth requestId),
    { ledger with rows := reversePendingPaidReserves auth requestId ledger.rows })

/-- The transaction that settles a request. -/
def insertConfirmedSettleLedgerEntry (auth : AuthContext) (rowId : Uuid) (entry : LedgerSettleEntry)
    (ledger : GatewayLedger) : Except DbError (Bool × GatewayLedger) :=
  match settleLedgerAmount entry.finalCost with
  | none => .ok (false, ledger)
  | some cost => do
      let amount ← assignLedgerAmount cost
      let row := settleRow auth rowId entry amount
      let inserted := !ledger.conflicts row
      let rows := if inserted then ledger.rows ++ [row] else ledger.rows
      return (inserted,
        { ledger with rows := reversePendingPaidReserves auth entry.requestId rows })

/-- Some paid reserve of the request is still pending. -/
def HoldsReserve (auth : AuthContext) (requestId : Uuid) (ledger : GatewayLedger) : Prop :=
  ∃ row ∈ ledger.rows, isPendingPaidReserve auth requestId row = true

instance (auth : AuthContext) (requestId : Uuid) (ledger : GatewayLedger) :
    Decidable (ledger.HoldsReserve auth requestId) :=
  inferInstanceAs (Decidable (∃ row ∈ _, _))

variable {auth : AuthContext} {requestId rowId : Uuid} {now : Int} {ledger after : GatewayLedger}

theorem isPendingPaidReserve_reverse (row : GatewayLedgerRow) :
    isPendingPaidReserve auth requestId (reverse row) = false := by
  simp [isPendingPaidReserve, reverse]

theorem not_holdsReserve_of_reversed {rows : List GatewayLedgerRow}
    (rowsEq : after.rows = reversePendingPaidReserves auth requestId rows) :
    ¬ after.HoldsReserve auth requestId := by
  rintro ⟨row, rowMem, pending⟩
  rw [rowsEq] at rowMem
  obtain ⟨earlier, _, rfl⟩ := List.mem_map.mp rowMem
  split at pending
  · rw [isPendingPaidReserve_reverse] at pending
    contradiction
  · contradiction

theorem not_holdsReserve_release :
    ¬ (releasePendingPaidReserve auth requestId ledger).2.HoldsReserve auth requestId :=
  not_holdsReserve_of_reversed rfl

variable {entry : LedgerSettleEntry} {inserted : Bool}

theorem not_holdsReserve_settle (nonzero : settleLedgerAmount entry.finalCost ≠ none)
    (settled : insertConfirmedSettleLedgerEntry auth rowId entry ledger = .ok (inserted, after)) :
    ¬ after.HoldsReserve auth entry.requestId := by
  unfold insertConfirmedSettleLedgerEntry at settled
  cases costEq : settleLedgerAmount entry.finalCost with
  | none => exact absurd costEq nonzero
  | some cost =>
    rw [costEq] at settled
    obtain ⟨amount, _, returned⟩ := bind_eq_ok.mp settled
    have ledgerEq := (Prod.mk.inj (Except.ok.inj returned)).2
    exact not_holdsReserve_of_reversed (congrArg GatewayLedger.rows ledgerEq.symm)

/-! ## What the transactions can do -/

theorem insertPendingPaidReserve_cases {entry : PaidReserveEntry} {outcome : PaidReserveOutcome}
    (executed : insertPendingPaidReserveLedgerEntry auth now rowId entry ledger =
      .ok (outcome, after)) : outcome ≠ .applied ∧ after = ledger ∨ ∃ walletId available amount,
      (BalanceQuery.mk auth.tenantId auth.projectId entry.currency now).paidReserveBalanceWindow
          ledger.database = some (walletId, available) ∧ entry.reserveAmount.toRat ≤ available ∧
        assignLedgerAmount (-entry.reserveAmount.toRat) = .ok amount ∧
        ledger.conflicts (reserveRow auth rowId walletId entry amount) = false ∧
        after = { ledger with
          rows := ledger.rows ++ [reserveRow auth rowId walletId entry amount] } := by
  dsimp only [insertPendingPaidReserveLedgerEntry] at executed
  have readBack : ∀ {refused : PaidReserveOutcome × GatewayLedger},
      refused = (if ledger.existingReserve auth entry.requestId then (.idempotent, ledger)
        else (.rejectedInsufficientBalance, ledger)) →
      refused.1 ≠ .applied ∧ refused.2 = ledger := by
    rintro refused rfl
    split <;> exact ⟨by simp, rfl⟩
  split at executed
  · cases executed
    exact .inl ⟨by simp, rfl⟩
  · next walletId available windowEq =>
    split at executed
    · next covered =>
      obtain ⟨amount, assigned, returned⟩ := bind_eq_ok.mp executed
      have resultEq := Except.ok.inj returned
      split at resultEq
      · exact .inl (readBack resultEq.symm)
      · next noConflict =>
        refine .inr ⟨walletId, available, amount, windowEq, covered, assigned, ?_, ?_⟩
        · exact Bool.eq_false_iff.mpr noConflict
        · exact (Prod.mk.inj resultEq).2.symm
    · exact .inl (readBack (Except.ok.inj executed).symm)

/-- A settle does nothing for a cost of zero; else it appends its row, unless
there is one, and reverses the reserves. -/
theorem insertConfirmedSettle_cases
    (executed : insertConfirmedSettleLedgerEntry auth rowId entry ledger = .ok (inserted, after)) :
    after = ledger ∨ ∃ cost amount rows,
      settleLedgerAmount entry.finalCost = some cost ∧ assignLedgerAmount cost = .ok amount ∧
        (rows = ledger.rows ∨ ledger.conflicts (settleRow auth rowId entry amount) = false ∧
            rows = ledger.rows ++ [settleRow auth rowId entry amount]) ∧
        after = { ledger with rows := reversePendingPaidReserves auth entry.requestId rows } := by
  unfold insertConfirmedSettleLedgerEntry at executed
  split at executed
  · cases executed
    exact .inl rfl
  · next cost costEq =>
    obtain ⟨amount, assigned, returned⟩ := bind_eq_ok.mp executed
    have ledgerEq := (Prod.mk.inj (Except.ok.inj returned)).2.symm
    refine .inr ⟨cost, amount, _, costEq, assigned, ?_, ledgerEq⟩
    split
    · next inserted => exact .inr ⟨by simpa using inserted, rfl⟩
    · exact .inl rfl

variable {other : AuthContext} {otherId : Uuid}

theorem isPendingPaidReserve_of_reversed (distinct : otherId ≠ requestId) (row : GatewayLedgerRow) :
    isPendingPaidReserve auth requestId
        (if isPendingPaidReserve other otherId row then reverse row else row) =
      isPendingPaidReserve auth requestId row := by
  split
  · next pending =>
    have rowOther : row.requestId = some otherId := by
      simp only [isPendingPaidReserve, Bool.and_eq_true, decide_eq_true_eq] at pending
      exact pending.1.1.1.1.2
    simp [isPendingPaidReserve, reverse, rowOther, distinct]
  · rfl

theorem exists_pending_reversed_iff (distinct : otherId ≠ requestId)
    (rows : List GatewayLedgerRow) : (∃ row ∈ reversePendingPaidReserves other otherId rows,
        isPendingPaidReserve auth requestId row = true) ↔
      ∃ row ∈ rows, isPendingPaidReserve auth requestId row = true := by
  simp [reversePendingPaidReserves, isPendingPaidReserve_of_reversed distinct]

theorem holdsReserve_release_other (distinct : otherId ≠ requestId) :
    (releasePendingPaidReserve other otherId ledger).2.HoldsReserve auth requestId ↔
      ledger.HoldsReserve auth requestId :=
  exists_pending_reversed_iff distinct ledger.rows

theorem holdsReserve_insert_other {entry : PaidReserveEntry} {outcome : PaidReserveOutcome}
    (distinct : entry.requestId ≠ requestId)
    (executed : insertPendingPaidReserveLedgerEntry other now rowId entry ledger =
      .ok (outcome, after)) :
    after.HoldsReserve auth requestId ↔ ledger.HoldsReserve auth requestId := by
  rcases insertPendingPaidReserve_cases executed with
    ⟨_, rfl⟩ | ⟨_, _, _, _, _, _, _, rfl⟩
  · exact Iff.rfl
  · simp [HoldsReserve, or_and_right, exists_or, isPendingPaidReserve, reserveRow, distinct]

theorem holdsReserve_settle_other (distinct : entry.requestId ≠ requestId)
    (executed : insertConfirmedSettleLedgerEntry other rowId entry ledger = .ok (inserted, after)) :
    after.HoldsReserve auth requestId ↔ ledger.HoldsReserve auth requestId := by
  rcases insertConfirmedSettle_cases executed with rfl | ⟨_, _, rows, _, _, rowsEq, rfl⟩
  · exact Iff.rfl
  · refine (exists_pending_reversed_iff distinct rows).trans ?_
    rcases rowsEq with rfl | ⟨_, rfl⟩
    · exact Iff.rfl
    · simp [HoldsReserve, or_and_right, exists_or, isPendingPaidReserve, settleRow]

end GatewayLedger

end FuboxApi
