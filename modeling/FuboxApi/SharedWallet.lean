import FuboxApi.PaidReserves
import FuboxApi.TransitionRuns

/-!
# Wallets that several projects share

The projects of a tenant without a wallet of their own draw on that of the tenant. A reserve names
the wallet and is seen by all of them; the settle that replaces it names none, and only its own
project sees it.
-/

namespace FuboxApi

open KeyedRows NumericColumn TransitionRuns

/-! ## Requests to the ledger -/

inductive LedgerRequest where
  | reserve (auth : AuthContext) (now : Int) (rowId : Uuid) (entry : PaidReserveEntry)
  | settle (auth : AuthContext) (rowId : Uuid) (entry : LedgerSettleEntry)
  | release (auth : AuthContext) (requestId : Uuid)

def LedgerRequest.auth : LedgerRequest → AuthContext
  | reserve auth _ _ _ | settle auth _ _ | release auth _ => auth

inductive LedgerAnswer where
  | reserve (outcome : PaidReserveOutcome)
  | settle (inserted : Bool)
  | release (reversed : Bool)

namespace GatewayLedger

def perform (ledger : GatewayLedger) : LedgerRequest → GatewayLedger × Except DbError LedgerAnswer
  | .reserve auth now rowId entry =>
    match insertPendingPaidReserveLedgerEntry auth now rowId entry ledger with
    | .ok (outcome, after) => (after, .ok (.reserve outcome))
    | .error error => (ledger, .error error)
  | .settle auth rowId entry =>
    match insertConfirmedSettleLedgerEntry auth rowId entry ledger with
    | .ok (inserted, after) => (after, .ok (.settle inserted))
    | .error error => (ledger, .error error)
  | .release auth requestId =>
    let (reversed, after) := releasePendingPaidReserve auth requestId ledger
    (after, .ok (.release reversed))

end GatewayLedger

/-! ## The balance of a shared wallet -/

/-- A wallet of a tenant, and projects of the tenant whose balance queries
select it. -/
structure SharedWallet (wallets : List WalletRow) where
  wallet : WalletRow
  projects : List Uuid
  tenantWide : wallet.projectId = none
  selects : ∀ project ∈ projects,
    (BalanceQuery.mk wallet.tenantId project wallet.currency 0).selectedWallet wallets = some wallet

namespace SharedWallet

open GatewayLedger

variable {wallets : List WalletRow} (shared : SharedWallet wallets)

/-- The balance query of a project. -/
def query (project : Uuid) (now : Int) : BalanceQuery :=
  ⟨shared.wallet.tenantId, project, shared.wallet.currency, now⟩

def activeCredits (now : Int) (ledger : GatewayLedger) : ℚ :=
  selectedSum (fun grant : CreditGrantRow => grant.walletId = shared.wallet.id ∧
      grant.currency = shared.wallet.currency ∧ grant.tenantId = shared.wallet.tenantId ∧
      grant.IsValidAt now)
    CreditGrantRow.remainingAmount ledger.creditGrants

/-- The rows that the balance query of a project counts. -/
def seenBy (project : Uuid) (row : GatewayLedgerRow) : Bool :=
  (shared.query project 0).countsLedgerEntry shared.wallet.id shared.wallet.currency
    row.toLedgerEntryRow

def charges (row : GatewayLedgerRow) : Bool :=
  shared.projects.any fun project => shared.seenBy project row

/-- What the wallet has above its floor. -/
def balance (now : Int) (ledger : GatewayLedger) : ℚ :=
  shared.activeCredits now ledger +
    selectedSum shared.charges (fun row => row.amount) ledger.rows - shared.wallet.balanceFloor

def Solvent (now : Int) (ledger : GatewayLedger) : Prop :=
  0 ≤ shared.balance now ledger

/-- The active rows of the other projects that name no wallet. -/
def hiddenFrom (project : Uuid) (row : GatewayLedgerRow) : Bool :=
  row.tenantId = shared.wallet.tenantId && row.currency = shared.wallet.currency &&
    decide row.status.IsActive && row.walletId.isNone && row.projectId ≠ some project &&
    shared.projects.any fun other => row.projectId = some other

def hiddenBalance (project : Uuid) (ledger : GatewayLedger) : ℚ :=
  selectedSum (shared.hiddenFrom project) (fun row => row.amount) ledger.rows

/-- The ledger has these wallets, its amounts are those of money columns, and
pending reserves of the paid path are debits. -/
structure WellFormed (ledger : GatewayLedger) : Prop where
  wallets_eq : ledger.wallets = wallets
  floor_stored : moneyColumn.Stores shared.wallet.balanceFloor
  grants_stored : ∀ grant ∈ ledger.creditGrants, moneyColumn.Stores grant.remainingAmount
  rows_stored : ∀ row ∈ ledger.rows, moneyColumn.Stores row.amount
  reserves_debit : ∀ row ∈ ledger.rows, row.entryType = .reserve → row.status = .pending →
    row.paidControlledBeta = true → row.amount ≤ 0

/-- The requests of the projects of the wallet, as the gateway makes them. A
reserve is of no negative amount, and the credits that it counts are still valid
at the time the wallet is looked at. A settle in the currency of the wallet
repeats an earlier one, or costs at most its own pending reserve. -/
def Admits (observed : Int) (ledger : GatewayLedger) (request : LedgerRequest) : Prop :=
  (request.auth.tenantId = shared.wallet.tenantId ∧ request.auth.projectId ∈ shared.projects) ∧
    match request with
    | .reserve _ now _ entry =>
      0 ≤ entry.reserveAmount.toRat ∧
        shared.activeCredits now ledger ≤ shared.activeCredits observed ledger
    | .settle auth rowId entry =>
      entry.currency = shared.wallet.currency →
        ledger.conflicts (settleRow auth rowId entry (-|entry.finalCost.toRat|)) = true ∨
          ∃ row ∈ ledger.rows, isPendingPaidReserve auth entry.requestId row = true ∧
            row.walletId = some shared.wallet.id ∧ row.currency = entry.currency ∧
            |entry.finalCost.toRat| ≤ -row.amount
    | .release _ _ => True

/-- A project that reserves is not helped by what it does not see: the rows of
the other projects that name no wallet are not in debit. -/
def SeesDebits (ledger : GatewayLedger) : LedgerRequest → Prop
  | .reserve auth _ _ entry =>
    entry.currency = shared.wallet.currency → 0 ≤ shared.hiddenBalance auth.projectId ledger
  | .settle _ _ _ | .release _ _ => True

variable {shared} {ledger : GatewayLedger} {project : Uuid} {now observed : Int}

theorem seenBy_iff {row : GatewayLedgerRow} :
    shared.seenBy project row = true ↔ row.currency = shared.wallet.currency ∧
      (row.walletId = some shared.wallet.id ∨ row.walletId = none ∧ row.projectId = some project) ∧
      row.tenantId = shared.wallet.tenantId ∧ row.status.IsActive := by
  rw [seenBy, BalanceQuery.countsLedgerEntry, decide_eq_true_iff]
  exact Iff.rfl

theorem charges_iff {row : GatewayLedgerRow} : shared.charges row = true ↔
      ∃ project ∈ shared.projects, shared.seenBy project row = true :=
  List.any_eq_true

theorem charges_eq (member : project ∈ shared.projects) (row : GatewayLedgerRow) :
    shared.charges row = (shared.seenBy project row || shared.hiddenFrom project row) := by
  rw [Bool.eq_iff_iff, charges_iff, Bool.or_eq_true]
  simp only [seenBy_iff, hiddenFrom, List.any_eq_true, Bool.and_eq_true, decide_eq_true_eq,
    Option.isNone_iff_eq_none]
  constructor
  · rintro ⟨other, otherMem, currency, named | ⟨unnamed, ofOther⟩, tenant, active⟩
    · exact .inl ⟨currency, .inl named, tenant, active⟩
    · by_cases own : row.projectId = some project
      · exact .inl ⟨currency, .inr ⟨unnamed, own⟩, tenant, active⟩
      · exact .inr ⟨⟨⟨⟨⟨tenant, currency⟩, active⟩, unnamed⟩, own⟩, other, otherMem, ofOther⟩
  · rintro (seen | ⟨⟨⟨⟨⟨tenant, currency⟩, active⟩, unnamed⟩, _⟩, other, otherMem, ofOther⟩)
    · exact ⟨project, member, seen⟩
    · exact ⟨other, otherMem, currency, .inr ⟨unnamed, ofOther⟩, tenant, active⟩

theorem hiddenFrom_eq_false_of_seenBy {row : GatewayLedgerRow}
    (seen : shared.seenBy project row = true) : shared.hiddenFrom project row = false := by
  rcases seenBy_iff.mp seen with ⟨_, named | ⟨_, own⟩, _, _⟩
  · simp [hiddenFrom, named]
  · simp [hiddenFrom, own]

theorem balance_eq (member : project ∈ shared.projects) : shared.balance now ledger =
      (shared.query project now).availableBalance shared.wallet ledger.database +
        shared.hiddenBalance project ledger := by
  have split : selectedSum shared.charges (fun row => row.amount) ledger.rows =
      selectedSum (shared.seenBy project) (fun row => row.amount) ledger.rows +
        shared.hiddenBalance project ledger := by
    rw [hiddenBalance, ← selectedSum_or _ _ fun _ _ => hiddenFrom_eq_false_of_seenBy,
      funext (charges_eq member)]
  have seen : (shared.query project now).ledgerBalance shared.wallet.id shared.wallet.currency
      ledger.database = selectedSum (shared.seenBy project) (fun row => row.amount) ledger.rows :=
    selectedSum_map _ _ _ _
  have credits : (shared.query project now).creditBalance shared.wallet.id shared.wallet.currency
      ledger.database = shared.activeCredits now ledger := rfl
  rw [balance, BalanceQuery.availableBalance, split]
  change _ = (shared.query project now).creditBalance _ shared.wallet.currency _ +
    (shared.query project now).ledgerBalance _ shared.wallet.currency _ - _ + _
  rw [credits, seen]
  ring

theorem selectedSum_mem_grid {Row : Type} {selected : Row → Bool} {weight : Row → ℚ}
    {rows : List Row} (stored : ∀ row ∈ rows, moneyColumn.Stores (weight row)) :
    selectedSum selected weight rows ∈ moneyColumn.grid := by
  apply list_sum_mem
  intro amount amountMem
  obtain ⟨row, rowMem, rfl⟩ := List.mem_map.mp amountMem
  exact mem_grid_of_stores (stored row (List.mem_of_mem_filter rowMem))

theorem WellFormed.balance_mem_grid (wellFormed : shared.WellFormed ledger) :
    shared.balance now ledger ∈ moneyColumn.grid :=
  sub_mem (add_mem (selectedSum_mem_grid wellFormed.grants_stored)
      (selectedSum_mem_grid wellFormed.rows_stored))
    (mem_grid_of_stores wellFormed.floor_stored)

/-! ## One request -/

theorem window_of_member (wellFormed : shared.WellFormed ledger)
    (member : project ∈ shared.projects) :
    (shared.query project now).paidReserveBalanceWindow ledger.database = some (shared.wallet.id,
        (shared.query project now).availableBalance shared.wallet ledger.database) := by
  have selected : (shared.query project now).selectedWallet ledger.database.wallets =
      some shared.wallet := by
    change (shared.query project now).selectedWallet ledger.wallets = _
    rw [wellFormed.wallets_eq]
    exact shared.selects project member
  exact (BalanceQuery.readings_of_selectedWallet selected).2

theorem balance_append (row : GatewayLedgerRow) :
    shared.balance now { ledger with rows := ledger.rows ++ [row] } =
      shared.balance now ledger + contribution shared.charges (fun row => row.amount) row := by
  simp only [balance, selectedSum_append, selectedSum_singleton, activeCredits]
  ring

theorem contribution_reverse (row : GatewayLedgerRow) :
    contribution shared.charges (fun row => row.amount) (reverse row) = 0 := by
  have notCharged : shared.charges (reverse row) ≠ true := by
    intro charged
    obtain ⟨_, _, seen⟩ := charges_iff.mp charged
    have active := (seenBy_iff.mp seen).2.2.2
    simp [reverse, LedgerEntryStatus.IsActive] at active
  exact if_neg notCharged

section

variable (wellFormed : shared.WellFormed ledger) {row : GatewayLedgerRow} (auth : AuthContext)
  (requestId : Uuid)

include wellFormed

theorem WellFormed.debit_of_pending {auth : AuthContext} {requestId : Uuid}
    (rowMem : row ∈ ledger.rows) (pending : isPendingPaidReserve auth requestId row = true) :
    row.amount ≤ 0 := by
  simp only [isPendingPaidReserve, Bool.and_eq_true, decide_eq_true_eq] at pending
  obtain ⟨⟨⟨_, isReserve⟩, isPending⟩, isPaid⟩ := pending
  exact wellFormed.reserves_debit row rowMem isReserve isPending isPaid

theorem contribution_le_reversed : ∀ row ∈ ledger.rows,
      contribution shared.charges (fun row => row.amount) row ≤
        contribution shared.charges (fun row => row.amount)
          (if isPendingPaidReserve auth requestId row then reverse row else row) := by
  intro row rowMem
  split
  · next pending =>
    rw [contribution_reverse, contribution]
    split
    · exact wellFormed.debit_of_pending rowMem pending
    · exact le_rfl
  · exact le_rfl

theorem WellFormed.append (stored : moneyColumn.Stores row.amount) (debit : row.amount ≤ 0) :
    shared.WellFormed { ledger with rows := ledger.rows ++ [row] } where
  wallets_eq := wellFormed.wallets_eq
  floor_stored := wellFormed.floor_stored
  grants_stored := wellFormed.grants_stored
  rows_stored := List.forall_mem_append.mpr ⟨wellFormed.rows_stored, by simpa using stored⟩
  reserves_debit := List.forall_mem_append.mpr
    ⟨wellFormed.reserves_debit, by simpa using fun _ _ _ => debit⟩

theorem solvent_append (solvent : shared.Solvent observed ledger)
    (stored : moneyColumn.Stores row.amount) (debit : row.amount ≤ 0)
    (covered : shared.charges row = true → -shared.balance observed ledger ≤ row.amount) :
    shared.WellFormed { ledger with rows := ledger.rows ++ [row] } ∧
      shared.Solvent observed { ledger with rows := ledger.rows ++ [row] } := by
  refine ⟨wellFormed.append stored debit, ?_⟩
  rw [Solvent, balance_append, contribution]
  split
  · next charged => linarith [covered charged]
  · rw [add_zero]
    exact solvent

theorem WellFormed.reversed : shared.WellFormed
      { ledger with rows := reversePendingPaidReserves auth requestId ledger.rows } where
  wallets_eq := wellFormed.wallets_eq
  floor_stored := wellFormed.floor_stored
  grants_stored := wellFormed.grants_stored
  rows_stored := by
    intro row rowMem
    obtain ⟨earlier, earlierMem, rfl⟩ := List.mem_map.mp rowMem
    have stored := wellFormed.rows_stored earlier earlierMem
    split
    · exact stored
    · exact stored
  reserves_debit := by
    intro row rowMem isReserve isPending isPaid
    obtain ⟨earlier, earlierMem, rfl⟩ := List.mem_map.mp rowMem
    split at isPending
    · cases isPending
    · next notReversed =>
      rw [if_neg notReversed] at isReserve isPaid ⊢
      exact wellFormed.reserves_debit earlier earlierMem isReserve isPending isPaid

theorem balance_le_reversed : shared.balance now ledger ≤ shared.balance now
      { ledger with rows := reversePendingPaidReserves auth requestId ledger.rows } := by
  have total := selectedSum_le_map_change _ _ (contribution_le_reversed wellFormed auth requestId)
  simp only [balance, activeCredits, reversePendingPaidReserves]
  linarith

theorem solvent_reversed (solvent : shared.Solvent now ledger) : shared.Solvent now
      { ledger with rows := reversePendingPaidReserves auth requestId ledger.rows } :=
  le_trans solvent (balance_le_reversed wellFormed auth requestId)

theorem balance_le_reversed_add {auth : AuthContext} {requestId : Uuid} (rowMem : row ∈ ledger.rows)
    (pending : isPendingPaidReserve auth requestId row = true)
    (charged : shared.charges row = true) : shared.balance now ledger ≤ shared.balance now
      { ledger with rows := reversePendingPaidReserves auth requestId ledger.rows } +
        row.amount := by
  have total := selectedSum_add_le_map_change _ _
    (contribution_le_reversed wellFormed auth requestId) rowMem
  rw [if_pos pending, contribution_reverse, contribution, if_pos charged] at total
  simp only [balance, activeCredits, reversePendingPaidReserves]
  linarith

end

section

variable {auth : AuthContext} {rowId : Uuid} {after : GatewayLedger}

theorem solvent_reserve {entry : PaidReserveEntry} {outcome : PaidReserveOutcome}
    (wellFormed : shared.WellFormed ledger) (solvent : shared.Solvent observed ledger)
    (admitted : shared.Admits observed ledger (.reserve auth now rowId entry))
    (seen : shared.SeesDebits ledger (.reserve auth now rowId entry))
    (executed : insertPendingPaidReserveLedgerEntry auth now rowId entry ledger =
      .ok (outcome, after)) : shared.WellFormed after ∧ shared.Solvent observed after := by
  obtain ⟨⟨tenant, member⟩, nonneg, credits⟩ := admitted
  dsimp only [LedgerRequest.auth] at tenant member
  rcases insertPendingPaidReserve_cases executed with
    ⟨_, rfl⟩ | ⟨walletId, available, amount, window, covered, assignedLedger, _, rfl⟩
  · exact ⟨wellFormed, solvent⟩
  · have assigned := assign_of_assignLedgerAmount assignedLedger
    have debit : amount ≤ 0 := assign_le (zero_mem _) (neg_nonpos.mpr nonneg) assigned
    refine solvent_append wellFormed solvent (stores_of_assign assigned) debit ?_
    intro charged
    obtain ⟨_, _, counted⟩ := charges_iff.mp charged
    have currency : entry.currency = shared.wallet.currency := (seenBy_iff.mp counted).1
    have queryEq : BalanceQuery.mk auth.tenantId auth.projectId entry.currency now =
        shared.query auth.projectId now := by
      rw [query, currency, tenant]
    rw [queryEq, window_of_member wellFormed member] at window
    have availableEq := (Prod.mk.inj (Option.some.inj window)).2
    have hidden := seen currency
    have total : shared.balance now ledger = _ := balance_eq member
    refine le_assign (neg_mem wellFormed.balance_mem_grid) ?_ assigned
    simp only [balance] at total ⊢
    linarith

theorem reversed_append_settleRow (rows : List GatewayLedgerRow) (entry : LedgerSettleEntry)
    (amount : ℚ) (requestId : Uuid) :
    reversePendingPaidReserves auth requestId (rows ++ [settleRow auth rowId entry amount]) =
      reversePendingPaidReserves auth requestId rows ++ [settleRow auth rowId entry amount] := by
  have notReserve : isPendingPaidReserve auth requestId (settleRow auth rowId entry amount) =
      false := by
    simp [isPendingPaidReserve, settleRow]
  simp [reversePendingPaidReserves, notReserve]

theorem charges_of_pending {requestId : Uuid} {row : GatewayLedgerRow}
    (tenant : auth.tenantId = shared.wallet.tenantId) (member : auth.projectId ∈ shared.projects)
    (pending : isPendingPaidReserve auth requestId row = true)
    (named : row.walletId = some shared.wallet.id)
    (currency : row.currency = shared.wallet.currency) : shared.charges row = true := by
  simp only [isPendingPaidReserve, Bool.and_eq_true, decide_eq_true_eq] at pending
  obtain ⟨⟨⟨⟨⟨rowTenant, _⟩, _⟩, _⟩, rowStatus⟩, _⟩ := pending
  refine charges_iff.mpr ⟨auth.projectId, member, seenBy_iff.mpr ?_⟩
  refine ⟨currency, .inl named, rowTenant.trans tenant, ?_⟩
  rw [rowStatus]
  exact .inl rfl

theorem settle_covered {requestId : Uuid} {row : GatewayLedgerRow} {cost amount : ℚ}
    (wellFormed : shared.WellFormed ledger) (solvent : shared.Solvent observed ledger)
    (rowMem : row ∈ ledger.rows) (pending : isPendingPaidReserve auth requestId row = true)
    (charged : shared.charges row = true) (bound : row.amount ≤ cost)
    (assigned : moneyColumn.assign cost = some amount) : -shared.balance observed
      { ledger with rows := reversePendingPaidReserves auth requestId ledger.rows } ≤ amount := by
  have givenBack : shared.balance observed ledger ≤ _ :=
    balance_le_reversed_add wellFormed rowMem pending charged
  have onGrid := mem_grid_of_stores (wellFormed.rows_stored row rowMem)
  have covered : row.amount ≤ amount := le_assign onGrid bound assigned
  have nonneg : 0 ≤ shared.balance observed ledger := solvent
  linarith

theorem solvent_settle {entry : LedgerSettleEntry} {inserted : Bool}
    (wellFormed : shared.WellFormed ledger) (solvent : shared.Solvent observed ledger)
    (admitted : shared.Admits observed ledger (.settle auth rowId entry))
    (executed : insertConfirmedSettleLedgerEntry auth rowId entry ledger = .ok (inserted, after)) :
    shared.WellFormed after ∧ shared.Solvent observed after := by
  obtain ⟨⟨tenant, member⟩, withinReserve⟩ := admitted
  have reversedWellFormed := wellFormed.reversed auth entry.requestId
  have reversedSolvent := solvent_reversed wellFormed auth entry.requestId solvent
  rcases insertConfirmedSettle_cases executed with
    rfl | ⟨cost, amount, rows, costEq, assignedLedger, rfl | ⟨noConflict, rfl⟩, rfl⟩
  · exact ⟨wellFormed, solvent⟩
  · exact ⟨reversedWellFormed, reversedSolvent⟩
  · have assigned := assign_of_assignLedgerAmount assignedLedger
    have costValue := settleLedgerAmount_eq_some costEq
    have debit : amount ≤ 0 := by
      refine assign_le (zero_mem _) ?_ assigned
      rw [costValue]
      exact neg_nonpos.mpr (abs_nonneg _)
    rw [reversed_append_settleRow]
    refine solvent_append reversedWellFormed reversedSolvent (stores_of_assign assigned) debit ?_
    intro charged
    obtain ⟨_, _, counted⟩ := charges_iff.mp charged
    have currency : entry.currency = shared.wallet.currency := (seenBy_iff.mp counted).1
    rcases withinReserve currency with conflict | ⟨row, rowMem, pending, named, rowCurrency, bound⟩
    · exact absurd conflict (ne_true_of_eq_false noConflict)
    · have rowCharged := charges_of_pending tenant member pending named (rowCurrency.trans currency)
      refine settle_covered wellFormed solvent rowMem pending rowCharged ?_ assigned
      rw [costValue]
      exact le_neg_of_le_neg bound

end

theorem solvent_perform {request : LedgerRequest} (wellFormed : shared.WellFormed ledger)
    (solvent : shared.Solvent observed ledger) (admitted : shared.Admits observed ledger request)
    (seen : shared.SeesDebits ledger request) : shared.WellFormed (ledger.perform request).1 ∧
      shared.Solvent observed (ledger.perform request).1 := by
  cases request with
  | reserve auth now rowId entry =>
    dsimp only [perform]
    split
    · next executed => exact solvent_reserve wellFormed solvent admitted seen executed
    · exact ⟨wellFormed, solvent⟩
  | settle auth rowId entry =>
    dsimp only [perform]
    split
    · next executed => exact solvent_settle wellFormed solvent admitted executed
    · exact ⟨wellFormed, solvent⟩
  | release auth requestId =>
    exact ⟨wellFormed.reversed auth requestId, solvent_reversed wellFormed auth requestId solvent⟩

/-! ## Runs -/

/-- In a run in which no project reserves while the debits of the others are
hidden from it, the wallet is solvent in every state. -/
theorem wallet_solvent_of_run (shared : SharedWallet wallets) (observed : Int)
    (ledger : GatewayLedger) (requests : List LedgerRequest) (wellFormed : shared.WellFormed ledger)
    (solvent : shared.Solvent observed ledger)
    (admitted : StepsMeet perform (shared.Admits observed) ledger requests)
    (seen : StepsMeet perform shared.SeesDebits ledger requests) :
    ∀ earlier later, requests = earlier ++ later →
      shared.Solvent observed (stateAfter perform ledger earlier) := by
  have kept : ∀ (state : GatewayLedger) (request : LedgerRequest),
      shared.Admits observed state request ∧ shared.SeesDebits state request →
        shared.WellFormed state ∧ shared.Solvent observed state →
          shared.WellFormed (state.perform request).1 ∧
            shared.Solvent observed (state.perform request).1 := by
    rintro state request ⟨admitted, seen⟩ ⟨wellFormed, solvent⟩
    exact solvent_perform wellFormed solvent admitted seen
  intro earlier later split
  exact (stateAfter_invariant_of_stepsMeet kept ⟨wellFormed, solvent⟩
    (stepsMeet_and.mpr ⟨admitted, seen⟩) earlier later split).2

/-! ## Two projects -/

instance (request : LedgerRequest) : Decidable (shared.Admits observed ledger request) :=
  match request with
  | .reserve _ _ _ _ => inferInstanceAs (Decidable (_ ∧ _ ∧ _))
  | .settle _ _ _ => inferInstanceAs (Decidable (_ ∧ (_ → _ ∨ ∃ row ∈ _, _)))
  | .release _ _ => inferInstanceAs (Decidable (_ ∧ True))

instance (request : LedgerRequest) : Decidable (shared.SeesDebits ledger request) :=
  match request with
  | .reserve _ _ _ _ => inferInstanceAs (Decidable (_ → _))
  | .settle _ _ _ | .release _ _ => inferInstanceAs (Decidable True)

instance : Decidable (shared.Solvent observed ledger) :=
  inferInstanceAs (Decidable (_ ≤ _))

end SharedWallet

def teamWallet : WalletRow :=
  ⟨sampleId 9, sampleId 1, none, "USD", .active, 0, 0, none⟩

/-- Two projects without wallets of their own. -/
def teamShared : SharedWallet [teamWallet] where
  wallet := teamWallet
  projects := [sampleId 2, sampleId 3]
  tenantWide := rfl
  selects := by decide +kernel

def teamGrant : CreditGrantRow where
  id := sampleId 10
  tenantId := sampleId 1
  walletId := sampleId 9
  amount := 10
  remainingAmount := 10
  currency := "USD"
  source := "manual"
  validFrom := 0
  validUntil := none
  status := .active
  metadata := ⟨none, none, none⟩
  amount_pos := by decide
  remaining_nonneg := by decide
  remaining_le := le_refl 10

def teamLedger : GatewayLedger :=
  ⟨[teamWallet], [teamGrant], []⟩

/-- The virtual key of a project. -/
def teamAuth (project : Nat) : AuthContext :=
  ⟨sampleId 1, sampleId project, sampleId (project + 10), .object []⟩

theorem teamLedger_wellFormed : teamShared.WellFormed teamLedger where
  wallets_eq := rfl
  floor_stored := by decide +kernel
  grants_stored := by decide +kernel
  rows_stored := by simp [teamLedger]
  reserves_debit := by simp [teamLedger]

/-- A request of each project that spends the whole grant. -/
def teamOverdraft : List LedgerRequest :=
  [.reserve (teamAuth 2) 0 (sampleId 30) ⟨sampleId 20, sampleMoney (10 * 10 ^ 8), "USD"⟩,
    .settle (teamAuth 2) (sampleId 31) ⟨sampleId 20, sampleMoney (10 * 10 ^ 8), "USD"⟩,
    .reserve (teamAuth 3) 0 (sampleId 32) ⟨sampleId 21, sampleMoney (10 * 10 ^ 8), "USD"⟩]

/-- The second project does not see what the first has settled, and takes the
wallet as far below its floor. -/
theorem hiddenSettle_overdraws :
    teamShared.WellFormed teamLedger ∧ teamShared.Solvent 0 teamLedger ∧
      StepsMeet GatewayLedger.perform (teamShared.Admits 0) teamLedger teamOverdraft ∧
      ¬ teamShared.Solvent 0 (stateAfter GatewayLedger.perform teamLedger teamOverdraft) ∧
      teamShared.balance 0 (stateAfter GatewayLedger.perform teamLedger teamOverdraft) = -10 :=
  ⟨teamLedger_wellFormed, by decide +kernel, by decide +kernel, by decide +kernel,
    by decide +kernel⟩

/-- Reserves of both projects, before either has settled. -/
def teamRun : List LedgerRequest :=
  [.reserve (teamAuth 2) 0 (sampleId 30) ⟨sampleId 20, sampleMoney (4 * 10 ^ 8), "USD"⟩,
    .reserve (teamAuth 3) 0 (sampleId 31) ⟨sampleId 21, sampleMoney (6 * 10 ^ 8), "USD"⟩,
    .settle (teamAuth 2) (sampleId 32) ⟨sampleId 20, sampleMoney (3 * 10 ^ 8), "USD"⟩,
    .release (teamAuth 3) (sampleId 21),
    .reserve (teamAuth 2) 0 (sampleId 33) ⟨sampleId 22, sampleMoney (7 * 10 ^ 8), "USD"⟩]

theorem wallet_solvent_of_run_teamRun :
    (stateAfter GatewayLedger.perform teamLedger teamRun).rows.length = 4 ∧
      ∀ earlier later, teamRun = earlier ++ later →
        teamShared.Solvent 0 (stateAfter GatewayLedger.perform teamLedger earlier) :=
  ⟨by decide +kernel,
    SharedWallet.wallet_solvent_of_run teamShared 0 teamLedger teamRun teamLedger_wellFormed
      (by decide +kernel) (by decide +kernel) (by decide +kernel)⟩

end FuboxApi
