import FuboxApi.SharedWallet

/-!
# Credit grants that lapse

A debit is a row of the ledger and does not lower the remaining amount of any grant. When a grant
lapses, the available balance loses all of it, even what has been spent.
-/

namespace FuboxApi

open CheckedFold KeyedRows TransitionRuns

/-! ## The lifecycle of a grant -/

inductive CreditGrantLifecycleOperation where
  | expire
  | revoke
deriving DecidableEq

namespace CreditGrantLifecycleOperation

def targetStatus : CreditGrantLifecycleOperation → CreditGrantStatus
  | expire => .expired
  | revoke => .voided

def alreadyDone : CreditGrantLifecycleOperation → String
  | expire => "already_expired"
  | revoke => "already_voided"

theorem targetStatus_ne_active (operation : CreditGrantLifecycleOperation) :
    operation.targetStatus ≠ .active := by
  cases operation <;> decide

end CreditGrantLifecycleOperation

structure NormalizedCreditGrantLifecycleRequest where
  creditGrantId : Uuid
  walletId : Option Uuid
  currency : Option String
  operation : CreditGrantLifecycleOperation
  idempotencyFingerprint : String
  requestFingerprint : String

structure CreditGrantLifecycleReplayMarker where
  auditId : Uuid
  idempotencyFingerprint : String
  requestFingerprint : String

/-- The tables, the keys that an operation leaves in the metadata of a grant, and the time. -/
structure WalletBooks where
  ledger : GatewayLedger
  markers : Uuid → CreditGrantLifecycleOperation → Option CreditGrantLifecycleReplayMarker
  now : Int

inductive CreditGrantLifecycleOutcome where
  | replayed (auditId : Uuid)
  | refused (code : String)
  | changed (status : CreditGrantStatus)

/-- The row that an operation locks and updates. -/
def isGrant (grantId : Uuid) (grant : CreditGrantRow) : Bool :=
  grant.tenantId = defaultTenantId && grant.id = grantId

def updateCreditGrantStatus (grantId : Uuid) (status : CreditGrantStatus) (grant : CreditGrantRow) :
    CreditGrantRow :=
  if isGrant grantId grant then { grant with status := status } else grant

namespace WalletBooks

variable (auditId : Uuid) (request : NormalizedCreditGrantLifecycleRequest)

/-- The books after an operation that is carried out, with the keys it leaves behind. -/
def changeStatus (books : WalletBooks) : WalletBooks :=
  { books with
    ledger := { books.ledger with
      creditGrants := books.ledger.creditGrants.map
        (updateCreditGrantStatus request.creditGrantId request.operation.targetStatus) }
    markers := Function.update books.markers request.creditGrantId
      (Function.update (books.markers request.creditGrantId) request.operation
        (some ⟨auditId, request.idempotencyFingerprint, request.requestFingerprint⟩)) }

/-- The checks of an operation on the grant that it has locked. -/
def executeOnGrant (grant : CreditGrantRow) (books : WalletBooks) :
    CreditGrantLifecycleOutcome × WalletBooks :=
  if request.walletId.any (· ≠ grant.walletId) || request.currency.any (· ≠ grant.currency) then
    (.refused "wallet_currency_mismatch", books)
  else if grant.status = request.operation.targetStatus then
    (.refused request.operation.alreadyDone, books)
  else if grant.status ≠ .active then (.refused "credit_grant_status_not_active", books)
  else (.changed request.operation.targetStatus, books.changeStatus auditId request)

def executeCreditGrantLifecycleTx (books : WalletBooks) :
    AdminResult (CreditGrantLifecycleOutcome × WalletBooks) := do
  let grant ← okOr (.notFound "credit grant")
    (books.ledger.creditGrants.find? (isGrant request.creditGrantId))
  match books.markers grant.id request.operation with
  | none => return books.executeOnGrant auditId request grant
  | some existing =>
    if existing.idempotencyFingerprint = request.idempotencyFingerprint then
      if existing.requestFingerprint = request.requestFingerprint then
        return (.replayed existing.auditId, books)
      else return (.refused "idempotency_conflict", books)
    else return books.executeOnGrant auditId request grant

end WalletBooks

/-! ## Wallet histories -/

/-- A step in the history of a wallet: a grant is issued, the gateway makes a request to the
ledger, an operation on a grant is requested, or time passes. -/
inductive WalletStep where
  | issue (grant : CreditGrantRow)
  | debit (request : LedgerRequest)
  | lifecycle (auditId : Uuid) (request : NormalizedCreditGrantLifecycleRequest)
  | wait (duration : Nat)

def LedgerRequest.atTime (now : Int) : LedgerRequest → LedgerRequest
  | reserve auth _ rowId entry => reserve auth now rowId entry
  | request => request

namespace WalletBooks

def step (books : WalletBooks) : WalletStep → WalletBooks × Unit
  | .issue grant =>
    ({ books with
      ledger := { books.ledger with creditGrants := books.ledger.creditGrants ++ [grant] } }, ())
  | .debit request =>
    ({ books with ledger := (books.ledger.perform (request.atTime books.now)).1 }, ())
  | .lifecycle auditId request =>
    match books.executeCreditGrantLifecycleTx auditId request with
    | .ok (_, after) => (after, ())
    | .error _ => (books, ())
  | .wait duration => ({ books with now := books.now + duration }, ())

/-- The balance query of a project, at the time of the books. -/
def queryNow (query : BalanceQuery) (books : WalletBooks) : BalanceQuery :=
  { query with now := books.now }

/-- The available balance is not negative, if there is a wallet at all. -/
def AvailableNonneg (query : BalanceQuery) (books : WalletBooks) : Prop :=
  ∀ available ∈ (books.queryNow query).preAuthorizeWalletBalance books.ledger.database,
    0 ≤ available.2

/-! ## What lapses -/

section

variable (query : BalanceQuery) (wallet : WalletRow)

def counts (now : Int) (grant : CreditGrantRow) : Bool :=
  BalanceQuery.countsGrant { query with now := now } wallet.id wallet.currency grant

/-- What is available in a wallet. -/
def amount (books : WalletBooks) : ℚ :=
  selectedSum (counts query wallet books.now) CreditGrantRow.remainingAmount
      books.ledger.creditGrants +
    query.ledgerBalance wallet.id wallet.currency books.ledger.database - wallet.balanceFloor

/-- The remaining amounts of the grants that cease to count while time passes. -/
def lapsing (books : WalletBooks) (duration : Nat) : ℚ :=
  selectedSum (fun grant => counts query wallet books.now grant &&
      !counts query wallet (books.now + duration) grant)
    CreditGrantRow.remainingAmount books.ledger.creditGrants

/-- The remaining amounts of the grants that begin to count while time passes. -/
def starting (books : WalletBooks) (duration : Nat) : ℚ :=
  selectedSum (fun grant => counts query wallet (books.now + duration) grant &&
      !counts query wallet books.now grant)
    CreditGrantRow.remainingAmount books.ledger.creditGrants

def counted (books : WalletBooks) (grantId : Uuid) : ℚ :=
  selectedSum (fun grant => counts query wallet books.now grant && isGrant grantId grant)
    CreditGrantRow.remainingAmount books.ledger.creditGrants

/-- What a request takes from the ledger balance of a wallet. -/
def debited (books : WalletBooks) (request : LedgerRequest) : ℚ :=
  query.ledgerBalance wallet.id wallet.currency books.ledger.database -
    query.ledgerBalance wallet.id wallet.currency
      (books.ledger.perform (request.atTime books.now)).1.database

end

/-- An operation applies to a grant that is active, in the wallet and the currency that the
operation names, if it names any. -/
def Applies (request : NormalizedCreditGrantLifecycleRequest) (grant : CreditGrantRow) : Prop :=
  (∀ walletId ∈ request.walletId, walletId = grant.walletId) ∧
    (∀ currency ∈ request.currency, currency = grant.currency) ∧ grant.status = .active

/-- An operation ends the grant that it names, unless it is repeated or does not apply. -/
def Ends (books : WalletBooks) (request : NormalizedCreditGrantLifecycleRequest) : Prop :=
  ∃ grant ∈ books.ledger.creditGrants.find? (isGrant request.creditGrantId),
    (∀ existing ∈ books.markers grant.id request.operation,
      existing.idempotencyFingerprint ≠ request.idempotencyFingerprint) ∧ Applies request grant

/-- A debit is covered by what is available when it is made. -/
def Covers (query : BalanceQuery) (books : WalletBooks) : WalletStep → Prop
  | .debit request =>
    ∀ wallet ∈ query.selectedWallet books.ledger.wallets,
      debited query wallet books request ≤ amount query wallet books
  | .issue _ | .lifecycle _ _ | .wait _ => True

/-- What lapses in a step is covered by what is available. -/
def LapsesUnspent (query : BalanceQuery) (books : WalletBooks) : WalletStep → Prop
  | .issue _ | .debit _ => True
  | .lifecycle _ request =>
    books.Ends request → ∀ wallet ∈ query.selectedWallet books.ledger.wallets,
        counted query wallet books request.creditGrantId ≤ amount query wallet books
  | .wait duration =>
    ∀ wallet ∈ query.selectedWallet books.ledger.wallets, lapsing query wallet books duration ≤
        amount query wallet books + starting query wallet books duration

section

variable (query : BalanceQuery) (books : WalletBooks)

theorem availableNonneg_iff : books.AvailableNonneg query ↔
      ∀ wallet ∈ query.selectedWallet books.ledger.wallets, 0 ≤ amount query wallet books := by
  unfold AvailableNonneg BalanceQuery.preAuthorizeWalletBalance
  simp only [Option.mem_def, Option.map_eq_some_iff]
  constructor
  · intro nonneg wallet selected
    exact nonneg _ ⟨wallet, selected, rfl⟩
  · rintro nonneg _ ⟨wallet, selected, rfl⟩
    exact nonneg wallet selected

theorem amount_issue (wallet : WalletRow) (grant : CreditGrantRow) :
    amount query wallet (books.step (.issue grant)).1 = amount query wallet books +
        contribution (counts query wallet books.now) CreditGrantRow.remainingAmount grant := by
  have grants : amount query wallet (books.step (.issue grant)).1 =
      selectedSum (counts query wallet books.now) CreditGrantRow.remainingAmount
          (books.ledger.creditGrants ++ [grant]) +
        query.ledgerBalance wallet.id wallet.currency books.ledger.database -
        wallet.balanceFloor := rfl
  rw [grants, selectedSum_append, selectedSum_singleton, amount]
  ring

theorem amount_wait (wallet : WalletRow) (duration : Nat) :
    amount query wallet (books.step (.wait duration)).1 + lapsing query wallet books duration =
      amount query wallet books + starting query wallet books duration := by
  have difference := selectedSum_add_difference (counts query wallet books.now)
    CreditGrantRow.remainingAmount (counts query wallet (books.now + duration))
    books.ledger.creditGrants
  have later : amount query wallet (books.step (.wait duration)).1 =
      selectedSum (counts query wallet (books.now + duration)) CreditGrantRow.remainingAmount
          books.ledger.creditGrants +
        query.ledgerBalance wallet.id wallet.currency books.ledger.database -
        wallet.balanceFloor := rfl
  rw [later, amount, lapsing, starting]
  linarith

variable {grantId : Uuid} {status : CreditGrantStatus}

theorem counts_updateCreditGrantStatus {wallet : WalletRow} {now : Int}
    (inactive : status ≠ .active) (grant : CreditGrantRow) :
    counts query wallet now (updateCreditGrantStatus grantId status grant) =
      (counts query wallet now grant && !isGrant grantId grant) := by
  unfold updateCreditGrantStatus
  cases isTarget : isGrant grantId grant with
  | false => simp
  | true => simp [counts, BalanceQuery.countsGrant, CreditGrantRow.IsValidAt, inactive]

theorem remainingAmount_updateCreditGrantStatus (grant : CreditGrantRow) :
    (updateCreditGrantStatus grantId status grant).remainingAmount = grant.remainingAmount := by
  unfold updateCreditGrantStatus
  split <;> rfl

theorem amount_changeStatus (wallet : WalletRow) (auditId : Uuid)
    (request : NormalizedCreditGrantLifecycleRequest) :
    amount query wallet (books.changeStatus auditId request) +
        counted query wallet books request.creditGrantId = amount query wallet books := by
  have changed : amount query wallet (books.changeStatus auditId request) =
      selectedSum (counts query wallet books.now) CreditGrantRow.remainingAmount
          (books.ledger.creditGrants.map
            (updateCreditGrantStatus request.creditGrantId request.operation.targetStatus)) +
        query.ledgerBalance wallet.id wallet.currency books.ledger.database -
        wallet.balanceFloor := rfl
  have kept : counts query wallet books.now ∘
      updateCreditGrantStatus request.creditGrantId request.operation.targetStatus =
        fun grant => counts query wallet books.now grant && !isGrant request.creditGrantId grant :=
    funext (counts_updateCreditGrantStatus query request.operation.targetStatus_ne_active)
  have remaining : CreditGrantRow.remainingAmount ∘
      updateCreditGrantStatus request.creditGrantId request.operation.targetStatus =
        CreditGrantRow.remainingAmount :=
    funext remainingAmount_updateCreditGrantStatus
  have split := selectedSum_and_add_and_not (counts query wallet books.now)
    CreditGrantRow.remainingAmount (isGrant request.creditGrantId) books.ledger.creditGrants
  rw [changed, selectedSum_map, kept, remaining, counted, amount]
  linarith

theorem executeOnGrant_cases (auditId : Uuid) (request : NormalizedCreditGrantLifecycleRequest)
    (grant : CreditGrantRow) : Applies request grant ∧
        (books.executeOnGrant auditId request grant).2 = books.changeStatus auditId request ∨
      ¬ Applies request grant ∧ (books.executeOnGrant auditId request grant).2 = books := by
  unfold executeOnGrant
  split
  · next mismatch =>
    refine .inr ⟨?_, rfl⟩
    rintro ⟨wallet, currency, _⟩
    simp only [Bool.or_eq_true, Option.any_eq_true, decide_eq_true_eq] at mismatch
    rcases mismatch with ⟨walletId, named, differs⟩ | ⟨named, stated, differs⟩
    · exact differs (wallet walletId named)
    · exact differs (currency named stated)
  · next matching =>
    simp only [Bool.or_eq_true, Option.any_eq_true, decide_eq_true_eq, not_or, not_exists,
      not_and, not_not] at matching
    split
    · next done =>
      refine .inr ⟨?_, rfl⟩
      rintro ⟨_, _, active⟩
      exact request.operation.targetStatus_ne_active (done.symm.trans active)
    · split
      · next inactive => exact .inr ⟨fun agrees => inactive agrees.2.2, rfl⟩
      · next active =>
        exact .inl ⟨⟨matching.1, matching.2, not_not.mp active⟩, rfl⟩

theorem step_lifecycle (auditId : Uuid) (request : NormalizedCreditGrantLifecycleRequest) :
    books.Ends request ∧
        (books.step (.lifecycle auditId request)).1 = books.changeStatus auditId request ∨
      ¬ books.Ends request ∧ (books.step (.lifecycle auditId request)).1 = books := by
  dsimp only [step, executeCreditGrantLifecycleTx, Ends]
  cases found : books.ledger.creditGrants.find? (isGrant request.creditGrantId) with
  | none =>
    refine .inr ⟨?_, rfl⟩
    rintro ⟨_, member, _⟩
    exact absurd member (Option.not_mem_none _)
  | some grant =>
    have onGrant := books.executeOnGrant_cases auditId request grant
    simp only [Option.mem_def, Option.some.injEq, exists_eq_left', okOr, bind, Except.bind,
      pure, Except.pure]
    cases marker : books.markers grant.id request.operation with
    | none => simpa using onGrant
    | some existing =>
      by_cases repeated : existing.idempotencyFingerprint = request.idempotencyFingerprint
      · refine .inr ⟨fun ends => ends.1 existing rfl repeated, ?_⟩
        simp only [if_pos repeated]
        split
        · next returned =>
          split at returned
          · cases returned
            rfl
          · cases returned
            rfl
        · rfl
      · simpa [repeated] using onGrant

theorem perform_keeps (ledger : GatewayLedger) (request : LedgerRequest) :
    (ledger.perform request).1.wallets = ledger.wallets ∧
      (ledger.perform request).1.creditGrants = ledger.creditGrants := by
  cases request with
  | reserve auth now rowId entry =>
    dsimp only [GatewayLedger.perform]
    split
    · next executed =>
      rcases GatewayLedger.insertPendingPaidReserve_cases executed with
        ⟨_, rfl⟩ | ⟨_, _, _, _, _, _, _, rfl⟩
      · exact ⟨rfl, rfl⟩
      · exact ⟨rfl, rfl⟩
    · exact ⟨rfl, rfl⟩
  | settle auth rowId entry =>
    dsimp only [GatewayLedger.perform]
    split
    · next executed =>
      rcases GatewayLedger.insertConfirmedSettle_cases executed with
        rfl | ⟨_, _, _, _, _, _, rfl⟩
      · exact ⟨rfl, rfl⟩
      · exact ⟨rfl, rfl⟩
    · exact ⟨rfl, rfl⟩
  | release auth requestId => exact ⟨rfl, rfl⟩

theorem amount_debit (wallet : WalletRow) (request : LedgerRequest) :
    amount query wallet (books.step (.debit request)).1 =
      amount query wallet books - debited query wallet books request := by
  have kept := (perform_keeps books.ledger (request.atTime books.now)).2
  dsimp only [amount, step, debited]
  rw [kept]
  ring

/-! ## Runs -/

variable {query books}

theorem wallets_step (input : WalletStep) :
    (books.step input).1.ledger.wallets = books.ledger.wallets := by
  cases input with
  | issue grant => rfl
  | debit request => exact (perform_keeps books.ledger (request.atTime books.now)).1
  | lifecycle auditId request =>
    rcases books.step_lifecycle auditId request with ⟨_, after⟩ | ⟨_, after⟩
    · rw [after]
      rfl
    · rw [after]
  | wait duration => rfl

theorem availableNonneg_step_iff (input : WalletStep) (nonneg : books.AvailableNonneg query) :
    (books.step input).1.AvailableNonneg query ↔
      books.Covers query input ∧ books.LapsesUnspent query input := by
  rw [availableNonneg_iff] at nonneg ⊢
  rw [wallets_step]
  cases input with
  | issue grant =>
    refine ⟨fun _ => ⟨trivial, trivial⟩, fun _ wallet selected => ?_⟩
    rw [amount_issue]
    exact add_nonneg (nonneg wallet selected) (contribution_nonneg _ _ grant.remaining_nonneg)
  | debit request =>
    simp only [amount_debit, sub_nonneg]
    exact ⟨fun covered => ⟨covered, trivial⟩, And.left⟩
  | lifecycle auditId request =>
    rcases books.step_lifecycle auditId request with ⟨ends, after⟩ | ⟨stays, after⟩
    · rw [after]
      simp only [← amount_changeStatus query books _ auditId request, le_add_iff_nonneg_left,
        Covers, LapsesUnspent, true_and]
      exact ⟨fun later _ => later, fun unspent => unspent ends⟩
    · rw [after]
      exact ⟨fun _ => ⟨trivial, fun ends => absurd ends stays⟩, fun _ => nonneg⟩
  | wait duration =>
    simp [Covers, LapsesUnspent, ← amount_wait]

/-- While every debit is covered, the available balance stays at zero or above exactly in the
histories in which no grant lapses that has been spent. -/
theorem available_nonneg_iff_lapsesUnspent (query : BalanceQuery) (books : WalletBooks)
    (steps : List WalletStep) (nonneg : books.AvailableNonneg query)
    (covered : StepsMeet step (Covers query) books steps) :
    (∀ earlier later, steps = earlier ++ later →
        (stateAfter step books earlier).AvailableNonneg query) ↔
      StepsMeet step (LapsesUnspent query) books steps := by
  have throughout := holds_throughout_iff (fun _ => True) (AvailableNonneg query)
    (fun books input => books.Covers query input ∧ books.LapsesUnspent query input)
    (fun _ _ _ => trivial) (fun _ input _ => availableNonneg_step_iff input) trivial nonneg steps
  rw [stepsMeet_iff] at covered ⊢
  rw [throughout]
  constructor
  · intro met earlier input later split
    exact (met earlier input later split).2
  · intro unspent earlier input later split
    exact ⟨covered earlier input later split, unspent earlier input later split⟩

end

instance (query : BalanceQuery) (books : WalletBooks) : Decidable (books.AvailableNonneg query) :=
  inferInstanceAs (Decidable (∀ available ∈ Option.map _ _, _))

instance (books : WalletBooks) (request : NormalizedCreditGrantLifecycleRequest) :
    Decidable (books.Ends request) :=
  inferInstanceAs (Decidable (∃ grant ∈ _, (∀ existing ∈ books.markers _ _, _ ≠ _) ∧ _ ∧ _ ∧ _))

instance (query : BalanceQuery) (books : WalletBooks) (input : WalletStep) :
    Decidable (books.Covers query input) :=
  match input with
  | .debit _ => inferInstanceAs (Decidable (∀ wallet ∈ _, _))
  | .issue _ | .lifecycle _ _ | .wait _ => inferInstanceAs (Decidable True)

instance (query : BalanceQuery) (books : WalletBooks) (input : WalletStep) :
    Decidable (books.LapsesUnspent query input) :=
  match input with
  | .lifecycle _ _ => inferInstanceAs (Decidable (_ → ∀ wallet ∈ _, _))
  | .wait _ => inferInstanceAs (Decidable (∀ wallet ∈ _, _))
  | .issue _ | .debit _ => inferInstanceAs (Decidable True)

end WalletBooks

/-! ## A grant that has been spent -/

def monthlyGrant : CreditGrantRow :=
  { teamGrant with validUntil := some 30 }

def openBooks : WalletBooks :=
  ⟨⟨[teamWallet], [], []⟩, fun _ _ => none, 0⟩

def teamQuery : BalanceQuery :=
  ⟨sampleId 1, sampleId 2, "USD", 0⟩

/-- A request of 6 on a grant of 10, whose validity then ends. -/
def spentGrant : List WalletStep :=
  [.issue monthlyGrant,
    .debit (.settle (teamAuth 2) (sampleId 31) ⟨sampleId 20, sampleMoney (6 * 10 ^ 8), "USD"⟩),
    .wait 30]

open WalletBooks

/-- The debit was covered, and yet the balance is negative once the grant has lapsed. -/
theorem lapse_overdraws : openBooks.AvailableNonneg teamQuery ∧
      StepsMeet step (Covers teamQuery) openBooks spentGrant ∧
      ¬ (stateAfter step openBooks spentGrant).AvailableNonneg teamQuery ∧
      ((stateAfter step openBooks spentGrant).queryNow teamQuery).preAuthorizeWalletBalance
        (stateAfter step openBooks spentGrant).ledger.database = some ("USD", -6) :=
  ⟨by decide +kernel, by decide +kernel, by decide +kernel, by decide +kernel⟩

/-- The same request, with a second grant that stays. -/
def coveredLapse : List WalletStep :=
  .issue teamGrant :: spentGrant

theorem available_nonneg_iff_lapsesUnspent_coveredLapse :
    StepsMeet step (LapsesUnspent teamQuery) openBooks coveredLapse ∧
      ∀ earlier later, coveredLapse = earlier ++ later →
        (stateAfter step openBooks earlier).AvailableNonneg teamQuery := by
  have unspent : StepsMeet step (LapsesUnspent teamQuery) openBooks coveredLapse := by
    decide +kernel
  exact ⟨unspent, (available_nonneg_iff_lapsesUnspent teamQuery openBooks coveredLapse
    (by decide +kernel) (by decide +kernel)).mpr unspent⟩

end FuboxApi
