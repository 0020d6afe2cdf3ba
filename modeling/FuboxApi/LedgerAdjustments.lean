import FuboxApi.BillingLocks
import FuboxApi.DecimalAmounts

/-!
# Adjustments of the ledger by an admin

The transaction that writes an adjustment or a refund directly to the ledger. It locks the related
entry and the wallet before it looks for an earlier execution. The audit log and the branch that
hands over to the runtime writer are left out.
-/

namespace FuboxApi

open AsyncProgram CheckedFold TransactionSystem.LockParts

inductive LedgerAdjustmentOperation where
  | adjust
  | refund
deriving DecidableEq

namespace LedgerAdjustmentOperation

def asStr : LedgerAdjustmentOperation → String
  | adjust => "adjust"
  | refund => "refund"

def plannedEntryType : LedgerAdjustmentOperation → LedgerRowType
  | adjust => .adjust
  | refund => .refund

end LedgerAdjustmentOperation

/-- A request, with the fields that its execution reads. -/
structure LedgerAdjustmentDryRunRequest where
  operation : String
  amount : String
  currency : String
  projectId : Option Uuid
  walletId : Option Uuid
  requestId : Option Uuid
  relatedLedgerEntryId : Option Uuid
  reason : Option String

/-! ## The checks on a request -/

def ledgerAdjustmentReasonMaxBytes : Nat := 256

def nonEmpty (value field : String) : AdminResult String := do
  ensure (RustText.trim value.toList ≠ []) (.badRequest (field ++ " must not be empty"))
  return value

def normalizeLedgerAdjustmentOperation (operation : String) :
    AdminResult LedgerAdjustmentOperation :=
  match String.ofList ((RustText.trim operation.toList).map Char.toLower) with
  | "adjust" | "adjustment" => .ok .adjust
  | "refund" => .ok .refund
  | _ => .error (.badRequest "operation must be adjust or refund")

def normalizeLedgerAdjustmentAmount (amount : String) (operation : LedgerAdjustmentOperation) :
    AdminResult String := do
  let amount ← nonEmpty amount "amount"
  validateDecimalAmountString "amount" amount.toList priceVersionDefaultMoneyScale
  ensure (decimalAmountIsZero amount.toList = false) (.badRequest "amount must not be zero")
  ensure (¬ (operation = .refund ∧ amount.toList.head? = some '-'))
    (.badRequest "refund amount must be a positive credit amount")
  return amount

def isPriceVersionCurrency (currency : String) : Bool :=
  isCurrencyCode currency

def normalizeLedgerAdjustmentCurrency (currency : String) : AdminResult String := do
  let currency ← nonEmpty currency "currency"
  ensure (isPriceVersionCurrency currency = true)
    (.badRequest "currency must be an uppercase currency code")
  return currency

def looksLikeSecretValue (value : List Char) : Bool :=
  let trimmed := RustText.trim value
  "sk-".toList.isPrefixOf trimmed ||
    ("vk_".toList.isPrefixOf trimmed && 16 < (String.ofList trimmed).utf8ByteSize) ||
    "Bearer ".toList.isPrefixOf trimmed ||
    decide ("BEGIN PRIVATE KEY".toList <:+: trimmed)

def normalizeLedgerAdjustmentReason : Option String → AdminResult (Option String)
  | none => .ok none
  | some reason =>
    let reason := RustText.trim reason.toList
    if reason = [] then .ok none
    else do
      ensure ((String.ofList reason).utf8ByteSize ≤ ledgerAdjustmentReasonMaxBytes)
        (.badRequest ("reason must be at most " ++ toString ledgerAdjustmentReasonMaxBytes ++
          " bytes"))
      ensure (looksLikeSecretValue reason = false)
        (.badRequest "reason must not contain credential material")
      return some (String.ofList reason)

structure NormalizedLedgerAdjustment where
  operation : LedgerAdjustmentOperation
  amount : String
  currency : String

section

variable (newId : Uuid) (request : LedgerAdjustmentDryRunRequest) (plan : LedgerAdjustmentPlan)

/-- The checks before the transaction begins. -/
def normalizeLedgerAdjustment : AdminResult NormalizedLedgerAdjustment := do
  let operation ← normalizeLedgerAdjustmentOperation request.operation
  let amount ← normalizeLedgerAdjustmentAmount request.amount operation
  let currency ← normalizeLedgerAdjustmentCurrency request.currency
  let reason ← normalizeLedgerAdjustmentReason request.reason
  ensure (reason.isSome = true) (.badRequest "reason is required for ledger adjustment execute")
  return ⟨operation, amount, currency⟩

def validateRelatedLedgerEntryForAdjustmentPlan (operation : LedgerAdjustmentOperation)
    (entry : LedgerEntryRow) (currency : String) (projectId walletId requestId : Option Uuid) :
    AdminResult Unit := do
  ensure (entry.currency = currency)
    (.badRequest "currency must match related ledger entry currency")
  ensure (projectId = none ∨ entry.projectId = projectId)
    (.badRequest "project_id must match related ledger entry")
  ensure (walletId = none ∨ entry.walletId = walletId)
    (.badRequest "wallet_id must match related ledger entry")
  ensure (requestId = none ∨ entry.requestId = requestId)
    (.badRequest "request_id must match related ledger entry")
  if operation = .refund then
    ensure (entry.status = .confirmed ∧ (moneyText entry.amount).toList.head? = some '-')
      (.badRequest "refund related ledger entry must be a confirmed debit")
    ensure (entry.entryType = .settle ∨ entry.entryType = .adjust)
      (.badRequest "refund related ledger entry must be settle or adjust")

/-- What the transaction is going to write. -/
structure LedgerAdjustmentPlan where
  operation : LedgerAdjustmentOperation
  amount : String
  currency : String
  projectId : Option Uuid
  walletId : Option Uuid
  requestId : Option Uuid
  relatedEntry : Option LedgerEntryRow

def optionalUuidDedupePart (value : Option Uuid) : String :=
  (value.map Uuid.toText).getD "none"

namespace LedgerAdjustmentPlan

/-- The identifiers that a request leaves open are those of the related entry. -/
def ofRequest (normalized : NormalizedLedgerAdjustment) (relatedEntry : Option LedgerEntryRow) :
    LedgerAdjustmentPlan where
  operation := normalized.operation
  amount := normalized.amount
  currency := normalized.currency
  projectId := request.projectId.or (relatedEntry.bind LedgerEntryRow.projectId)
  walletId := request.walletId.or (relatedEntry.bind LedgerEntryRow.walletId)
  requestId := request.requestId.or (relatedEntry.bind LedgerEntryRow.requestId)
  relatedEntry := relatedEntry

def ledgerAdjustmentExecuteDedupeKey : String :=
  "admin-ledger-adjustment:v1:" ++ plan.operation.asStr ++ ":" ++ plan.amount ++ ":" ++
    plan.currency ++ ":project:" ++ optionalUuidDedupePart plan.projectId ++
    ":wallet:" ++ optionalUuidDedupePart plan.walletId ++
    ":request:" ++ optionalUuidDedupePart plan.requestId ++
    ":related:" ++ optionalUuidDedupePart (plan.relatedEntry.map LedgerEntryRow.id)

/-- The row that the insert lists. -/
def ledgerEntry (newId : Uuid) (amount : ℚ) : LedgerEntryRow where
  id := newId
  tenantId := defaultTenantId
  projectId := plan.projectId
  virtualKeyId := none
  walletId := plan.walletId
  requestId := plan.requestId
  relatedLedgerEntryId := plan.relatedEntry.map LedgerEntryRow.id
  entryType := plan.operation.plannedEntryType
  amount := amount
  currency := plan.currency
  status := .confirmed
  idempotencyKey := plan.ledgerAdjustmentExecuteDedupeKey

end LedgerAdjustmentPlan

/-! ## The statements -/

inductive LedgerAdjustmentCall where
  | getLedgerEntryForAdjustmentExecute (ledgerEntryId : Uuid)
  | lockLedgerAdjustmentWallet (walletId : Uuid)
  | getLedgerAdjustmentDedupeEntryForUpdate (dedupeKey : String)
  | getConfirmedRefundCreditSummaryForUpdate (relatedLedgerEntryId : Uuid) (currency : String)
  | insertLedgerAdjustmentEntry (newId : Uuid) (plan : LedgerAdjustmentPlan)

structure ConfirmedRefundCreditSummary where
  confirmedCreditAmount : String
  confirmedCreditCount : Nat

def LedgerAdjustmentCall.Answer : LedgerAdjustmentCall → Type
  | getLedgerEntryForAdjustmentExecute _ => Option LedgerEntryRow
  | lockLedgerAdjustmentWallet _ => Bool
  | getLedgerAdjustmentDedupeEntryForUpdate _ => Option LedgerEntryRow
  | getConfirmedRefundCreditSummaryForUpdate _ _ => ConfirmedRefundCreditSummary
  | insertLedgerAdjustmentEntry _ _ => LedgerEntryRow

def findLedgerEntry (database : BillingDatabase) (ledgerEntryId : Uuid) : Option LedgerEntryRow :=
  database.ledgerEntries.find? fun row =>
    row.tenantId = defaultTenantId ∧ row.id = ledgerEntryId

def confirmedCredits (database : BillingDatabase) (relatedLedgerEntryId : Uuid)
    (currency : String) : List LedgerEntryRow :=
  database.ledgerEntries.filter fun row =>
    row.tenantId = defaultTenantId ∧ row.relatedLedgerEntryId = some relatedLedgerEntryId ∧
      row.currency = currency ∧ row.status = .confirmed ∧
      (row.entryType = .refund ∨ row.entryType = .adjust) ∧ 0 < row.amount

/-- What a statement does in the database that it sees. -/
def LedgerAdjustmentCall.execute : (call : LedgerAdjustmentCall) → BillingDatabase →
    AdminResult (BillingStatement call.Answer)
  | getLedgerEntryForAdjustmentExecute ledgerEntryId, database =>
    .ok (lockFound (fun entry => .ledgerEntry entry.id) (findLedgerEntry database ledgerEntryId))
  | lockLedgerAdjustmentWallet walletId, database =>
    let found := database.wallets.any fun wallet =>
      wallet.tenantId = defaultTenantId ∧ wallet.id = walletId ∧
        (wallet.status = .active ∨ wallet.status = .suspended)
    .ok ⟨if found then [.wallet walletId] else [], found, []⟩
  | getLedgerAdjustmentDedupeEntryForUpdate dedupeKey, database =>
    .ok (lockFound (fun entry => .ledgerEntry entry.id)
      (ledgerEntryWithKey database defaultTenantId dedupeKey))
  | getConfirmedRefundCreditSummaryForUpdate relatedLedgerEntryId currency, database =>
    let credits := confirmedCredits database relatedLedgerEntryId currency
    .ok ⟨credits.map fun credit => .ledgerEntry credit.id,
      ⟨moneySumText (credits.map LedgerEntryRow.amount), credits.length⟩, []⟩
  | insertLedgerAdjustmentEntry newId plan, database => do
      let amount ← okOr (.database .invalidTextRepresentation)
        (DecimalText.number plan.amount.toList)
      let row := plan.ledgerEntry newId amount
      -- `on conflict (tenant_id, idempotency_key) do nothing` returns no row
      ensure (∀ entry ∈ database.ledgerEntries,
          ¬ (entry.tenantId = row.tenantId ∧ entry.idempotencyKey = row.idempotencyKey))
        (.badRequest "ledger adjustment execute request already exists")
      let after ← insertLedgerEntry database row
      let inserted ← okOr (.database .rowNotFound) after.ledgerEntries.getLast?
      return ⟨[.ledgerEntry newId, .ledgerKey row.tenantId row.idempotencyKey], inserted,
        [.ledgerEntry inserted]⟩

/-! ## The transaction -/

/-- What an execution answers when it is not rolled back. -/
inductive LedgerAdjustmentOutcome where
  | created (entry : LedgerEntryRow) (remaining : Option RefundRemainingSummary)
  | idempotent (existing : LedgerEntryRow)

abbrev LedgerAdjustmentProgram (Value : Type) := AsyncProgram LedgerAdjustmentCall.Answer Value

def insertLedgerAdjustment (remaining : Option RefundRemainingSummary) :
    LedgerAdjustmentProgram (AdminResult LedgerAdjustmentOutcome) := do
  let inserted : LedgerEntryRow ←
    perform (LedgerAdjustmentCall.insertLedgerAdjustmentEntry newId plan)
  return .ok (.created inserted remaining)

/-- The check of a refund, and the insert. -/
def writeLedgerAdjustment : LedgerAdjustmentProgram (AdminResult LedgerAdjustmentOutcome) :=
  match plan.operation, plan.relatedEntry with
  | .adjust, _ => insertLedgerAdjustment newId plan none
  -- a refund without a related entry was refused before
  | .refund, none => return .error (.badRequest "refund requires related entry above")
  | .refund, some relatedEntry => do
      let summary : ConfirmedRefundCreditSummary ←
        perform (LedgerAdjustmentCall.getConfirmedRefundCreditSummaryForUpdate relatedEntry.id
          plan.currency)
      match validateRefundRemainingAmount plan.amount (moneyText relatedEntry.amount)
          summary.confirmedCreditAmount summary.confirmedCreditCount plan.currency with
      | .error refusal => return .error refusal
      | .ok remaining => insertLedgerAdjustment newId plan (some remaining)

/-- An execution that finds its key answers with the entry under it. -/
def executeOnce : LedgerAdjustmentProgram (AdminResult LedgerAdjustmentOutcome) := do
  let existing : Option LedgerEntryRow ←
    perform (LedgerAdjustmentCall.getLedgerAdjustmentDedupeEntryForUpdate
      plan.ledgerAdjustmentExecuteDedupeKey)
  match existing with
  | some existing => return .ok (.idempotent existing)
  | none => writeLedgerAdjustment newId plan

def executeOnWallet : LedgerAdjustmentProgram (AdminResult LedgerAdjustmentOutcome) :=
  match plan.walletId with
  | none =>
    if plan.relatedEntry.isNone then
      return .error (.badRequest
        "wallet_id is required for adjustment execute without related_ledger_entry_id")
    else executeOnce newId plan
  | some walletId => do
      let locked : Bool ← perform (LedgerAdjustmentCall.lockLedgerAdjustmentWallet walletId)
      if locked then executeOnce newId plan else return .error (.notFound "wallet")

/-- The transaction on the direct write path. -/
def executeLedgerAdjustment : LedgerAdjustmentProgram (AdminResult LedgerAdjustmentOutcome) :=
  match normalizeLedgerAdjustment request with
  | .error refusal => return .error refusal
  | .ok normalized =>
    match request.relatedLedgerEntryId with
    | some ledgerEntryId => do
        let entry : Option LedgerEntryRow ←
          perform (LedgerAdjustmentCall.getLedgerEntryForAdjustmentExecute ledgerEntryId)
        match entry with
        | none => return .error (.notFound "ledger entry")
        | some entry =>
          match validateRelatedLedgerEntryForAdjustmentPlan normalized.operation entry
              normalized.currency request.projectId request.walletId request.requestId with
          | .error refusal => return .error refusal
          | .ok () => executeOnWallet newId (.ofRequest request normalized (some entry))
    | none =>
      if normalized.operation = .refund then
        return .error (.badRequest "related_ledger_entry_id is required for refund execute")
      else executeOnWallet newId (.ofRequest request normalized none)

/-- A request, and the identifier that `gen_random_uuid()` gives to its row. -/
structure LedgerAdjustmentExecution where
  newId : Uuid
  request : LedgerAdjustmentDryRunRequest

def ledgerAdjustmentSystem :
    TransactionSystem LedgerAdjustmentCall.Answer BillingDatabase BillingLock BillingWrite
      AdminError LedgerAdjustmentExecution LedgerAdjustmentOutcome where
  apply := BillingDatabase.write
  execute := LedgerAdjustmentCall.execute
  program execution := executeLedgerAdjustment execution.newId execution.request

theorem program_ledgerAdjustmentSystem (execution : LedgerAdjustmentExecution) :
    ledgerAdjustmentSystem.program execution =
      executeLedgerAdjustment execution.newId execution.request :=
  rfl

/-! ## Statements under locks -/

namespace LedgerAdjustmentCall

/-- What a statement may have read without a lock: that an entry does not exist,
and whatever stands under a key. It writes nothing then. -/
def ReadsUnlocked : (call : LedgerAdjustmentCall) → BillingStatement call.Answer → Prop
  | getLedgerEntryForAdjustmentExecute _, executed =>
    executed.answer = none ∧ executed.writes = []
  | getLedgerAdjustmentDedupeEntryForUpdate _, executed => executed.writes = []
  | _, _ => False

def Permits (call : LedgerAdjustmentCall) (database : BillingDatabase)
    (executed : BillingStatement call.Answer) : Prop :=
  call.execute database = .ok executed ∨ call.ReadsUnlocked executed

end LedgerAdjustmentCall

/-- The parts under the locks; no advisory lock is taken here. -/
def ledgerAdjustmentParts :
    ledgerAdjustmentSystem.LockParts (List WalletRow × List (Uuid × Uuid × String)) BillingPart :=
  billingParts String.toList ledgerAdjustmentSystem rfl LedgerAdjustmentCall.Permits .inl

end

variable {newId : Uuid} {plan : LedgerAdjustmentPlan}

section

variable {database : BillingDatabase}

theorem findLedgerEntry_eq_some {ledgerEntryId : Uuid} {entry : LedgerEntryRow}
    (found : findLedgerEntry database ledgerEntryId = some entry) :
    entry ∈ database.ledgerEntries ∧ entry.tenantId = defaultTenantId ∧
      entry.id = ledgerEntryId := by
  have selected := List.find?_some found
  simp only [decide_eq_true_eq] at selected
  exact ⟨List.mem_of_find?_eq_some found, selected⟩

theorem execute_insertLedgerAdjustmentEntry {executed : BillingStatement LedgerEntryRow}
    (execution : LedgerAdjustmentCall.execute (.insertLedgerAdjustmentEntry newId plan) database =
      .ok executed) : ∃ amount stored, DecimalText.number plan.amount.toList = some amount ∧
      moneyColumn.assign amount = some stored ∧ executed = ⟨[.ledgerEntry newId,
          .ledgerKey defaultTenantId plan.ledgerAdjustmentExecuteDedupeKey],
        plan.ledgerEntry newId stored, [.ledgerEntry (plan.ledgerEntry newId stored)]⟩ ∧
      EntryFits newId defaultTenantId plan.ledgerAdjustmentExecuteDedupeKey database ∧
      ∀ other, EntryFits newId defaultTenantId plan.ledgerAdjustmentExecuteDedupeKey other →
        LedgerAdjustmentCall.execute (.insertLedgerAdjustmentEntry newId plan) other =
          .ok executed := by
  obtain ⟨amount, amountEq, execution⟩ := bind_eq_ok.mp execution
  obtain ⟨_, freshKey, execution⟩ := bind_eq_ok.mp execution
  obtain ⟨after, inserted, execution⟩ := bind_eq_ok.mp execution
  obtain ⟨row, rowEq, returned⟩ := bind_eq_ok.mp execution
  obtain ⟨stored, assigned, fresh, _, nonzero, rfl⟩ := insertLedgerEntry_eq_ok.mp inserted
  cases okOr_eq_ok.mp rowEq |>.symm.trans List.getLast?_concat
  cases returned
  refine ⟨amount, stored, okOr_eq_ok.mp amountEq, assigned, rfl, ⟨fresh, ensure_eq_ok.mp freshKey⟩,
    fun other ⟨otherFresh, otherFreshKey⟩ => ?_⟩
  have otherInserted := insertLedgerEntry_eq_ok.mpr
    ⟨stored, assigned, otherFresh, otherFreshKey, nonzero, rfl⟩
  refine bind_eq_ok.mpr ⟨amount, amountEq, ?_⟩
  refine bind_eq_ok.mpr ⟨(), ensure_eq_ok.mpr otherFreshKey, bind_eq_ok.mpr ⟨_, otherInserted, ?_⟩⟩
  exact bind_eq_ok.mpr ⟨_, okOr_eq_ok.mpr List.getLast?_concat, rfl⟩

end

variable {held : List BillingLock}

theorem guards_getLedgerEntry (ledgerEntryId : Uuid) :
    ledgerAdjustmentParts.Guards held (.getLedgerEntryForAdjustmentExecute ledgerEntryId) where
  reads {database other executed} permitted agree := by
    rcases permitted with execution | unlocked
    · cases execution
      cases found : findLedgerEntry database ledgerEntryId with
      | none => exact .inr ⟨rfl, rfl⟩
      | some entry =>
        left
        have entryId := (findLedgerEntry_eq_some found).2.2
        have same := congrArg BillingPart.ledgerEntries
          (agree.part (.ledgerEntry ledgerEntryId) (by simp [lockFound, found, entryId]))
        have foundEq := find?_eq_of_covered
          (fun row => row.tenantId = defaultTenantId ∧ row.id = ledgerEntryId) same
          fun row selected => by
            simp only [decide_eq_true_eq] at selected
            simp [BillingLock.coversEntry, selected.2]
        exact congrArg (fun found => Except.ok (lockFound _ found)) (foundEq.symm.trans found)
    · exact .inr unlocked
  writes {database executed} permitted write written := by
    rcases permitted with execution | unlocked
    · cases execution
      cases written
    · rw [unlocked.2] at written
      cases written

theorem guards_lockLedgerAdjustmentWallet (walletId : Uuid) :
    ledgerAdjustmentParts.Guards held (.lockLedgerAdjustmentWallet walletId) where
  reads {database other executed} permitted agree := by
    rcases permitted with execution | unlocked
    · left
      have wallets : database.wallets = other.wallets := congrArg Prod.fst agree.outside
      refine Eq.trans ?_ execution
      simp only [LedgerAdjustmentCall.execute, wallets]
    · exact unlocked.elim
  writes permitted write written := by
    rcases permitted with execution | unlocked
    · cases execution
      cases written
    · exact unlocked.elim

theorem guards_getLedgerAdjustmentDedupeEntry (dedupeKey : String) :
    ledgerAdjustmentParts.Guards held (.getLedgerAdjustmentDedupeEntryForUpdate dedupeKey) where
  reads permitted _ := by
    rcases permitted with execution | unlocked
    · cases execution
      exact .inr rfl
    · exact .inr unlocked
  writes {database executed} permitted write written := by
    have nothing : executed.writes = [] := by
      rcases permitted with execution | unlocked
      · cases execution
        rfl
      · exact unlocked
    rw [nothing] at written
    cases written

variable {currency : String} {relatedLedgerEntryId : Uuid}

theorem confirmedCredits_eq_of_agree {database other : BillingDatabase} {locks : List BillingLock}
    (locked : .ledgerEntry relatedLedgerEntryId ∈ locks)
    (agree : ledgerAdjustmentParts.Agree locks database other) :
    confirmedCredits database relatedLedgerEntryId currency =
      confirmedCredits other relatedLedgerEntryId currency := by
  have same := congrArg BillingPart.ledgerEntries (agree.part _ locked)
  refine filter_eq_of_covered _ same fun row selected => ?_
  simp only [decide_eq_true_eq] at selected
  simp [BillingLock.coversEntry, selected.2.1]

theorem guards_getConfirmedRefundCreditSummary (locked : .ledgerEntry relatedLedgerEntryId ∈ held) :
    ledgerAdjustmentParts.Guards held
      (.getConfirmedRefundCreditSummaryForUpdate relatedLedgerEntryId currency) where
  reads {database other executed} permitted agree := by
    rcases permitted with execution | unlocked
    · left
      refine Eq.trans ?_ execution
      simp only [LedgerAdjustmentCall.execute,
        confirmedCredits_eq_of_agree (List.mem_append_right executed.locks locked) agree]
    · exact unlocked.elim
  writes permitted write written := by
    rcases permitted with execution | unlocked
    · cases execution
      cases written
    · exact unlocked.elim

section

variable (locked : ∀ entry ∈ plan.relatedEntry, .ledgerEntry entry.id ∈ held)

include locked

theorem guards_insertLedgerAdjustmentEntry :
    ledgerAdjustmentParts.Guards held (.insertLedgerAdjustmentEntry newId plan) where
  reads {database other executed} permitted agree := by
    rcases permitted with execution | unlocked
    · left
      obtain ⟨_, _, _, _, rfl, fits, elsewhere⟩ := execute_insertLedgerAdjustmentEntry execution
      exact elsewhere other (fits.of_parts fun lock taken =>
        agree.part lock (List.mem_append_left _ taken))
    · exact unlocked.elim
  writes {database executed} permitted write written := by
    rcases permitted with execution | unlocked
    · obtain ⟨_, stored, _, _, rfl, _⟩ := execute_insertLedgerAdjustmentEntry execution
      cases List.mem_singleton.mp written
      intro lock member
      rcases List.mem_cons.mp member with rfl | member
      · exact List.mem_cons_self
      · rcases List.mem_cons.mp member with rfl | member
        · exact List.mem_cons_of_mem _ List.mem_cons_self
        · refine List.mem_append_right _ ?_
          cases related : plan.relatedEntry with
          | none => simp [LedgerAdjustmentPlan.ledgerEntry, related] at member
          | some entry =>
            simp only [LedgerAdjustmentPlan.ledgerEntry, related, Option.map_some,
              Option.toList_some, List.mem_singleton] at member
            rw [member]
            exact locked entry related
    · exact unlocked.elim

theorem guarded_writeLedgerAdjustment :
    ledgerAdjustmentParts.Guarded held (writeLedgerAdjustment newId plan) := by
  unfold writeLedgerAdjustment
  split
  · exact ⟨guards_insertLedgerAdjustmentEntry locked, fun _ _ _ => trivial⟩
  · trivial
  · next entry _ relatedEq =>
    refine ⟨guards_getConfirmedRefundCreditSummary (locked entry relatedEq), fun _ _ _ => ?_⟩
    dsimp only [AsyncProgram.bind]
    split
    · trivial
    · refine ⟨guards_insertLedgerAdjustmentEntry ?_, fun _ _ _ => trivial⟩
      exact fun entry related => List.mem_append_right _ (locked entry related)

theorem guarded_executeOnWallet :
    ledgerAdjustmentParts.Guarded held (executeOnWallet newId plan) := by
  have once : ∀ {held : List BillingLock},
      (∀ entry ∈ plan.relatedEntry, .ledgerEntry entry.id ∈ held) →
        ledgerAdjustmentParts.Guarded held (executeOnce newId plan) := by
    intro held locked
    refine ⟨guards_getLedgerAdjustmentDedupeEntry _, fun _ ⟨_, existing, _⟩ _ => ?_⟩
    cases existing with
    | some existing => trivial
    | none =>
      exact guarded_writeLedgerAdjustment fun entry related =>
        List.mem_append_right _ (locked entry related)
  unfold executeOnWallet
  split
  · split
    · trivial
    · exact once locked
  · refine ⟨guards_lockLedgerAdjustmentWallet _, fun _ ⟨_, found, _⟩ _ => ?_⟩
    cases found with
    | true => exact once fun entry related => List.mem_append_right _ (locked entry related)
    | false => trivial

end

theorem guarded_executeLedgerAdjustment (execution : LedgerAdjustmentExecution) :
    ledgerAdjustmentParts.Guarded [] (ledgerAdjustmentSystem.program execution) := by
  rw [program_ledgerAdjustmentSystem, executeLedgerAdjustment]
  split
  · trivial
  · split
    · refine ⟨guards_getLedgerEntry _, fun database ⟨locks, entry, writes⟩ permitted => ?_⟩
      cases entry with
      | none => trivial
      | some entry =>
        dsimp only [AsyncProgram.bind]
        split
        · trivial
        · refine guarded_executeOnWallet fun related relatedEq => ?_
          cases relatedEq
          rcases permitted with execution | unlocked
          · have executedEq := Except.ok.inj execution
            have found : findLedgerEntry database _ = some entry :=
              congrArg ExecutedStatement.answer executedEq
            have locksEq : (lockFound _ (findLedgerEntry database _)).locks = locks :=
              congrArg ExecutedStatement.locks executedEq
            simp [← locksEq, lockFound, found]
          · cases unlocked.1
    · split
      · trivial
      · exact guarded_executeOnWallet fun _ related => absurd related (Option.not_mem_none _)

end FuboxApi
