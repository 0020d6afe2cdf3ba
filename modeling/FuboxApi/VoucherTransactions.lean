import FuboxApi.BillingLocks

/-!
# Redeeming and revoking vouchers

A redemption decides on the row of the voucher that it has locked, after it has locked its
idempotency key. The rows of attempts and of the audit log are left out: nothing reads them.
-/

namespace FuboxApi

open AsyncProgram CheckedFold CreditWriters TransactionSystem.LockParts

/-- The key of the advisory lock: the first eight bytes of the digest. -/
def creditGrantLockKey (runtime : ControlPlaneRuntime) (fingerprint : String) : List Char :=
  (runtime.sha256Hex fingerprint).toList.take 16

def VoucherStatus.text : VoucherStatus → String
  | issued => "issued"
  | redeemed => "redeemed"
  | expired => "expired"
  | revoked => "revoked"

inductive VoucherCall where
  | lockCreditGrantIdempotency (fingerprint : String)
  | getVoucherRedemptionByIdempotencyFingerprint (fingerprint : String)
  | lockVoucherIssuanceByCodeHash (codeHash : String)
  | lockVoucherIssuanceById (voucherId : Uuid)
  | insertVoucherCreditGrant (newId : Uuid) (now : Int) (voucher : VoucherIssuanceRow)
  | insertVoucherLedgerEntry (newId : Uuid) (voucher : VoucherIssuanceRow) (creditGrantId : Uuid)
  | insertVoucherRedemption (newId : Uuid) (request : NormalizedVoucherRedeemRequest)
      (voucher : VoucherIssuanceRow) (creditGrantId ledgerEntryId : Uuid)
  | updateVoucherIssuanceAfterRedeem (voucherId : Uuid)
  | updateVoucherIssuanceStatus (voucherId : Uuid) (status : VoucherStatus)

def VoucherCall.Answer : VoucherCall → Type
  | getVoucherRedemptionByIdempotencyFingerprint _ => Option VoucherRedemptionRow
  | lockVoucherIssuanceByCodeHash _ | lockVoucherIssuanceById _ => Option VoucherIssuanceRow
  | insertVoucherCreditGrant _ _ _ | insertVoucherLedgerEntry _ _ _ => Uuid
  | updateVoucherIssuanceStatus _ _ => VoucherIssuanceRow
  | _ => Unit

/-- An insert: the rows that it appends to a table. -/
def appendedRows {Row Answer : Type} (locks : List BillingLock) (answer : Answer)
    (write : Row → BillingWrite) (before after : List Row) :
    BillingStatement Answer :=
  ⟨locks, answer, (after.drop before.length).map write⟩

section

variable (runtime : ControlPlaneRuntime)

def voucherLedgerEntry (newId : Uuid) (voucher : VoucherIssuanceRow) (creditGrantId : Uuid) :
    LedgerEntryRow where
  id := newId
  tenantId := voucher.tenantId
  projectId := voucher.projectId
  virtualKeyId := none
  walletId := voucher.walletId
  requestId := none
  relatedLedgerEntryId := none
  entryType := .creditGrant
  amount := voucher.amount
  currency := voucher.currency
  status := .confirmed
  idempotencyKey := voucherLedgerKey runtime voucher.id creditGrantId

/-- The voucher of the default tenant with some property. -/
def findVoucherIssuance (database : BillingDatabase) (selects : VoucherIssuanceRow → Bool) :
    Option VoucherIssuanceRow :=
  database.voucherIssuances.find? fun voucher =>
    voucher.tenantId = defaultTenantId && selects voucher

/-- What a statement does in the database that it sees. -/
def VoucherCall.execute : (call : VoucherCall) → BillingDatabase →
    AdminResult (BillingStatement call.Answer)
  | lockCreditGrantIdempotency fingerprint, _ =>
    .ok ⟨[.advisory (creditGrantLockKey runtime fingerprint)], (), []⟩
  | getVoucherRedemptionByIdempotencyFingerprint fingerprint, database =>
    .ok (lockFound (fun redemption => .voucherRedemption redemption.id)
      (database.voucherRedemptions.find? fun redemption =>
        redemption.tenantId = defaultTenantId ∧ redemption.idempotencyKeyHash = fingerprint))
  | lockVoucherIssuanceByCodeHash codeHash, database =>
    .ok (lockFound (fun voucher => .voucherIssuance voucher.id)
      (findVoucherIssuance database fun voucher => voucher.codeHash = codeHash))
  | lockVoucherIssuanceById voucherId, database =>
    .ok (lockFound (fun voucher => .voucherIssuance voucher.id)
      (findVoucherIssuance database fun voucher => voucher.id = voucherId))
  | insertVoucherCreditGrant newId now voucher, database => do
      let walletId ← okOr (.database (.notNullViolation "credit_grants" "wallet_id"))
        voucher.walletId
      let after ← insertCreditGrant newId database
        (immediateGrant now voucher.tenantId walletId voucher.amount voucher.currency
          "voucher_redeem" none)
      return appendedRows [.creditGrant newId] newId .creditGrant database.creditGrants
        after.creditGrants
  | insertVoucherLedgerEntry newId voucher creditGrantId, database => do
      let row := voucherLedgerEntry runtime newId voucher creditGrantId
      let after ← insertLedgerEntry database row
      return appendedRows [.ledgerEntry newId, .ledgerKey row.tenantId row.idempotencyKey] newId
        .ledgerEntry database.ledgerEntries after.ledgerEntries
  | insertVoucherRedemption newId request voucher creditGrantId ledgerEntryId, database => do
      let after ← CreditWriters.insertVoucherRedemption newId request voucher creditGrantId
        ledgerEntryId database
      return appendedRows [.voucherRedemption newId,
          .redemptionKey request.tenantId request.idempotencyFingerprint] ()
        .voucherRedemption database.voucherRedemptions after.voucherRedemptions
  | updateVoucherIssuanceAfterRedeem voucherId, database =>
    match findVoucherIssuance database fun voucher => voucher.id = voucherId with
    | some voucher =>
      let status :=
        if voucher.maxRedemptions ≤ voucher.redemptionCount + 1 then .redeemed
        else voucher.status
      .ok ⟨[.voucherIssuance voucherId], (),
        [.voucherState voucherId status (voucher.redemptionCount + 1)]⟩
    | none => .ok ⟨[], (), []⟩
  | updateVoucherIssuanceStatus voucherId status, database =>
    match findVoucherIssuance database fun voucher => voucher.id = voucherId with
    | some voucher =>
      .ok ⟨[.voucherIssuance voucherId], { voucher with status := status },
        [.voucherState voucherId status voucher.redemptionCount]⟩
    | none => .error (.database .rowNotFound)

end

/-- What a transaction answers when it is not rolled back. -/
inductive VoucherOutcome where
  | redeem (outcome : CreditOutcome)
  | revoke (voucher : VoucherIssuanceRow)

abbrev VoucherProgram (Value : Type) := AsyncProgram VoucherCall.Answer Value

/-- The statements after the voucher was found to be redeemable. -/
def writeVoucherRedemption (inputs : TransactionInputs) (request : NormalizedVoucherRedeemRequest)
    (voucher : VoucherIssuanceRow) : VoucherProgram (AdminResult VoucherOutcome) := do
  let creditGrantId : Uuid ←
    perform (VoucherCall.insertVoucherCreditGrant inputs.newCreditGrantId inputs.now voucher)
  let ledgerEntryId : Uuid ←
    perform (VoucherCall.insertVoucherLedgerEntry inputs.newLedgerEntryId voucher creditGrantId)
  let _ ← perform (VoucherCall.insertVoucherRedemption inputs.newRowId request voucher creditGrantId
    ledgerEntryId)
  let _ ← perform (VoucherCall.updateVoucherIssuanceAfterRedeem voucher.id)
  return .ok (.redeem (.recorded
    ⟨⟨voucher.tenantId, request.walletId, voucher.currency, voucher.amount⟩, true, true⟩))

def executeVoucherRedeemWithActorTx (inputs : TransactionInputs)
    (request : NormalizedVoucherRedeemRequest) : VoucherProgram (AdminResult VoucherOutcome) := do
  let _ ← perform (VoucherCall.lockCreditGrantIdempotency request.idempotencyFingerprint)
  let existing : Option VoucherRedemptionRow ←
    perform (VoucherCall.getVoucherRedemptionByIdempotencyFingerprint
      request.idempotencyFingerprint)
  match existing with
  | some existing =>
    if existing.requestFingerprint = some request.requestFingerprint then
      return .ok (.redeem .replayed)
    else return .ok (.redeem (.refused "idempotency_conflict"))
  | none =>
    let voucher : Option VoucherIssuanceRow ←
      perform (VoucherCall.lockVoucherIssuanceByCodeHash request.codeHash)
    match voucher with
    | none => return .ok (.redeem (.refused "voucher_not_found"))
    | some voucher =>
      match voucherRedeemRefusalCode inputs.now request voucher with
      | some code => return .ok (.redeem (.refused code))
      | none => writeVoucherRedemption inputs request voucher

def executeVoucherRevokeTx (voucherId : Uuid) : VoucherProgram (AdminResult VoucherOutcome) := do
  let before : Option VoucherIssuanceRow ← perform (VoucherCall.lockVoucherIssuanceById voucherId)
  match before with
  | none => return .error (.notFound "voucher_issuance")
  | some before =>
    if before.status ≠ .issued then
      return .error (.badRequest
        ("voucher_issuance status `" ++ before.status.text ++ "` cannot be revoked"))
    else
      let after : VoucherIssuanceRow ←
        perform (VoucherCall.updateVoucherIssuanceStatus voucherId .revoked)
      return .ok (.revoke after)

/-- A redeem request is normalized: it is for the default tenant. -/
inductive VoucherRequest where
  | redeem (inputs : TransactionInputs) (request : NormalizedVoucherRedeemRequest)
      (tenantId_eq : request.tenantId = defaultTenantId)
  | revoke (voucherId : Uuid)

def VoucherRequest.program : VoucherRequest → VoucherProgram (AdminResult VoucherOutcome)
  | redeem inputs request _ => executeVoucherRedeemWithActorTx inputs request
  | revoke voucherId => executeVoucherRevokeTx voucherId

def voucherSystem (runtime : ControlPlaneRuntime) :
    TransactionSystem VoucherCall.Answer BillingDatabase BillingLock BillingWrite AdminError
      VoucherRequest VoucherOutcome where
  apply := BillingDatabase.write
  execute := VoucherCall.execute runtime
  program := VoucherRequest.program

def voucherParts (runtime : ControlPlaneRuntime) :
    (voucherSystem runtime).LockParts (List WalletRow × List (Uuid × Uuid × String)) BillingPart :=
  billingParts (creditGrantLockKey runtime) (voucherSystem runtime) rfl
    (fun call database executed => call.execute runtime database = .ok executed) id

/-! ## Statements under locks -/

theorem appendedRows_append {Row Answer : Type} (locks : List BillingLock) (answer : Answer)
    (write : Row → BillingWrite) (rows : List Row) (row : Row) :
    appendedRows locks answer write rows (rows ++ [row]) = ⟨locks, answer, [write row]⟩ := by
  simp [appendedRows]

/-- The keys of a redemption are not taken. -/
def RedemptionFits (newId : Uuid) (request : NormalizedVoucherRedeemRequest)
    (database : BillingDatabase) : Prop :=
  newId ∉ database.voucherRedemptions.map VoucherRedemptionRow.id ∧
    ∀ entry ∈ database.voucherRedemptions, ¬ (entry.tenantId = request.tenantId ∧
      entry.idempotencyKeyHash = request.idempotencyFingerprint)

theorem insertVoucherRedemption_row {newId creditGrantId ledgerEntryId : Uuid}
    {request : NormalizedVoucherRedeemRequest} {voucher : VoucherIssuanceRow}
    {database after : BillingDatabase}
    (inserted : insertVoucherRedemption newId request voucher creditGrantId ledgerEntryId
      database = .ok after) :
    ∃ row : VoucherRedemptionRow, row.id = newId ∧ row.tenantId = request.tenantId ∧
      row.idempotencyKeyHash = request.idempotencyFingerprint ∧ row.voucherId = voucher.id ∧
      after = database.write (.voucherRedemption row) ∧
      RedemptionFits newId request database ∧ ∀ other, RedemptionFits newId request other →
        insertVoucherRedemption newId request voucher creditGrantId ledgerEntryId other =
          .ok (other.write (.voucherRedemption row)) := by
  obtain ⟨_, fresh, inserted⟩ := bind_eq_ok.mp inserted
  obtain ⟨_, freshKey, inserted⟩ := bind_eq_ok.mp inserted
  cases inserted
  refine ⟨_, rfl, rfl, rfl, rfl, rfl, ⟨ensure_eq_ok.mp fresh, ensure_eq_ok.mp freshKey⟩, ?_⟩
  intro other ⟨otherFresh, otherFreshKey⟩
  exact bind_eq_ok.mpr ⟨(), ensure_eq_ok.mpr otherFresh,
    bind_eq_ok.mpr ⟨(), ensure_eq_ok.mpr otherFreshKey, rfl⟩⟩

variable {database : BillingDatabase} {voucher : VoucherIssuanceRow}

section

variable (runtime : ControlPlaneRuntime) {newId : Uuid}
  {executed : BillingStatement Uuid} {creditGrantId : Uuid}

theorem execute_insertVoucherCreditGrant {now : Int}
    (execution : VoucherCall.execute runtime (.insertVoucherCreditGrant newId now voucher)
      database = .ok executed) :
    ∃ (walletId : Uuid) (row : CreditGrantRow), voucher.walletId = some walletId ∧
      insertCreditGrant newId database (immediateGrant now voucher.tenantId walletId
        voucher.amount voucher.currency "voucher_redeem" none) =
          .ok (database.write (.creditGrant row)) ∧
      row.id = newId ∧ executed = ⟨[.creditGrant newId], newId, [.creditGrant row]⟩ ∧
      newId ∉ database.creditGrants.map CreditGrantRow.id ∧
      ∀ other : BillingDatabase, newId ∉ other.creditGrants.map CreditGrantRow.id →
        VoucherCall.execute runtime (.insertVoucherCreditGrant newId now voucher) other =
          .ok executed := by
  obtain ⟨walletId, walletEq, execution⟩ := bind_eq_ok.mp execution
  obtain ⟨after, inserted, returned⟩ := bind_eq_ok.mp execution
  obtain ⟨amount, positive, assigned, fresh, window, rfl⟩ := insertCreditGrant_eq_ok.mp inserted
  have executedEq := (Except.ok.inj returned).symm.trans (appendedRows_append _ _ _ _ _)
  refine ⟨walletId, _, okOr_eq_ok.mp walletEq, inserted, rfl, executedEq, fresh, ?_⟩
  intro other otherFresh
  have otherInserted := insertCreditGrant_eq_ok.mpr
    ⟨amount, positive, assigned, otherFresh, window, rfl⟩
  refine bind_eq_ok.mpr ⟨walletId, walletEq, bind_eq_ok.mpr ⟨_, otherInserted, ?_⟩⟩
  exact congrArg Except.ok ((appendedRows_append _ _ _ _ _).trans executedEq.symm)

theorem execute_insertVoucherLedgerEntry (execution : VoucherCall.execute runtime
      (.insertVoucherLedgerEntry newId voucher creditGrantId) database = .ok executed) :
    ∃ row : LedgerEntryRow,
      insertLedgerEntry database (voucherLedgerEntry runtime newId voucher creditGrantId) =
        .ok (database.write (.ledgerEntry row)) ∧
      executed = ⟨[.ledgerEntry newId, .ledgerKey row.tenantId row.idempotencyKey], newId,
        [.ledgerEntry row]⟩ ∧ row.id = newId ∧ row.relatedLedgerEntryId = none ∧
      EntryFits newId row.tenantId row.idempotencyKey database ∧
      ∀ other, EntryFits newId row.tenantId row.idempotencyKey other →
        VoucherCall.execute runtime (.insertVoucherLedgerEntry newId voucher creditGrantId) other =
          .ok executed := by
  obtain ⟨after, inserted, returned⟩ := bind_eq_ok.mp execution
  obtain ⟨amount, assigned, fresh, freshKey, nonzero, rfl⟩ := insertLedgerEntry_eq_ok.mp inserted
  refine ⟨_, inserted, ?_, rfl, rfl, ⟨fresh, freshKey⟩, fun other otherFits => ?_⟩
  · exact (Except.ok.inj returned).symm.trans (appendedRows_append _ _ _ _ _)
  · have otherInserted := insertLedgerEntry_eq_ok.mpr
      ⟨amount, assigned, otherFits.1, otherFits.2, nonzero, rfl⟩
    refine bind_eq_ok.mpr ⟨_, otherInserted, ?_⟩
    refine Eq.trans (congrArg Except.ok ?_) returned
    exact (appendedRows_append _ _ _ _ _).trans (appendedRows_append _ _ _ _ _).symm

theorem execute_insertVoucherRedemption {request : NormalizedVoucherRedeemRequest}
    {ledgerEntryId : Uuid} {executed : BillingStatement Unit}
    (execution : VoucherCall.execute runtime
      (.insertVoucherRedemption newId request voucher creditGrantId ledgerEntryId) database =
        .ok executed) : ∃ row : VoucherRedemptionRow,
      insertVoucherRedemption newId request voucher creditGrantId ledgerEntryId database =
        .ok (database.write (.voucherRedemption row)) ∧ executed = ⟨[.voucherRedemption newId,
        .redemptionKey request.tenantId request.idempotencyFingerprint], (),
        [.voucherRedemption row]⟩ ∧ row.id = newId ∧ row.tenantId = request.tenantId ∧
      row.idempotencyKeyHash = request.idempotencyFingerprint ∧
      RedemptionFits newId request database ∧ ∀ other, RedemptionFits newId request other →
        VoucherCall.execute runtime
          (.insertVoucherRedemption newId request voucher creditGrantId ledgerEntryId) other =
            .ok executed := by
  obtain ⟨after, inserted, returned⟩ := bind_eq_ok.mp execution
  obtain ⟨row, rowId, tenantEq, hashEq, _, afterEq, fits, elsewhere⟩ :=
    insertVoucherRedemption_row inserted
  subst afterEq
  refine ⟨row, inserted, ?_, rowId, tenantEq, hashEq, fits, fun other otherFits => ?_⟩
  · exact (Except.ok.inj returned).symm.trans (appendedRows_append _ _ _ _ _)
  · refine bind_eq_ok.mpr ⟨_, elsewhere other otherFits, ?_⟩
    refine Eq.trans (congrArg Except.ok ?_) returned
    exact (appendedRows_append _ _ _ _ _).trans (appendedRows_append _ _ _ _ _).symm

end

variable {runtime : ControlPlaneRuntime} {held : List BillingLock}

theorem guards_lockCreditGrantIdempotency (fingerprint : String) :
    (voucherParts runtime).Guards held (.lockCreditGrantIdempotency fingerprint) where
  reads execution _ := execution
  writes execution write written := by
    cases execution
    cases written

theorem guards_getVoucherRedemption {fingerprint : String}
    (locked : .advisory (creditGrantLockKey runtime fingerprint) ∈ held) :
    (voucherParts runtime).Guards held
      (.getVoucherRedemptionByIdempotencyFingerprint fingerprint) where
  reads {database other executed} execution agree := by
    have same := congrArg BillingPart.voucherRedemptions
      (agree.part _ (List.mem_append_right executed.locks locked))
    have found := find?_eq_of_covered (fun redemption =>
        redemption.tenantId = defaultTenantId ∧ redemption.idempotencyKeyHash = fingerprint) same
      fun row selected => by
        simp only [decide_eq_true_eq] at selected
        simp [BillingLock.coversRedemption, selected.2]
    have unchanged : VoucherCall.execute runtime
        (.getVoucherRedemptionByIdempotencyFingerprint fingerprint) database =
          VoucherCall.execute runtime
            (.getVoucherRedemptionByIdempotencyFingerprint fingerprint) other := by
      simp only [VoucherCall.execute, found]
    exact unchanged.symm.trans execution
  writes execution write written := by
    cases execution
    cases written

variable {selects : VoucherIssuanceRow → Bool} {voucherId : Uuid} {call : VoucherCall}
  {request : NormalizedVoucherRedeemRequest}

theorem findVoucherIssuance_of_agree {other : BillingDatabase} {locks : List BillingLock}
    (byIdentity : SelectsByIdentity selects)
    (locked : ∀ voucher ∈ findVoucherIssuance database selects, .voucherIssuance voucher.id ∈ locks)
    (agree : (voucherParts runtime).Agree locks database other) :
    findVoucherIssuance other selects = findVoucherIssuance database selects := by
  have identities := congrArg Prod.snd agree.outside
  have byTenant : SelectsByIdentity fun voucher =>
      voucher.tenantId = defaultTenantId && selects voucher := by
    intro voucher other identityEq
    have tenantEq : voucher.tenantId = other.tenantId := congrArg (·.2.1) identityEq
    simp only [tenantEq, byIdentity voucher other identityEq]
  cases found : findVoucherIssuance database selects with
  | none => exact find?_none_of_identities identities byTenant found
  | some voucher =>
    have same := congrArg BillingPart.voucherIssuances (agree.part _ (locked voucher found))
    refine find?_some_of_identities identities byTenant ?_ found
    simpa [voucherParts, billingParts, BillingLock.part, BillingLock.coversIssuance] using same

theorem selectsByIdentity_codeHash (codeHash : String) :
    SelectsByIdentity fun voucher => voucher.codeHash = codeHash := by
  intro voucher other identityEq
  have codeEq : voucher.codeHash = other.codeHash := congrArg (·.2.2) identityEq
  simp only [codeEq]

theorem selectsByIdentity_id (voucherId : Uuid) :
    SelectsByIdentity fun voucher => voucher.id = voucherId := by
  intro voucher other identityEq
  have idEq : voucher.id = other.id := congrArg (·.1) identityEq
  simp only [idEq]

theorem findVoucherIssuance_id
    (found : voucher ∈ findVoucherIssuance database fun voucher => voucher.id = voucherId) :
    voucher.id = voucherId := by
  have selected := List.find?_some found
  simp only [Bool.and_eq_true, decide_eq_true_eq] at selected
  exact selected.2

theorem guards_of_foundVoucher (result : Option VoucherIssuanceRow →
      AdminResult (BillingStatement call.Answer))
    (byIdentity : SelectsByIdentity selects) (executes : ∀ database, call.execute runtime database =
      result (findVoucherIssuance database selects))
    (locks : ∀ database, ∀ voucher ∈ findVoucherIssuance database selects, ∀ executed,
      result (some voucher) = .ok executed → .voucherIssuance voucher.id ∈ executed.locks)
    (writes : ∀ found executed, result found = .ok executed →
      ∀ write ∈ executed.writes, (voucherParts runtime).locksOf write ⊆ executed.locks) :
    (voucherParts runtime).Guards held call where
  reads {database other executed} execution agree := by
    have execution : call.execute runtime database = .ok executed := execution
    rw [executes] at execution
    have unchanged : findVoucherIssuance other selects = findVoucherIssuance database selects := by
      apply findVoucherIssuance_of_agree byIdentity _ agree
      intro voucher found
      rw [Option.mem_def.mp found] at execution
      exact List.mem_append_left _ (locks database voucher found executed execution)
    exact (executes other).trans ((congrArg result unchanged).trans execution)
  writes {database executed} execution write written := by
    have execution : call.execute runtime database = .ok executed := execution
    rw [executes] at execution
    exact List.subset_append_of_subset_left _ (writes _ _ execution write written)

theorem guards_lockVoucher (result : Option VoucherIssuanceRow → call.Answer)
    (byIdentity : SelectsByIdentity selects) (executes : ∀ database, call.execute runtime database =
      .ok ⟨((findVoucherIssuance database selects).map fun voucher =>
        .voucherIssuance voucher.id).toList, result (findVoucherIssuance database selects), []⟩) :
    (voucherParts runtime).Guards held call := by
  apply guards_of_foundVoucher (fun found => .ok
    ⟨(found.map fun voucher => .voucherIssuance voucher.id).toList, result found, []⟩)
    byIdentity executes
  · rintro database voucher - _ ⟨⟩
    simp
  · rintro found _ ⟨⟩ write ⟨⟩

theorem guards_lockVoucherIssuanceByCodeHash (codeHash : String) :
    (voucherParts runtime).Guards held (.lockVoucherIssuanceByCodeHash codeHash) :=
  guards_lockVoucher id (selectsByIdentity_codeHash codeHash) fun _ => rfl

theorem guards_lockVoucherIssuanceById (voucherId : Uuid) :
    (voucherParts runtime).Guards held (.lockVoucherIssuanceById voucherId) :=
  guards_lockVoucher id (selectsByIdentity_id voucherId) fun _ => rfl

theorem guards_updateVoucher (call : VoucherCall)
    (absent : AdminResult (BillingStatement call.Answer))
    (answer : VoucherIssuanceRow → call.Answer) (status : VoucherIssuanceRow → VoucherStatus)
    (count : VoucherIssuanceRow → Nat) (executes : ∀ database, call.execute runtime database =
      (findVoucherIssuance database fun voucher => voucher.id = voucherId).elim absent
        fun voucher => .ok ⟨[.voucherIssuance voucherId], answer voucher,
          [.voucherState voucherId (status voucher) (count voucher)]⟩)
    (writesNothing : ∀ executed, absent = .ok executed → executed.writes = []) :
    (voucherParts runtime).Guards held call := by
  apply guards_of_foundVoucher (fun found => found.elim absent fun voucher =>
    .ok ⟨[.voucherIssuance voucherId], answer voucher,
      [.voucherState voucherId (status voucher) (count voucher)]⟩)
    (selectsByIdentity_id voucherId) executes
  · rintro database voucher found _ ⟨⟩
    simp [findVoucherIssuance_id found]
  · rintro (_ | voucher) executed execution write written
    · rw [writesNothing executed execution] at written
      cases written
    · cases execution
      cases List.mem_singleton.mp written
      exact List.Subset.refl _

theorem guards_updateVoucherIssuanceAfterRedeem (voucherId : Uuid) :
    (voucherParts runtime).Guards held (.updateVoucherIssuanceAfterRedeem voucherId) := by
  apply guards_updateVoucher (.updateVoucherIssuanceAfterRedeem voucherId) (.ok ⟨[], (), []⟩)
    (fun _ => ())
    (fun voucher => if voucher.maxRedemptions ≤ voucher.redemptionCount + 1 then .redeemed
      else voucher.status)
    (fun voucher => voucher.redemptionCount + 1)
  · intro database
    rw [VoucherCall.execute]
    cases findVoucherIssuance database fun voucher => voucher.id = voucherId <;> rfl
  · rintro executed ⟨⟩
    rfl

theorem guards_updateVoucherIssuanceStatus (voucherId : Uuid) (status : VoucherStatus) :
    (voucherParts runtime).Guards held (.updateVoucherIssuanceStatus voucherId status) := by
  apply guards_updateVoucher (.updateVoucherIssuanceStatus voucherId status)
    (.error (.database .rowNotFound))
    (fun voucher => { voucher with status := status }) (fun _ => status)
    VoucherIssuanceRow.redemptionCount
  · intro database
    rw [VoucherCall.execute]
    cases findVoucherIssuance database fun voucher => voucher.id = voucherId <;> rfl
  · rintro executed ⟨⟩

theorem guards_insertVoucherCreditGrant (newId : Uuid) (now : Int) (voucher : VoucherIssuanceRow) :
    (voucherParts runtime).Guards held (.insertVoucherCreditGrant newId now voucher) where
  reads {database other executed} execution agree := by
    obtain ⟨_, _, _, _, _, rfl, fresh, elsewhere⟩ :=
      execute_insertVoucherCreditGrant runtime execution
    have same := congrArg BillingPart.creditGrants (agree.part _ List.mem_cons_self)
    refine elsewhere other ?_
    simp only [List.mem_map, not_exists, not_and] at fresh ⊢
    exact absent_of_covered same (fun row idEq => by simp [BillingLock.coversGrant, idEq]) fresh
  writes {database executed} execution write written := by
    obtain ⟨_, row, _, _, rowId, rfl, _⟩ := execute_insertVoucherCreditGrant runtime execution
    cases List.mem_singleton.mp written
    rw [← rowId]
    exact List.subset_append_left _ _

theorem guards_insertVoucherLedgerEntry (newId : Uuid) (voucher : VoucherIssuanceRow)
    (creditGrantId : Uuid) :
    (voucherParts runtime).Guards held (.insertVoucherLedgerEntry newId voucher creditGrantId) where
  reads {database other executed} execution agree := by
    obtain ⟨row, _, rfl, _, _, fits, elsewhere⟩ :=
      execute_insertVoucherLedgerEntry runtime execution
    exact elsewhere other (fits.of_parts fun lock taken =>
      agree.part lock (List.mem_append_left _ taken))
  writes {database executed} execution write written := by
    obtain ⟨row, _, rfl, rowId, unrelated, _⟩ := execute_insertVoucherLedgerEntry runtime execution
    cases List.mem_singleton.mp written
    have locksEq : (voucherParts runtime).locksOf (.ledgerEntry row) =
        [.ledgerEntry newId, .ledgerKey row.tenantId row.idempotencyKey] := by
      simp [voucherParts, billingParts, BillingLock.locksOf, rowId, unrelated]
    rw [locksEq]
    exact List.subset_append_left _ _

section

variable (locked : .advisory (creditGrantLockKey runtime request.idempotencyFingerprint) ∈ held)

include locked

theorem guards_insertVoucherRedemption {newId : Uuid} {creditGrantId ledgerEntryId : Uuid} :
    (voucherParts runtime).Guards held
      (.insertVoucherRedemption newId request voucher creditGrantId ledgerEntryId) where
  reads {database other executed} execution agree := by
    obtain ⟨row, _, rfl, _, _, _, ⟨fresh, freshKey⟩, elsewhere⟩ :=
      execute_insertVoucherRedemption runtime execution
    have sameId := congrArg BillingPart.voucherRedemptions (agree.part _ List.mem_cons_self)
    have sameKey := congrArg BillingPart.voucherRedemptions
      (agree.part (.redemptionKey request.tenantId request.idempotencyFingerprint) (by simp))
    refine elsewhere other ⟨?_, ?_⟩
    · simp only [List.mem_map, not_exists, not_and] at fresh ⊢
      exact absent_of_covered sameId
        (fun entry idEq => by simp [BillingLock.coversRedemption, idEq]) fresh
    · exact absent_of_covered sameKey
        (fun entry keyEq => by simp [BillingLock.coversRedemption, keyEq]) freshKey
  writes {database executed} execution write written := by
    obtain ⟨row, _, rfl, rowId, tenantEq, hashEq, _⟩ :=
      execute_insertVoucherRedemption runtime execution
    cases List.mem_singleton.mp written
    have locksEq : (voucherParts runtime).locksOf (.voucherRedemption row) =
        [.voucherRedemption newId, .redemptionKey request.tenantId request.idempotencyFingerprint,
          .advisory (creditGrantLockKey runtime request.idempotencyFingerprint)] := by
      simp [voucherParts, billingParts, BillingLock.locksOf, rowId, tenantEq, hashEq]
    rw [locksEq]
    simpa using locked

theorem guarded_writeVoucherRedemption {inputs : TransactionInputs} :
    (voucherParts runtime).Guarded held (writeVoucherRedemption inputs request voucher) := by
  refine ⟨guards_insertVoucherCreditGrant _ _ _, fun _ _ _ => ?_⟩
  refine ⟨guards_insertVoucherLedgerEntry _ _ _, fun _ _ _ => ?_⟩
  refine ⟨guards_insertVoucherRedemption (by simp [locked]), fun _ _ _ => ?_⟩
  exact ⟨guards_updateVoucherIssuanceAfterRedeem _, fun _ _ _ => trivial⟩

end

theorem guarded_program (request : VoucherRequest) :
    (voucherParts runtime).Guarded [] request.program := by
  cases request with
  | redeem inputs request _ =>
    refine ⟨guards_lockCreditGrantIdempotency _, fun _ _ execution => ?_⟩
    cases execution
    refine ⟨guards_getVoucherRedemption (by simp), fun _ ⟨_, existing, _⟩ _ => ?_⟩
    cases existing with
    | some existing =>
      dsimp only [AsyncProgram.bind]
      split <;> trivial
    | none =>
      refine ⟨guards_lockVoucherIssuanceByCodeHash _, fun _ ⟨_, voucher, _⟩ _ => ?_⟩
      cases voucher with
      | none => trivial
      | some voucher =>
        dsimp only [AsyncProgram.bind]
        split
        · trivial
        · exact guarded_writeVoucherRedemption (by simp)
  | revoke voucherId =>
    refine ⟨guards_lockVoucherIssuanceById _, fun _ ⟨_, before, _⟩ _ => ?_⟩
    cases before with
    | none => trivial
    | some before =>
      dsimp only [AsyncProgram.bind]
      split
      · trivial
      · exact ⟨guards_updateVoucherIssuanceStatus _ _, fun _ _ _ => trivial⟩

end FuboxApi
