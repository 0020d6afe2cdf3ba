import FuboxApi.VoucherTransactions

/-!
# Vouchers are not redeemed too often

The transactions on vouchers are serial, whatever their interleaving: a commit
does what its transaction does alone. In every committed state the redemptions
of a voucher are counted in its row and within its maximum.
-/

namespace FuboxApi

open CheckedFold CreditWriters TransactionSystem

/-! ## What a transaction does alone -/

variable {runtime : ControlPlaneRuntime} {request : NormalizedVoucherRedeemRequest}
  {voucher : VoucherIssuanceRow} {database after : BillingDatabase} {value : VoucherOutcome}
  {voucherId : Uuid}

section

variable {inputs : TransactionInputs}

def UniqueVoucherIds (database : BillingDatabase) : Prop :=
  (database.voucherIssuances.map VoucherIssuanceRow.id).Nodup

theorem eq_of_voucherId_eq (unique : UniqueVoucherIds database) {other : VoucherIssuanceRow}
    (member : voucher ∈ database.voucherIssuances) (otherMem : other ∈ database.voucherIssuances)
    (idEq : other.id = voucher.id) : other = voucher :=
  List.inj_on_of_nodup_map unique otherMem member idEq

variable {tenantId_eq : request.tenantId = defaultTenantId} {outcome : CreditOutcome}

theorem view_updateVoucherIssuanceAfterRedeem (runtime : ControlPlaneRuntime)
    (unique : UniqueVoucherIds database)
    {executed : BillingStatement Unit}
    (execution : VoucherCall.execute runtime (.updateVoucherIssuanceAfterRedeem voucherId)
      database = .ok executed) : (voucherSystem runtime).view database executed.writes =
      updateVoucherIssuanceAfterRedeem voucherId database := by
  rw [VoucherCall.execute] at execution
  split at execution
  · next voucher found =>
    cases execution
    have member := List.mem_of_find?_eq_some found
    have selected := List.find?_some found
    simp only [Bool.and_eq_true, decide_eq_true_eq] at selected
    refine congrArg (fun rows => { database with voucherIssuances := rows }) ?_
    refine List.map_congr_left fun row rowMem => ?_
    by_cases same : row.id = voucherId
    · have rowEq : row = voucher :=
        eq_of_voucherId_eq unique member rowMem (same.trans selected.2.symm)
      simp [VoucherIssuanceRow.withState, rowEq, selected]
    · simp [VoucherIssuanceRow.withState, same]
  · next absent =>
    cases execution
    have notSelected := List.find?_eq_none.mp absent
    refine congrArg (fun rows => { database with voucherIssuances := rows }) ?_
    refine (List.map_id' _).symm.trans (List.map_congr_left fun row rowMem => ?_)
    have := notSelected row rowMem
    simp only [Bool.and_eq_true, decide_eq_true_eq] at this
    exact (if_neg this).symm

theorem runAlone_writeVoucherRedemption (unique : UniqueVoucherIds database)
    (walletEq : voucher.walletId = some request.walletId)
    (executed : (voucherSystem runtime).runAlone database
      (writeVoucherRedemption inputs request voucher) [] = .ok (value, after)) :
    ∃ outcome, value = .redeem outcome ∧
      redeemVoucher runtime inputs request voucher database = .ok (outcome, after) := by
  obtain ⟨_, grantExecution, executed⟩ := bind_eq_ok.mp executed
  obtain ⟨walletId, grant, walletIdEq, grantInserted, _, rfl, _⟩ :=
    execute_insertVoucherCreditGrant runtime grantExecution
  obtain ⟨_, entryExecution, executed⟩ := bind_eq_ok.mp executed
  obtain ⟨entry, entryInserted, rfl, _⟩ := execute_insertVoucherLedgerEntry runtime entryExecution
  obtain ⟨_, redemptionExecution, executed⟩ := bind_eq_ok.mp executed
  obtain ⟨redemption, redemptionInserted, rfl, _⟩ :=
    execute_insertVoucherRedemption runtime redemptionExecution
  obtain ⟨_, updateExecution, executed⟩ := bind_eq_ok.mp executed
  have counted := view_updateVoucherIssuanceAfterRedeem runtime (by exact unique) updateExecution
  obtain ⟨valueEq, afterEq⟩ := Prod.mk.inj (Except.ok.inj executed)
  refine ⟨_, valueEq.symm, ?_⟩
  cases walletIdEq.symm.trans walletEq
  have entryEq : voucherLedgerEntry runtime inputs.newLedgerEntryId voucher
      inputs.newCreditGrantId = creditLedgerEntry inputs.newLedgerEntryId voucher.tenantId
        voucher.projectId request.walletId .creditGrant voucher.amount voucher.currency
        (voucherLedgerKey runtime voucher.id inputs.newCreditGrantId) := by
    rw [voucherLedgerEntry, walletEq]
    rfl
  rw [entryEq] at entryInserted
  rw [view_append, counted] at afterEq
  rw [← afterEq]
  refine bind_eq_ok.mpr ⟨_, okOr_eq_ok.mpr walletEq, bind_eq_ok.mpr ⟨_, grantInserted, ?_⟩⟩
  exact bind_eq_ok.mpr ⟨_, entryInserted, bind_eq_ok.mpr ⟨_, redemptionInserted, rfl⟩⟩

theorem findVoucherIssuance_codeHash (database : BillingDatabase) (codeHash : String) :
    (findVoucherIssuance database fun voucher => voucher.codeHash = codeHash) =
      database.voucherIssuances.find? fun voucher =>
        voucher.tenantId = defaultTenantId ∧ voucher.codeHash = codeHash := by
  simp [findVoucherIssuance]

theorem redeemable_of_refusalCode {now : Int}
    (accepted : voucherRedeemRefusalCode now request voucher = none) :
    voucher.status = .issued ∧ voucher.walletId = some request.walletId ∧
      voucher.redemptionCount < voucher.maxRedemptions := by
  unfold voucherRedeemRefusalCode at accepted
  grind

theorem serial_redeem (unique : UniqueVoucherIds database)
    (executed : (voucherSystem runtime).serial database (.redeem inputs request tenantId_eq) =
      .ok (value, after)) : ∃ outcome, value = .redeem outcome ∧
      executeVoucherRedeem runtime inputs request database = .ok (outcome, after) := by
  obtain ⟨_, lockExecution, executed⟩ := bind_eq_ok.mp executed
  cases lockExecution
  obtain ⟨_, readExecution, executed⟩ := bind_eq_ok.mp executed
  cases readExecution
  simp only [AsyncProgram.bind, lockFound, List.append_nil, view_nil] at executed
  unfold executeVoucherRedeem
  cases existingEq : database.voucherRedemptions.find? fun redemption =>
      redemption.tenantId = defaultTenantId ∧
        redemption.idempotencyKeyHash = request.idempotencyFingerprint with
  | some existing =>
    simp only [existingEq] at executed ⊢
    split at executed <;> cases executed
    · exact ⟨_, rfl, if_pos ‹_›⟩
    · exact ⟨_, rfl, if_neg ‹_›⟩
  | none =>
    simp only [existingEq] at executed ⊢
    obtain ⟨_, findExecution, executed⟩ := bind_eq_ok.mp executed
    cases findExecution
    simp only [AsyncProgram.bind, lockFound, List.append_nil, view_nil] at executed
    rw [← findVoucherIssuance_codeHash]
    cases found : findVoucherIssuance database
        fun voucher => voucher.codeHash = request.codeHash with
    | none =>
      simp only [found] at executed ⊢
      cases executed
      exact ⟨_, rfl, rfl⟩
    | some voucher =>
      simp only [found] at executed ⊢
      cases refusal : voucherRedeemRefusalCode inputs.now request voucher with
      | some code =>
        simp only [refusal] at executed ⊢
        cases executed
        exact ⟨_, rfl, rfl⟩
      | none =>
        simp only [refusal] at executed ⊢
        exact runAlone_writeVoucherRedemption unique
          (redeemable_of_refusalCode refusal).2.1 executed

/-- A voucher is redeemed: one row more in each of three tables, and one more in
the counter of the voucher, which was issued and below its maximum. -/
structure RedeemsVoucher (request : NormalizedVoucherRedeemRequest) (voucher : VoucherIssuanceRow)
    (before after : BillingDatabase) : Prop where
  member : voucher ∈ before.voucherIssuances
  issued : voucher.status = .issued
  below : voucher.redemptionCount < voucher.maxRedemptions
  unused : ∀ redemption ∈ before.voucherRedemptions, ¬ (redemption.tenantId = defaultTenantId ∧
    redemption.idempotencyKeyHash = request.idempotencyFingerprint)
  creditGrants : ∃ grant, after.creditGrants = before.creditGrants ++ [grant]
  voucherRedemptions : ∃ redemption : VoucherRedemptionRow,
    after.voucherRedemptions = before.voucherRedemptions ++ [redemption] ∧
      redemption.voucherId = voucher.id ∧ redemption.tenantId = request.tenantId ∧
      redemption.idempotencyKeyHash = request.idempotencyFingerprint
  voucherIssuances : after.voucherIssuances =
    (updateVoucherIssuanceAfterRedeem voucher.id before).voucherIssuances
  tenant : voucher.tenantId = defaultTenantId

theorem redeemsVoucher_of_redeemVoucher
    (found : findVoucherIssuance database (fun voucher => voucher.codeHash = request.codeHash) =
      some voucher) (accepted : voucherRedeemRefusalCode inputs.now request voucher = none)
    (unused : ∀ redemption ∈ database.voucherRedemptions, ¬ (redemption.tenantId = defaultTenantId ∧
        redemption.idempotencyKeyHash = request.idempotencyFingerprint))
    (executed : redeemVoucher runtime inputs request voucher database = .ok (outcome, after)) :
    (∃ record, outcome = .recorded record) ∧ RedeemsVoucher request voucher database after := by
  obtain ⟨_, _, executed⟩ := bind_eq_ok.mp executed
  obtain ⟨_, grantInserted, executed⟩ := bind_eq_ok.mp executed
  obtain ⟨amount, positive, _, _, _, rfl⟩ := insertCreditGrant_eq_ok.mp grantInserted
  obtain ⟨_, entryInserted, executed⟩ := bind_eq_ok.mp executed
  obtain ⟨_, _, _, _, _, rfl⟩ := insertLedgerEntry_eq_ok.mp entryInserted
  obtain ⟨_, redemptionInserted, executed⟩ := bind_eq_ok.mp executed
  obtain ⟨redemption, _, tenantEq, hashEq, voucherEq, rfl, _⟩ :=
    insertVoucherRedemption_row redemptionInserted
  cases executed
  obtain ⟨issued, _, below⟩ := redeemable_of_refusalCode accepted
  have selected := List.find?_some found
  simp only [Bool.and_eq_true, decide_eq_true_eq] at selected
  exact ⟨⟨_, rfl⟩, List.mem_of_find?_eq_some found, issued, below, unused, ⟨_, rfl⟩,
    ⟨redemption, rfl, voucherEq, tenantEq, hashEq⟩, rfl, selected.1⟩

inductive VoucherEffect (before : BillingDatabase) :
    VoucherRequest → VoucherOutcome → BillingDatabase → Prop
  | unrecorded {inputs : TransactionInputs} {request : NormalizedVoucherRedeemRequest}
      {tenantId_eq : request.tenantId = defaultTenantId} {outcome : CreditOutcome}
      (notRecorded : ∀ record, outcome ≠ .recorded record) :
      VoucherEffect before (.redeem inputs request tenantId_eq) (.redeem outcome) before
  | redeemed {inputs : TransactionInputs} {request : NormalizedVoucherRedeemRequest}
      {tenantId_eq : request.tenantId = defaultTenantId} {voucher : VoucherIssuanceRow}
      {record : CreditRecord} {after : BillingDatabase}
      (redeems : RedeemsVoucher request voucher before after) :
      VoucherEffect before (.redeem inputs request tenantId_eq) (.redeem (.recorded record)) after
  | revoked {voucher : VoucherIssuanceRow} (member : voucher ∈ before.voucherIssuances)
      (issued : voucher.status = .issued) :
      VoucherEffect before (.revoke voucher.id) (.revoke { voucher with status := .revoked })
        (before.write (.voucherState voucher.id .revoked voucher.redemptionCount))

theorem voucherEffect_redeem
    (executed : executeVoucherRedeem runtime inputs request database = .ok (outcome, after)) :
    VoucherEffect database (.redeem inputs request tenantId_eq) (.redeem outcome) after := by
  unfold executeVoucherRedeem at executed
  split at executed
  · split at executed <;> cases executed <;> exact .unrecorded (by simp)
  · next absent =>
    rw [← findVoucherIssuance_codeHash] at executed
    have unused := List.find?_eq_none.mp absent
    simp only [decide_eq_true_eq] at unused
    split at executed
    · cases executed
      exact .unrecorded (by simp)
    · next found =>
      split at executed
      · cases executed
        exact .unrecorded (by simp)
      · next accepted =>
        obtain ⟨⟨record, rfl⟩, redeems⟩ :=
          redeemsVoucher_of_redeemVoucher found accepted unused executed
        exact .redeemed redeems

theorem voucherEffect_revoke
    (executed : (voucherSystem runtime).serial database (.revoke voucherId) = .ok (value, after)) :
    VoucherEffect database (.revoke voucherId) value after := by
  obtain ⟨_, lockExecution, executed⟩ := bind_eq_ok.mp executed
  cases lockExecution
  simp only [AsyncProgram.bind, lockFound, List.append_nil] at executed
  split at executed
  · cases executed
  · next voucher found =>
    split at executed
    · cases executed
    · next issued =>
      obtain ⟨updated, updateExecution, executed⟩ := bind_eq_ok.mp executed
      have updateExecution : VoucherCall.execute runtime
        (.updateVoucherIssuanceStatus voucherId .revoked) database = .ok updated :=
          updateExecution
      rw [VoucherCall.execute, show findVoucherIssuance database _ = _ from found]
        at updateExecution
      cases updateExecution
      cases executed
      cases findVoucherIssuance_id found
      exact .revoked (List.mem_of_find?_eq_some found) (not_not.mp issued)

theorem voucherEffect_of_serial (unique : UniqueVoucherIds database) {request : VoucherRequest}
    (executed : (voucherSystem runtime).serial database request = .ok (value, after)) :
    VoucherEffect database request value after := by
  cases request with
  | redeem inputs request tenantId_eq =>
    obtain ⟨outcome, valueEq, redeemed⟩ := serial_redeem unique executed
    rw [valueEq]
    exact voucherEffect_redeem redeemed
  | revoke voucherId => exact voucherEffect_revoke executed

end

/-! ## Counting -/

def redemptionsOf (database : BillingDatabase) (voucherId : Uuid) : Nat :=
  database.voucherRedemptions.countP fun redemption => redemption.voucherId = voucherId

structure VouchersCounted (database : BillingDatabase) : Prop where
  unique : UniqueVoucherIds database
  counted : ∀ voucher ∈ database.voucherIssuances,
    redemptionsOf database voucher.id = voucher.redemptionCount
  bounded : ∀ voucher ∈ database.voucherIssuances, voucher.redemptionCount ≤ voucher.maxRedemptions

variable {before : BillingDatabase}

section

theorem RedeemsVoucher.redemptionsOf_eq (redeems : RedeemsVoucher request voucher before after)
    (voucherId : Uuid) : redemptionsOf after voucherId =
      redemptionsOf before voucherId + if voucher.id = voucherId then 1 else 0 := by
  obtain ⟨redemption, appended, voucherEq, _⟩ := redeems.voucherRedemptions
  simp [redemptionsOf, appended, voucherEq]

variable {row : VoucherIssuanceRow}

theorem RedeemsVoucher.mem_issuances (unique : UniqueVoucherIds before)
    (redeems : RedeemsVoucher request voucher before after) (member : row ∈ after.voucherIssuances)
    : (row ∈ before.voucherIssuances ∧ row.id ≠ voucher.id) ∨ row = { voucher with
        redemptionCount := voucher.redemptionCount + 1
        status := if voucher.maxRedemptions ≤ voucher.redemptionCount + 1 then .redeemed
          else voucher.status } := by
  rw [redeems.voucherIssuances] at member
  obtain ⟨old, oldMem, rowEq⟩ := List.mem_map.mp member
  split at rowEq
  · next selected =>
    right
    rw [← rowEq, eq_of_voucherId_eq unique redeems.member oldMem selected.2]
  · next other =>
    left
    subst rowEq
    refine ⟨oldMem, fun idEq => other ⟨?_, idEq⟩⟩
    rw [eq_of_voucherId_eq unique redeems.member oldMem idEq]
    exact redeems.tenant

theorem mem_issuances_of_revoked (unique : UniqueVoucherIds before)
    (member : voucher ∈ before.voucherIssuances) (rowMem : row ∈ (before.write
      (.voucherState voucher.id .revoked voucher.redemptionCount)).voucherIssuances) :
    (row ∈ before.voucherIssuances ∧ row.id ≠ voucher.id) ∨
      row = { voucher with status := .revoked } := by
  obtain ⟨old, oldMem, rowEq⟩ := List.mem_map.mp rowMem
  unfold VoucherIssuanceRow.withState at rowEq
  split at rowEq
  · next idEq =>
    right
    rw [← rowEq, eq_of_voucherId_eq unique member oldMem idEq]
  · next other =>
    left
    subst rowEq
    exact ⟨oldMem, other⟩

variable (counted : VouchersCounted before)

include counted

theorem VouchersCounted.of_redeems (redeems : RedeemsVoucher request voucher before after) :
    VouchersCounted after where
  unique := by
    have sameIds : after.voucherIssuances.map VoucherIssuanceRow.id =
        before.voucherIssuances.map VoucherIssuanceRow.id := by
      rw [redeems.voucherIssuances, updateVoucherIssuanceAfterRedeem, List.map_map]
      refine List.map_congr_left fun row _ => ?_
      rw [Function.comp_apply]
      split <;> rfl
    rw [UniqueVoucherIds, sameIds]
    exact counted.unique
  counted row member := by
    rw [redeems.redemptionsOf_eq]
    rcases redeems.mem_issuances counted.unique member with ⟨oldMem, other⟩ | rfl
    · rw [if_neg (Ne.symm other), counted.counted row oldMem, Nat.add_zero]
    · rw [if_pos rfl, counted.counted voucher redeems.member]
  bounded row member := by
    rcases redeems.mem_issuances counted.unique member with ⟨oldMem, _⟩ | rfl
    · exact counted.bounded row oldMem
    · exact redeems.below

theorem VouchersCounted.of_revoked (member : voucher ∈ before.voucherIssuances) :
    VouchersCounted (before.write (.voucherState voucher.id .revoked voucher.redemptionCount)) where
  unique := by
    have identities := congrArg (fun parts => parts.2.map Prod.fst)
      (before.unwritten_write (.voucherState voucher.id .revoked voucher.redemptionCount))
    simp only [BillingDatabase.unwritten, List.map_map] at identities
    have unique := counted.unique
    unfold UniqueVoucherIds at unique ⊢
    exact identities ▸ unique
  counted row rowMem := by
    rcases mem_issuances_of_revoked counted.unique member rowMem with ⟨oldMem, _⟩ | rfl
    · exact counted.counted row oldMem
    · exact counted.counted voucher member
  bounded row rowMem := by
    rcases mem_issuances_of_revoked counted.unique member rowMem with ⟨oldMem, _⟩ | rfl
    · exact counted.bounded row oldMem
    · exact counted.bounded voucher member

theorem VouchersCounted.of_effect {request : VoucherRequest}
    (effect : VoucherEffect before request value after) : VouchersCounted after := by
  cases effect with
  | unrecorded _ => exact counted
  | redeemed redeems => exact counted.of_redeems redeems
  | revoked member _ => exact counted.of_revoked member

end

/-! ## Keys and revoked vouchers -/

def KeyUsed (fingerprint : String) (database : BillingDatabase) : Prop :=
  ∃ redemption ∈ database.voucherRedemptions, redemption.tenantId = defaultTenantId ∧
    redemption.idempotencyKeyHash = fingerprint

def VoucherRevoked (voucherId : Uuid) (database : BillingDatabase) : Prop :=
  ∀ voucher ∈ database.voucherIssuances, voucher.id = voucherId → voucher.status = .revoked

section

variable {request : VoucherRequest} {fingerprint : String}

theorem KeyUsed.of_effect (used : KeyUsed fingerprint before)
    (effect : VoucherEffect before request value after) : KeyUsed fingerprint after := by
  cases effect with
  | unrecorded _ | revoked _ _ => exact used
  | redeemed redeems =>
    obtain ⟨_, appended, _⟩ := redeems.voucherRedemptions
    obtain ⟨redemption, member, keyEq⟩ := used
    exact ⟨redemption, appended ▸ List.mem_append_left _ member, keyEq⟩

theorem VoucherRevoked.of_effect (unique : UniqueVoucherIds before)
    (revoked : VoucherRevoked voucherId before)
    (effect : VoucherEffect before request value after) : VoucherRevoked voucherId after := by
  cases effect with
  | unrecorded _ => exact revoked
  | redeemed redeems =>
    intro row member idEq
    rcases redeems.mem_issuances unique member with ⟨oldMem, _⟩ | rfl
    · exact revoked row oldMem idEq
    · have status := revoked _ redeems.member idEq
      cases redeems.issued.symm.trans status
  | revoked member _ =>
    intro row rowMem idEq
    rcases mem_issuances_of_revoked unique member rowMem with ⟨oldMem, _⟩ | rfl
    · exact revoked row oldMem idEq
    · rfl

theorem VoucherRevoked.redemptionsOf_eq (revoked : VoucherRevoked voucherId before)
    (effect : VoucherEffect before request value after) :
    redemptionsOf after voucherId = redemptionsOf before voucherId := by
  cases effect with
  | unrecorded _ | revoked _ _ => rfl
  | @redeemed _ _ _ voucher _ _ redeems =>
    have other : voucher.id ≠ voucherId := by
      intro idEq
      have status := revoked voucher redeems.member idEq
      cases redeems.issued.symm.trans status
    rw [redeems.redemptionsOf_eq, if_neg other, Nat.add_zero]

theorem voucherRevoked_of_effect (unique : UniqueVoucherIds before)
    (effect : VoucherEffect before (.revoke voucherId) value after) :
    VoucherRevoked voucherId after := by
  cases effect with
  | revoked member _ =>
    intro row rowMem idEq
    rcases mem_issuances_of_revoked unique member rowMem with ⟨_, other⟩ | rfl
    · exact absurd idEq other
    · rfl

theorem after_eq_of_refused {code : String}
    (effect : VoucherEffect before request (.redeem (.refused code)) after) : after = before := by
  cases effect
  rfl

end

/-! ## Every interleaving -/

abbrev VoucherCommit := Commit BillingDatabase VoucherRequest VoucherOutcome

/-- The idempotency key of a redeem request. -/
def VoucherRequest.fingerprint : VoucherRequest → Option String
  | redeem _ request _ => some request.idempotencyFingerprint
  | revoke _ => none

def newCreditGrants (commit : VoucherCommit) : Nat :=
  commit.after.creditGrants.length - commit.before.creditGrants.length

/-- The credit grants that an idempotency key has produced. -/
def grantsUnder (fingerprint : String) (commits : List VoucherCommit) : Nat :=
  ((commits.filter fun commit => commit.request.fingerprint = some fingerprint).map
    newCreditGrants).sum

section

variable {initial : BillingDatabase} {commits : List VoucherCommit}

/-- What the commits on vouchers have done to the database. -/
structure VoucherHistory (commits : List VoucherCommit) (database : BillingDatabase) : Prop where
  counted : VouchersCounted database
  effects : ∀ commit ∈ commits, VoucherEffect commit.before commit.request commit.value commit.after
  granted : ∀ fingerprint, grantsUnder fingerprint commits ≤ 1 ∧
    (0 < grantsUnder fingerprint commits → KeyUsed fingerprint database)
  revoked : ∀ commit ∈ commits, ∀ voucherId, commit.request = .revoke voucherId →
    VoucherRevoked voucherId database
  final : commits.Pairwise fun later earlier => ∀ voucherId, earlier.request = .revoke voucherId →
    redemptionsOf later.after voucherId = redemptionsOf later.before voucherId

theorem grantsUnder_cons (fingerprint : String) (commit : VoucherCommit)
    (commits : List VoucherCommit) : grantsUnder fingerprint (commit :: commits) =
      (if commit.request.fingerprint = some fingerprint then newCreditGrants commit else 0) +
        grantsUnder fingerprint commits := by
  unfold grantsUnder
  split <;> simp_all

section

variable {request : VoucherRequest} (effect : VoucherEffect before request value after)

include effect

theorem VoucherHistory.granted_commit (history : VoucherHistory commits before)
    (fingerprint : String) :
    grantsUnder fingerprint (⟨request, value, before, after⟩ :: commits) ≤ 1 ∧
      (0 < grantsUnder fingerprint (⟨request, value, before, after⟩ :: commits) →
        KeyUsed fingerprint after) := by
  obtain ⟨atMostOne, used⟩ := history.granted fingerprint
  have stillUsed := fun positive => (used positive).of_effect effect
  rw [grantsUnder_cons]
  cases effect with
  | unrecorded _ => simpa [newCreditGrants] using ⟨atMostOne, stillUsed⟩
  | revoked _ _ => simpa [VoucherRequest.fingerprint] using ⟨atMostOne, stillUsed⟩
  | @redeemed inputs request tenantId_eq _ record _ redeems =>
    have keyOf : (VoucherRequest.redeem inputs request tenantId_eq).fingerprint =
      some request.idempotencyFingerprint := rfl
    obtain ⟨_, grantAppended⟩ := redeems.creditGrants
    obtain ⟨redemption, redemptionAppended, _, tenantEq, keyEq⟩ := redeems.voucherRedemptions
    by_cases same : request.idempotencyFingerprint = fingerprint
    · subst same
      have noneYet : grantsUnder request.idempotencyFingerprint commits = 0 := by
        by_contra some
        obtain ⟨other, otherMem, otherKey⟩ := used (Nat.pos_of_ne_zero some)
        exact redeems.unused other otherMem otherKey
      have one : newCreditGrants ⟨.redeem inputs request tenantId_eq,
          .redeem (.recorded record), before, after⟩ = 1 := by
        simp [newCreditGrants, grantAppended]
      rw [noneYet, if_pos keyOf, one]
      refine ⟨le_rfl, fun _ => ⟨redemption, ?_, tenantEq.trans tenantId_eq, keyEq⟩⟩
      rw [redemptionAppended]
      exact List.mem_append_right _ List.mem_cons_self
    · have otherKey : (VoucherRequest.redeem inputs request tenantId_eq).fingerprint ≠
          some fingerprint := fun keyEq => same (Option.some.inj keyEq)
      rw [if_neg otherKey, Nat.zero_add]
      exact ⟨atMostOne, stillUsed⟩

theorem VoucherHistory.commit (history : VoucherHistory commits before) :
    VoucherHistory (⟨request, value, before, after⟩ :: commits) after where
  counted := history.counted.of_effect effect
  effects commit member := by
    rcases List.mem_cons.mp member with rfl | earlier
    · exact effect
    · exact history.effects commit earlier
  granted := history.granted_commit effect
  revoked commit member voucherId requestEq := by
    rcases List.mem_cons.mp member with rfl | earlier
    · subst requestEq
      exact voucherRevoked_of_effect history.counted.unique effect
    · have revoked := history.revoked commit earlier voucherId requestEq
      exact revoked.of_effect history.counted.unique effect
  final := by
    refine List.pairwise_cons.mpr ⟨fun earlier member voucherId requestEq => ?_, history.final⟩
    exact (history.revoked earlier member voucherId requestEq).redemptionsOf_eq effect

end

theorem voucherHistory_of_serial (initially : VouchersCounted initial)
    (history : (voucherParts runtime).SerialHistory initial commits database) :
    VoucherHistory commits database := by
  induction history with
  | nil =>
    exact ⟨initially, fun _ member => absurd member List.not_mem_nil,
      fun _ => ⟨Nat.zero_le 1, fun positive => absurd positive (Nat.lt_irrefl 0)⟩,
      fun _ member => absurd member List.not_mem_nil, .nil⟩
  | commit _ reached earlier =>
    have executed := LockParts.serial_of_reached (fun _ _ _ permitted => permitted) reached
    exact earlier.commit (voucherEffect_of_serial earlier.counted.unique executed)

end

abbrev voucherServerAfter (runtime : ControlPlaneRuntime) (initial : BillingDatabase)
    (actions : List (Action VoucherRequest)) :=
  (voucherSystem runtime).serverAfter initial actions

theorem voucherHistory_serverAfter (runtime : ControlPlaneRuntime) {initial : BillingDatabase}
    (initially : VouchersCounted initial) (actions : List (Action VoucherRequest)) :
    VoucherHistory (voucherServerAfter runtime initial actions).commits
      (voucherServerAfter runtime initial actions).committed :=
  voucherHistory_of_serial initially
    (LockParts.serialHistory_serverAfter guarded_program initial actions)

/-- Whatever the interleaving: the committed transactions have the answers and leave the database
that they have and leave when they run one after another, in the order of their commits. -/
theorem vouchers_serializable (runtime : ControlPlaneRuntime) (initial : BillingDatabase)
    (actions : List (Action VoucherRequest)) :
    (voucherSystem runtime).serially initial
        ((voucherServerAfter runtime initial actions).commits.map (·.request)) =
      .ok ((voucherServerAfter runtime initial actions).commits.map (·.value),
        (voucherServerAfter runtime initial actions).committed) :=
  LockParts.serially_of_history (fun _ _ _ permitted => permitted)
    (LockParts.serialHistory_serverAfter guarded_program initial actions)

/-- Whatever the interleaving: the redemptions of a voucher are counted in its row
and within its maximum, an idempotency key has produced at most one credit grant,
a commit after one that revoked a voucher does not redeem it, and a redeem that
is refused writes neither a grant nor a ledger row. -/
theorem vouchers_not_overredeemed (runtime : ControlPlaneRuntime) {initial : BillingDatabase}
    (initially : VouchersCounted initial) (actions : List (Action VoucherRequest)) :
    VouchersCounted (voucherServerAfter runtime initial actions).committed ∧ (∀ fingerprint,
        grantsUnder fingerprint (voucherServerAfter runtime initial actions).commits ≤ 1) ∧
      ((voucherServerAfter runtime initial actions).commits.Pairwise fun later earlier =>
        ∀ voucherId, earlier.request = .revoke voucherId →
          redemptionsOf later.after voucherId = redemptionsOf later.before voucherId) ∧
      ∀ commit ∈ (voucherServerAfter runtime initial actions).commits, ∀ code,
        commit.value = .redeem (.refused code) →
          commit.after.creditGrants = commit.before.creditGrants ∧
            commit.after.ledgerEntries = commit.before.ledgerEntries := by
  have history := voucherHistory_serverAfter runtime initially actions
  refine ⟨history.counted, fun fingerprint => (history.granted fingerprint).1, history.final, ?_⟩
  intro commit member code refused
  have effect := history.effects commit member
  rw [refused] at effect
  rw [after_eq_of_refused effect]
  exact ⟨rfl, rfl⟩

/-! A voucher for three redemptions: two clients redeem it at the same time, one
of them waits for the other, and it is revoked before a third one comes. -/

def threefoldVoucher : BillingDatabase :=
  { BillingDatabase.empty with
    voucherIssuances := [⟨sampleId 31, defaultTenantId, none, some (sampleId 9),
      "USD", 10, "code", .issued, 3, 0, none, ten_pos, stores_ten⟩] }

def redeemThreefold (number : Nat) : VoucherRequest :=
  .redeem ⟨5, sampleId (40 + number), sampleId (50 + number), sampleId (60 + number)⟩
    ⟨defaultTenantId, none, sampleId 9, "USD", "code", toString number, "fingerprint"⟩ rfl

def threefoldActions : List (Action VoucherRequest) :=
  List.flatten [[.begin (redeemThreefold 1), .begin (redeemThreefold 2)],
    -- the last statement of the second client waits
    List.replicate 6 (.statement 1), List.replicate 4 (.statement 0), [.commit 0],
    List.replicate 5 (.statement 0), [.commit 0],
    [.begin (.revoke (sampleId 31)), .statement 0, .statement 0, .commit 0],
    [.begin (redeemThreefold 3), .statement 0, .statement 0, .statement 0, .commit 0]]

theorem vouchersCounted_threefoldVoucher : VouchersCounted threefoldVoucher := by
  refine ⟨?_, ?_, ?_⟩
  · unfold UniqueVoucherIds
    decide +kernel
  · intro voucher member
    cases List.mem_singleton.mp member
    rfl
  · intro voucher member
    cases List.mem_singleton.mp member
    decide

theorem vouchers_not_overredeemed_threefold :
    (voucherServerAfter sampleRuntime threefoldVoucher threefoldActions).commits.length = 4 ∧
      redemptionsOf (voucherServerAfter sampleRuntime threefoldVoucher threefoldActions).committed
        (sampleId 31) = 2 ∧ VouchersCounted
        (voucherServerAfter sampleRuntime threefoldVoucher threefoldActions).committed :=
  ⟨by decide +kernel, by decide +kernel,
    (vouchers_not_overredeemed sampleRuntime vouchersCounted_threefoldVoucher threefoldActions).1⟩

end FuboxApi
