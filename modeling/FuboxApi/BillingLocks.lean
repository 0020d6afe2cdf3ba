import FuboxApi.CreditWritersSpec
import FuboxApi.LockedTransactions

/-!
# Locks on the billing tables

The row versions that the transactions of the control plane write, and the locks under which they
lie: row locks, entries of unique indexes, and advisory locks of idempotency keys. A ledger row that
is related to another one lies under the lock of that row, too.
-/

namespace FuboxApi

inductive BillingLock where
  | advisory (key : List Char)
  | voucherIssuance (id : Uuid)
  | voucherRedemption (id : Uuid)
  | redemptionKey (tenantId : Uuid) (idempotencyKeyHash : String)
  | creditGrant (id : Uuid)
  | ledgerEntry (id : Uuid)
  | ledgerKey (tenantId : Uuid) (idempotencyKey : String)
  | wallet (id : Uuid)
deriving DecidableEq

/-- A new row, or the columns of a voucher that change. -/
inductive BillingWrite where
  | creditGrant (row : CreditGrantRow)
  | ledgerEntry (row : LedgerEntryRow)
  | voucherRedemption (row : VoucherRedemptionRow)
  | voucherState (id : Uuid) (status : VoucherStatus) (redemptionCount : Nat)

abbrev BillingStatement :=
  ExecutedStatement BillingLock BillingWrite

def VoucherIssuanceRow.withState (id : Uuid) (status : VoucherStatus) (redemptionCount : Nat)
    (voucher : VoucherIssuanceRow) : VoucherIssuanceRow :=
  if voucher.id = id then
    { voucher with status := status, redemptionCount := redemptionCount }
  else voucher

def BillingDatabase.write (database : BillingDatabase) : BillingWrite → BillingDatabase
  | .creditGrant row => { database with creditGrants := database.creditGrants ++ [row] }
  | .ledgerEntry row => { database with ledgerEntries := database.ledgerEntries ++ [row] }
  | .voucherRedemption row =>
    { database with voucherRedemptions := database.voucherRedemptions ++ [row] }
  | .voucherState id status redemptionCount =>
    { database with voucherIssuances :=
        database.voucherIssuances.map (VoucherIssuanceRow.withState id status redemptionCount) }

/-- A statement that locks the row that it finds. -/
def lockFound {Row : Type} (lock : Row → BillingLock) (found : Option Row) :
    BillingStatement (Option Row) :=
  ⟨(found.map lock).toList, found, []⟩

/-- Rows of the tables that these transactions write; a voucher keeps its place. -/
structure BillingPart where
  voucherIssuances : List (Option VoucherIssuanceRow)
  voucherRedemptions : List VoucherRedemptionRow
  creditGrants : List CreditGrantRow
  ledgerEntries : List LedgerEntryRow

namespace BillingLock

variable (advisoryKey : String → List Char)

def coversIssuance (voucherId : Uuid) : BillingLock → Bool
  | voucherIssuance id => voucherId = id
  | _ => false

def coversRedemption (row : VoucherRedemptionRow) : BillingLock → Bool
  | advisory key => advisoryKey row.idempotencyKeyHash = key
  | voucherRedemption id => row.id = id
  | redemptionKey tenantId idempotencyKeyHash =>
    row.tenantId = tenantId && row.idempotencyKeyHash = idempotencyKeyHash
  | _ => false

def coversGrant (row : CreditGrantRow) : BillingLock → Bool
  | creditGrant id => row.id = id
  | _ => false

def coversEntry (row : LedgerEntryRow) : BillingLock → Bool
  | ledgerEntry id => row.id = id || row.relatedLedgerEntryId = some id
  | ledgerKey tenantId idempotencyKey =>
    row.tenantId = tenantId && row.idempotencyKey = idempotencyKey
  | _ => false

/-- The rows under a lock. -/
def part (lock : BillingLock) (database : BillingDatabase) : BillingPart where
  voucherIssuances := database.voucherIssuances.map fun row =>
    if lock.coversIssuance row.id then some row else none
  voucherRedemptions :=
    database.voucherRedemptions.filter fun row => lock.coversRedemption advisoryKey row
  creditGrants := database.creditGrants.filter fun row => lock.coversGrant row
  ledgerEntries := database.ledgerEntries.filter fun row => lock.coversEntry row

/-- The locks under which a write lies. -/
def locksOf : BillingWrite → List BillingLock
  | .creditGrant row => [creditGrant row.id]
  | .ledgerEntry row =>
    ledgerEntry row.id :: ledgerKey row.tenantId row.idempotencyKey ::
      (row.relatedLedgerEntryId.map ledgerEntry).toList
  | .voucherRedemption row =>
    [voucherRedemption row.id, redemptionKey row.tenantId row.idempotencyKeyHash,
      advisory (advisoryKey row.idempotencyKeyHash)]
  | .voucherState id _ _ => [voucherIssuance id]

end BillingLock

def VoucherIssuanceRow.identity (voucher : VoucherIssuanceRow) : Uuid × Uuid × String :=
  (voucher.id, voucher.tenantId, voucher.codeHash)

/-- What none of these transactions writes. -/
def BillingDatabase.unwritten (database : BillingDatabase) :
    List WalletRow × List (Uuid × Uuid × String) :=
  (database.wallets, database.voucherIssuances.map VoucherIssuanceRow.identity)

theorem VoucherIssuanceRow.identity_withState (id : Uuid) (status : VoucherStatus)
    (redemptionCount : Nat) (voucher : VoucherIssuanceRow) :
    (voucher.withState id status redemptionCount).identity = voucher.identity := by
  unfold withState
  split <;> rfl

open BillingDatabase

theorem BillingDatabase.unwritten_write (database : BillingDatabase) (write : BillingWrite) :
    (database.write write).unwritten = database.unwritten := by
  cases write with
  | voucherState id status redemptionCount =>
    simp [unwritten, write, Function.comp_def, VoucherIssuanceRow.identity_withState]
  | _ => rfl

namespace BillingLock

variable {advisoryKey : String → List Char} {database other : BillingDatabase} {lock : BillingLock}

theorem mem_locksOf_creditGrant {row : CreditGrantRow} :
    lock ∈ locksOf advisoryKey (.creditGrant row) ↔ lock.coversGrant row = true := by
  cases lock <;> simp [locksOf, coversGrant, eq_comm]

theorem mem_locksOf_ledgerEntry {row : LedgerEntryRow} :
    lock ∈ locksOf advisoryKey (.ledgerEntry row) ↔ lock.coversEntry row = true := by
  cases lock <;> simp [locksOf, coversEntry] <;> grind

theorem mem_locksOf_voucherRedemption {row : VoucherRedemptionRow} :
    lock ∈ locksOf advisoryKey (.voucherRedemption row) ↔
      lock.coversRedemption advisoryKey row = true := by
  cases lock <;> simp [locksOf, coversRedemption] <;> grind

theorem mem_locksOf_voucherState {id : Uuid} {status : VoucherStatus} {redemptionCount : Nat} :
    lock ∈ locksOf advisoryKey (.voucherState id status redemptionCount) ↔
      lock.coversIssuance id = true := by
  cases lock <;> simp [locksOf, coversIssuance, eq_comm]

theorem part_write {write : BillingWrite} (apart : lock ∉ locksOf advisoryKey write)
    (database : BillingDatabase) :
    lock.part advisoryKey (database.write write) = lock.part advisoryKey database := by
  cases write with
  | creditGrant row =>
    rw [mem_locksOf_creditGrant] at apart
    simp [part, write, apart]
  | ledgerEntry row =>
    rw [mem_locksOf_ledgerEntry] at apart
    simp [part, write, apart]
  | voucherRedemption row =>
    rw [mem_locksOf_voucherRedemption] at apart
    simp [part, write, apart]
  | voucherState id status redemptionCount =>
    rw [mem_locksOf_voucherState] at apart
    simp only [part, write, List.map_map, BillingPart.mk.injEq, and_true]
    refine List.map_congr_left fun row _ => ?_
    by_cases same : row.id = id
    · simp [VoucherIssuanceRow.withState, same, apart]
    · simp [VoucherIssuanceRow.withState, same]

theorem issuances_part_write (advisoryKey : String → List Char) (lock : BillingLock) (id : Uuid)
    (status : VoucherStatus) (redemptionCount : Nat) (database : BillingDatabase) :
    (lock.part advisoryKey
        (database.write (.voucherState id status redemptionCount))).voucherIssuances =
      (lock.part advisoryKey database).voucherIssuances.map
        (Option.map (VoucherIssuanceRow.withState id status redemptionCount)) := by
  simp only [part, write, List.map_map]
  refine List.map_congr_left fun row _ => ?_
  have idEq : (row.withState id status redemptionCount).id = row.id :=
    congrArg Prod.fst (row.identity_withState id status redemptionCount)
  simp only [Function.comp_apply, idEq]
  split <;> rfl

theorem part_write_congr (same : lock.part advisoryKey database = lock.part advisoryKey other)
    (write : BillingWrite) :
    lock.part advisoryKey (database.write write) = lock.part advisoryKey (other.write write) := by
  obtain ⟨issuancesEq, redemptionsEq, grantsEq, entriesEq⟩ := BillingPart.mk.injEq .. ▸ same
  cases write with
  | creditGrant row | ledgerEntry row | voucherRedemption row =>
    simp_all [part, write]
  | voucherState id status redemptionCount =>
    have issuances := issuances_part_write advisoryKey lock id status redemptionCount database
    rw [same, ← issuances_part_write] at issuances
    exact (BillingPart.mk.injEq ..).mpr ⟨issuances, redemptionsEq, grantsEq, entriesEq⟩

end BillingLock

/-! ## Reading under locks -/

section

variable {Row : Type} {rows others : List Row} {covers : Row → Bool}

section

variable (selects : Row → Bool) (same : rows.filter covers = others.filter covers)
  (covered : ∀ row, selects row = true → covers row = true)

include same covered

theorem filter_eq_of_covered : rows.filter selects = others.filter selects := by
  have inPart : ∀ list : List Row, list.filter selects = (list.filter covers).filter selects := by
    intro list
    rw [List.filter_filter]
    refine List.filter_congr fun row _ => ?_
    cases selectsRow : selects row <;> simp_all
  rw [inPart rows, inPart others, same]

theorem find?_eq_of_covered : rows.find? selects = others.find? selects := by
  rw [← List.head?_filter, ← List.head?_filter, filter_eq_of_covered selects same covered]

end

/-- Rows that a lock covers and that are not there are not there in any database
that is the same under the lock. -/
theorem absent_of_covered {property : Row → Prop} (same : rows.filter covers = others.filter covers)
    (covered : ∀ row, property row → covers row = true) (absent : ∀ row ∈ rows, ¬ property row) :
    ∀ row ∈ others, ¬ property row := by
  intro row member holds
  have inPart : row ∈ others.filter covers := List.mem_filter.mpr ⟨member, covered row holds⟩
  rw [← same] at inPart
  exact absent row (List.mem_filter.mp inPart).1 holds

/-- No entry has the identifier or the key. -/
def EntryFits (id tenantId : Uuid) (key : String) (database : BillingDatabase) : Prop :=
  id ∉ database.ledgerEntries.map LedgerEntryRow.id ∧ ∀ entry ∈ database.ledgerEntries,
    ¬ (entry.tenantId = tenantId ∧ entry.idempotencyKey = key)

theorem EntryFits.of_parts {advisoryKey : String → List Char} {id tenantId : Uuid} {key : String}
    {database other : BillingDatabase} (same : ∀ lock ∈ [BillingLock.ledgerEntry id,
      .ledgerKey tenantId key], lock.part advisoryKey database = lock.part advisoryKey other)
    (fits : EntryFits id tenantId key database) : EntryFits id tenantId key other := by
  have sameId := congrArg BillingPart.ledgerEntries (same _ List.mem_cons_self)
  have sameKey := congrArg BillingPart.ledgerEntries (same (.ledgerKey tenantId key) (by simp))
  have fresh := fits.1
  refine ⟨?_, absent_of_covered sameKey
    (fun entry keyEq => by simp [BillingLock.coversEntry, keyEq]) fits.2⟩
  simp only [List.mem_map, not_exists, not_and] at fresh ⊢
  exact absent_of_covered sameId (fun entry idEq => by simp [BillingLock.coversEntry, idEq]) fresh

end

section

variable {vouchers others : List VoucherIssuanceRow} {selects : VoucherIssuanceRow → Bool}

def SelectsByIdentity (selects : VoucherIssuanceRow → Bool) : Prop :=
  ∀ voucher other : VoucherIssuanceRow, voucher.identity = other.identity →
    selects voucher = selects other

variable
  (identities : vouchers.map VoucherIssuanceRow.identity = others.map VoucherIssuanceRow.identity)

include identities

theorem find?_none_of_identities (byIdentity : SelectsByIdentity selects)
    (absent : vouchers.find? selects = none) : others.find? selects = none := by
  rw [List.find?_eq_none] at absent ⊢
  intro other member
  have identityMem : other.identity ∈ others.map VoucherIssuanceRow.identity :=
    List.mem_map_of_mem member
  rw [← identities] at identityMem
  obtain ⟨voucher, voucherMem, identityEq⟩ := List.mem_map.mp identityMem
  rw [← byIdentity voucher other identityEq]
  exact absent voucher voucherMem

theorem find?_some_of_identities (byIdentity : SelectsByIdentity selects)
    {voucher : VoucherIssuanceRow}
    (same : vouchers.map (fun row => if row.id = voucher.id then some row else none) =
      others.map (fun row => if row.id = voucher.id then some row else none))
    (found : vouchers.find? selects = some voucher) : others.find? selects = some voucher := by
  induction vouchers generalizing others with
  | nil => cases found
  | cons first rest ih =>
    cases others with
    | nil => cases identities
    | cons other otherRest =>
      simp only [List.map_cons, List.cons.injEq] at identities same
      have selectsEq := byIdentity first other identities.1
      rw [List.find?_cons] at found ⊢
      cases selected : selects first with
      | true =>
        rw [selected] at found selectsEq
        have firstEq : first = voucher := Option.some.inj found
        have otherId : other.id = voucher.id :=
          (congrArg Prod.fst identities.1).symm.trans (congrArg VoucherIssuanceRow.id firstEq)
        have otherEq := same.1
        rw [firstEq, if_pos rfl, if_pos otherId] at otherEq
        rw [← selectsEq, otherEq]
      | false =>
        rw [selected] at found selectsEq
        rw [← selectsEq]
        exact ih identities.2 same.2 found

end

def billingParts {Call : Type} {Answer : Call → Type} {Error Request Value : Type}
    (advisoryKey : String → List Char)
    (system : TransactionSystem Answer BillingDatabase BillingLock BillingWrite Error Request Value)
    (applyEq : system.apply = write) (permits : (call : Call) → BillingDatabase →
      BillingStatement (Answer call) → Prop)
    (permits_of_execute : ∀ {call database executed},
      system.execute call database = .ok executed → permits call database executed) :
    system.LockParts (List WalletRow × List (Uuid × Uuid × String)) BillingPart where
  outside := unwritten
  part := BillingLock.part advisoryKey
  locksOf := BillingLock.locksOf advisoryKey
  outside_apply database write := by rw [applyEq, database.unwritten_write]
  part_apply apart database := by rw [applyEq, BillingLock.part_write apart]
  part_apply_congr same write := by rw [applyEq, BillingLock.part_write_congr same]
  permits := permits
  permits_of_execute := permits_of_execute

end FuboxApi
