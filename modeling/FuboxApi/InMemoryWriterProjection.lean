import FuboxApi.InMemoryWriterAtomicity

/-!
# The projected balance

A plan projects the balance as the balance before it, minus the required debit, plus the refund
credit. A settle gives back all that its reversals find, so the projection is right only when this
is no more than its cost.
-/

namespace FuboxApi

open CheckedFold LedgerContract

namespace ConsistentWriter

/-- What reversing an entry gives back in a currency. -/
def givenBack (currency : String) : Option LedgerEntryRecord → ℚ
  | some entry => if entry.currency = currency then -entry.amount.toRat else 0
  | none => 0

/-- What reversing the reserves one after another gives back in a currency:
the amount of the first entry of each identifier. -/
def reversedAmount (currency : String) (reserves entries : List LedgerEntryRecord) : ℚ :=
  (reserves.map fun reserve => givenBack currency (firstWithId reserve.id entries)).sum

section

variable {currency : String} {reserve : LedgerEntryRecord}
  {entries updated : List LedgerEntryRecord}

theorem givenBack_applyStatusUpdate
    (applied : applyStatusUpdate (reserveSettledUpdate reserve) entries = .ok updated) (id : Uuid) :
    givenBack currency (firstWithId id updated) = givenBack currency (firstWithId id entries) := by
  rw [firstWithId_applyStatusUpdate applied]
  cases firstWithId id entries with
  | none => rfl
  | some entry =>
    split <;> rfl

theorem ledgerEffect_applyStatusUpdate
    (applied : applyStatusUpdate (reserveSettledUpdate reserve) entries = .ok updated) :
    ledgerEffect currency updated =
      ledgerEffect currency entries + givenBack currency (firstWithId reserve.id entries) := by
  obtain ⟨before, after, entry, found⟩ := exists_updatesFirst applied
  have first : firstWithId reserve.id entries = some entry := by
    have notBefore : before.find? (fun other => other.id = reserve.id) = none := by
      simpa [reserveSettledUpdate] using found.skipped
    have isEntry : entry.id = reserve.id := found.id_eq
    rw [found.entries_eq, firstWithId, List.find?_append, notBefore]
    simp [isEntry]
  have active : entry.status.IsActive := Or.inl found.status_eq
  have inactive : ¬ (reserveSettledUpdate reserve).toStatus.IsActive :=
    LedgerEntryStatus.not_isActive_reversed
  rw [first, found.entries_eq, found.updated_eq, ledgerEffect_append, ledgerEffect_append,
    ledgerEffect_cons, ledgerEffect_cons, givenBack, if_neg (fun counts => inactive counts.2)]
  by_cases counts : entry.currency = currency
  · rw [if_pos ⟨counts, active⟩, if_pos counts]
    ring
  · rw [if_neg (fun both => counts both.1), if_neg counts]
    ring

theorem ledgerEffect_applyStatusUpdates {reserves : List LedgerEntryRecord}
    (succeeded : (applyStatusUpdates (reserves.map reserveSettledUpdate) entries).2 = .ok ()) :
    ledgerEffect currency (applyStatusUpdates (reserves.map reserveSettledUpdate) entries).1 =
      ledgerEffect currency entries + reversedAmount currency reserves entries := by
  induction reserves generalizing entries with
  | nil => simp [applyStatusUpdates, reversedAmount]
  | cons reserve rest ih =>
    rw [List.map_cons, applyStatusUpdates] at succeeded ⊢
    cases applied : applyStatusUpdate (reserveSettledUpdate reserve) entries with
    | error failure => simp [applied] at succeeded
    | ok updated =>
      simp only [applied] at succeeded ⊢
      have sameRest : reversedAmount currency rest updated =
          reversedAmount currency rest entries := by
        simp only [reversedAmount, givenBack_applyStatusUpdate applied]
      rw [ih succeeded, ledgerEffect_applyStatusUpdate applied, sameRest, reversedAmount,
        reversedAmount, List.map_cons, List.sum_cons]
      ring

end

section

variable {request : ConsistentLedgerWriteRequest} {state : ConsistentLedgerWriterState}
  {plan : ConsistentLedgerWriterPlan} {wallet : ConsistentWalletSnapshot}
  {required credit : FixedDecimal} {draft : LedgerEntryDraft} {updates : List LedgerStatusUpdate}
  {scale : Nat}

section

variable (computed : refundCreditForPlan (plannedWrite request draft updates) scale = .ok credit)

include computed

theorem refundCreditForPlan_single : credit.toRat = if 0 < draft.amount.units.value ∧
          (draft.entryType = .refund ∨ draft.entryType = .adjust) then draft.amount.toRat
      else 0 := by
  obtain ⟨start, zeroed, folded⟩ := bind_eq_ok.mp computed
  have startAmount := (zero_toRat zeroed).2
  obtain ⟨next, stepped, finished⟩ := bind_eq_ok.mp folded
  cases finished
  dsimp only at stepped
  split at stepped
  · next counts => rw [if_pos counts, (checkedAdd_toRat stepped).2.2, startAmount, zero_add]
  · next counts =>
    cases stepped
    rw [if_neg counts, startAmount]

theorem AppliedWrite.credit_eq {entries : List LedgerEntryRecord}
    (write : AppliedWrite entries request draft updates) :
    credit.toRat = max draft.amount.toRat 0 := by
  rw [refundCreditForPlan_single computed]
  by_cases positive : 0 < draft.amount.units.value
  · have returns : draft.entryType = .refund ∨ draft.entryType = .adjust := by
      cases write with
      | reserve amountPositive _ debitUnits =>
        simp only [reserveDraft] at positive
        omega
      | settle costPositive _ debitUnits =>
        simp only [settleDraft] at positive
        omega
      | refundFull => exact Or.inl rfl
      | refundPartial => exact Or.inl rfl
      | adminAdjustment => exact Or.inr rfl
    rw [if_pos ⟨positive, returns⟩, max_eq_left (FixedDecimal.toRat_pos_iff.mpr positive).le]
  · have notPositive : draft.amount.toRat ≤ 0 :=
      not_lt.mp fun pos => positive (FixedDecimal.toRat_pos_iff.mp pos)
    rw [if_neg fun counts => positive counts.1, max_eq_right notPositive]

end

theorem WritePlanned.required_eq (planned : WritePlanned state request plan draft updates)
    (facts : PlanFacts request state plan wallet required credit) : required.toRat =
      max (-(draft.amount.toRat + releasedAmount request state.ledgerEntries)) 0 := by
  obtain ⟨_, nonneg, excess, atMost⟩ := planned.required_debit facts
  rcases nonneg.eq_or_lt with nothing | something
  · rw [← nothing, max_eq_right]
    linarith
  · rw [excess something, neg_neg, max_eq_left nonneg]

/-- What the projection assumes to be given back: the reserves of a settle up
to its cost. -/
def coveredAmount (request : ConsistentLedgerWriteRequest) (entries : List LedgerEntryRecord) : ℚ :=
  match request with
  | .settle _ requestId finalCost _ =>
    min finalCost.toRat (reservedAmount requestId entries)
  | _ => 0

variable (facts : PlanFacts request state plan wallet required credit)

include facts

theorem WritePlanned.projected_change (planned : WritePlanned state request plan draft updates) :
    credit.toRat - required.toRat =
      draft.amount.toRat + coveredAmount request state.ledgerEntries := by
  have creditEq := planned.write.credit_eq (planned.ledgerPlan ▸ facts.refundCredit)
  rw [creditEq, planned.required_eq facts]
  cases planned.write with
  | @settle _ requestId finalCost debit _ positive debitScale debitUnits =>
    have costPositive := FixedDecimal.toRat_pos_iff.mpr positive
    have debitEq := FixedDecimal.toRat_neg debitScale.symm debitUnits
    simp only [settleDraft, releasedAmount, coveredAmount, debitEq]
    rw [max_eq_right (by linarith)]
    rcases le_total finalCost.toRat (reservedAmount requestId state.ledgerEntries) with
      covered | excess
    · rw [min_eq_left covered, max_eq_right (by linarith)]
      ring
    · rw [min_eq_right excess, max_eq_left (by linarith)]
      ring
  | _ => simp [releasedAmount, coveredAmount, max_zero_sub_max_neg_zero_eq_self]

theorem PlanFacts.replay_amounts {existingEntryId : Uuid}
    (replays : plan.outcome = .idempotent existingEntryId) {operation : LedgerOperationKind}
    {key : String} {id : Uuid} (ledgerPlan : plan.ledgerPlan = idempotentPlan operation key id) :
    required.toRat = 0 ∧ credit.toRat = 0 := by
  have debit := facts.debit
  rw [replays] at debit
  have refundCredit := facts.refundCredit
  rw [ledgerPlan] at refundCredit
  obtain ⟨_, zeroed, finished⟩ := bind_eq_ok.mp refundCredit
  cases finished
  exact ⟨(zero_toRat debit).2, (zero_toRat zeroed).2⟩

end

def givenBackByUpdates (request : ConsistentLedgerWriteRequest) (entries : List LedgerEntryRecord) :
    ℚ :=
  match request with
  | .settle _ requestId _ currency =>
    reversedAmount currency (pendingReserves entries requestId) entries
  | _ => 0

theorem AppliedWrite.ledgerEffect_applyStatusUpdates {entries : List LedgerEntryRecord}
    {request : ConsistentLedgerWriteRequest} {draft : LedgerEntryDraft}
    {updates : List LedgerStatusUpdate} (write : AppliedWrite entries request draft updates)
    (succeeded : (applyStatusUpdates updates entries).2 = .ok ()) :
    ledgerEffect request.currency (applyStatusUpdates updates entries).1 =
      ledgerEffect request.currency entries + givenBackByUpdates request entries := by
  cases write with
  | settle => exact ConsistentWriter.ledgerEffect_applyStatusUpdates succeeded
  | _ => simp [applyStatusUpdates, givenBackByUpdates]

/-- A settle for a new key gives back its reserves up to its cost, no more and
no less. -/
def GivesBackCovered (request : ConsistentLedgerWriteRequest) (entries : List LedgerEntryRecord) :
    Prop :=
  (∀ entry ∈ entries, entry.idempotencyKey ≠ request.idempotencyKey) →
    givenBackByUpdates request entries = coveredAmount request entries

end ConsistentWriter

namespace InMemoryConsistentLedgerWriter

open ConsistentWriter

variable {writer after : InMemoryConsistentLedgerWriter} {request : ConsistentLedgerWriteRequest}
  {plan : ConsistentLedgerWriterPlan} {wallet : ConsistentWalletSnapshot} {draft : LedgerEntryDraft}
  {updates : List LedgerStatusUpdate}

theorem applyLedgerPlan_plannedWrite_ok
    (applied : writer.applyLedgerPlan (plannedWrite request draft updates) = (after, .ok ())) :
    (applyStatusUpdates updates writer.state.ledgerEntries).2 = .ok () ∧
      after.state = { writer.state with
        ledgerEntries := (applyStatusUpdates updates writer.state.ledgerEntries).1 ++
          [recordOfDraft writer.nextLedgerEntryId draft] } := by
  simp only [applyLedgerPlan, plannedWrite] at applied
  cases succeeded : (applyStatusUpdates updates writer.state.ledgerEntries).2 with
  | error failure => simp [succeeded] at applied
  | ok =>
    simp only [succeeded, pushDrafts, takeNextLedgerEntryId, withEntries] at applied
    cases advanced : Uuid.fromU128 (writer.nextLedgerEntryId.asU128 + 1) with
    | none => simp [advanced] at applied
    | some next =>
      simp only [advanced, Prod.mk.injEq, and_true] at applied
      rw [← applied]
      exact ⟨rfl, rfl⟩

theorem balance_of_applied (write : AppliedWrite writer.state.ledgerEntries request draft updates)
    (applied : writer.applyLedgerPlan (plannedWrite request draft updates) = (after, .ok ()))
    (walletCurrency : wallet.currency = request.currency) : balance wallet after.state =
      balance wallet writer.state +
        givenBackByUpdates request writer.state.ledgerEntries + draft.amount.toRat := by
  obtain ⟨succeeded, stateEq⟩ := applyLedgerPlan_plannedWrite_ok applied
  have counted : (recordOfDraft writer.nextLedgerEntryId draft).currency = request.currency ∧
      (recordOfDraft writer.nextLedgerEntryId draft).status.IsActive :=
    ⟨write.draft_currency, write.draft_active⟩
  rw [stateEq]
  simp only [balance, walletCurrency, ledgerEffect_append,
    write.ledgerEffect_applyStatusUpdates succeeded, ledgerEffect_cons, if_pos counted]
  simp only [recordOfDraft, ledgerEffect, List.filter_nil, List.map_nil, List.sum_nil]
  ring

/-- The projected balance is the balance after the write, unless the write is a
settle for a new key that gives back more or less than its reserves up to its
cost. -/
theorem projected_balance_iff (planned : planConsistentLedgerWrite request writer.state = .ok plan)
    (applied : writer.applyLedgerPlan plan.ledgerPlan = (after, .ok ()))
    (walletFound : writer.state.wallet = some wallet) :
    plan.balanceWindow.availableAfterWrite.toRat = balance wallet after.state ↔
      GivesBackCovered request writer.state.ledgerEntries := by
  obtain ⟨_, required, credit, facts⟩ := planConsistentLedgerWrite_eq_ok planned
  cases walletFound.symm.trans facts.walletFound
  rw [(balanceWindow_eq_ok facts.window).2.2.2.1, facts.available_eq_balance]
  cases outcome : plan.outcome with
  | idempotent existingEntryId =>
    obtain ⟨existing, existingMem, keyEq, ledgerPlan⟩ :=
      planInnerLedgerWrite_replay facts.inner (by simp [← facts.outcome, outcome])
    obtain ⟨requiredZero, creditZero⟩ := facts.replay_amounts outcome ledgerPlan
    rw [ledgerPlan] at applied
    cases applied
    rw [requiredZero, creditZero, sub_zero, add_zero]
    exact iff_of_true rfl fun keyFresh => absurd keyEq (keyFresh existing existingMem)
  | apply =>
    obtain ⟨draft, updates, write⟩ := exists_writePlanned planned outcome
    have change := write.projected_change facts
    rw [write.ledgerPlan] at applied
    rw [balance_of_applied write.write applied facts.walletCurrency, GivesBackCovered]
    constructor
    · intro projected _
      linarith
    · intro covered
      have givenBack := covered write.keyFresh
      linarith

/-- The settle of the reserve of 10 at some cost. -/
def settleReservedAt (cost : Int) : ConsistentLedgerWriteRequest :=
  .settle ⟨sampleId 1, none, none⟩ (sampleId 21) (sampleMoney cost) "USD"

/-- Settling the reserve of 10 at 5 is projected to leave 90 of 100; it leaves
95. -/
theorem projection_misses_release : ∃ plan after wallet,
      planConsistentLedgerWrite (settleReservedAt 5) reservedState = .ok plan ∧
      applyLedgerPlan ⟨reservedState, sampleId 6⟩ plan.ledgerPlan = (after, .ok ()) ∧
      reservedState.wallet = some wallet ∧ plan.balanceWindow.availableAfterWrite = sampleMoney 90 ∧
      balance wallet after.state = (sampleMoney 95).toRat :=
  ⟨_, _, _, eq_ok_get (by decide +kernel), Prod.ext rfl (by decide +kernel), rfl,
    by decide +kernel, by decide +kernel⟩

/-- Settling it at 15 is projected to leave 85, and leaves 85. -/
theorem projected_balance_settleReservedAt : ∃ plan after wallet,
      planConsistentLedgerWrite (settleReservedAt 15) reservedState = .ok plan ∧
      applyLedgerPlan ⟨reservedState, sampleId 6⟩ plan.ledgerPlan = (after, .ok ()) ∧
      reservedState.wallet = some wallet ∧
      GivesBackCovered (settleReservedAt 15) reservedState.ledgerEntries ∧
      plan.balanceWindow.availableAfterWrite.toRat = balance wallet after.state := by
  have covered : GivesBackCovered (settleReservedAt 15) reservedState.ledgerEntries :=
    fun _ => by decide +kernel
  obtain ⟨plan, after, planned, applied⟩ : ∃ plan after,
      planConsistentLedgerWrite (settleReservedAt 15) reservedState = .ok plan ∧
      applyLedgerPlan ⟨reservedState, sampleId 6⟩ plan.ledgerPlan = (after, .ok ()) :=
    ⟨_, _, eq_ok_get (by decide +kernel), Prod.ext rfl (by decide +kernel)⟩
  exact ⟨plan, after, _, planned, applied, rfl, covered,
    (projected_balance_iff planned applied rfl).mpr covered⟩

end InMemoryConsistentLedgerWriter

end FuboxApi
