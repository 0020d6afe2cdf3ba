import FuboxApi.CreditWritersSpec

/-!
# What executing a subscription event writes

A renewal writes a grant and a ledger row unless the event refers to one; a negative proration
writes the grant always. A ledger row is not written when its key is taken.
-/

namespace FuboxApi.SubscriptionScheduler

open CheckedFold KeyedRows CreditWriters

variable {runtime : ControlPlaneRuntime} {inputs : TransactionInputs}
  {database after : BillingDatabase} {outcome : CreditOutcome}
  {tenantId : Uuid} {event : SubscriptionEventRow} {subscription : SubscriptionRow}
  {plan : SubscriptionPlanRow} {write : RowWrite}
  {result : SubscriptionSchedulerLocalMutationResult}

/-- A row is inserted under a condition, and otherwise nothing is written. -/
def InsertedIf (condition : Prop) (insertion : AdminResult BillingDatabase)
    (database : BillingDatabase) (write : RowWrite) (after : BillingDatabase) : Prop :=
  condition ∧ write.written = true ∧ insertion = .ok after ∨
    ¬ condition ∧ write.written = false ∧ after = database

section

variable {existing : Option Uuid} {newId walletId : Uuid} {draft : CreditGrantDraft}
  {row : LedgerEntryRow} {condition : Prop} {insertion : AdminResult BillingDatabase}

theorem InsertedIf.written_iff (inserted : InsertedIf condition insertion database write after) :
    write.written = true ↔ condition := by
  rcases inserted with ⟨holds, written, -⟩ | ⟨fails, unwritten, -⟩
  · exact iff_of_true written holds
  · exact iff_of_false (by simp [unwritten]) fails

theorem insertedIf_creditGrant
    (executed : insertCreditGrantUnlessPresent existing newId draft database = .ok (write, after)) :
    InsertedIf (existing = none ∧ 0 < draft.amount) (insertCreditGrant newId database draft)
      database write after := by
  unfold insertCreditGrantUnlessPresent at executed
  split at executed
  · cases executed
    exact .inr ⟨by simp, rfl, rfl⟩
  · split at executed
    · next positive =>
      obtain ⟨withGrant, inserted, executed⟩ := bind_eq_ok.mp executed
      cases executed
      exact .inl ⟨⟨rfl, positive⟩, rfl, inserted⟩
    · next notPositive =>
      cases executed
      exact .inr ⟨by simp [notPositive], rfl, rfl⟩

theorem insertedIf_ledgerEntry
    (executed : insertLedgerEntryOrReadBack database row = .ok (write, after)) :
    InsertedIf (ledgerEntryWithKey database row.tenantId row.idempotencyKey = none)
      (insertLedgerEntry database row) database write after := by
  unfold insertLedgerEntryOrReadBack at executed
  split at executed
  · next taken =>
    cases executed
    exact .inr ⟨by simp [taken], rfl, rfl⟩
  · next free =>
    obtain ⟨withEntry, inserted, executed⟩ := bind_eq_ok.mp executed
    cases executed
    exact .inl ⟨free, rfl, inserted⟩

theorem insertedIf_ledgerEntryUnlessPresent
    (executed : insertLedgerEntryUnlessPresent existing row database = .ok (write, after)) :
    InsertedIf (existing = none ∧ 0 < row.amount ∧
        ledgerEntryWithKey database row.tenantId row.idempotencyKey = none)
      (insertLedgerEntry database row) database write after := by
  unfold insertLedgerEntryUnlessPresent at executed
  split at executed
  · cases executed
    exact .inr ⟨by simp, rfl, rfl⟩
  · split at executed
    · next positive => simpa [InsertedIf, positive] using insertedIf_ledgerEntry executed
    · next notPositive =>
      cases executed
      exact .inr ⟨by simp [notPositive], rfl, rfl⟩

theorem recordsCredit_none {credit : Credit} {window : GrantWindow} {tables : LedgerDatabase} :
    RecordsCredit ⟨credit, false, false⟩ window tables tables none none :=
  ⟨Appends.refl _, rfl, rfl, by simp, by simp⟩

theorem InsertedIf.recordsGrant
    (inserted : InsertedIf condition (insertCreditGrant newId database draft) database write after)
    (exact : StoredExactly draft.amount) : ∃ grant, RecordsCredit
      ⟨⟨draft.tenantId, draft.walletId, draft.currency, draft.amount⟩, write.written, false⟩
      ⟨draft.validFrom, draft.validUntil⟩ database.toLedgerDatabase after.toLedgerDatabase
      grant none := by
  rcases inserted with ⟨_, written, inserted⟩ | ⟨_, unwritten, rfl⟩
  · rw [written]
    exact records_insertCreditGrant inserted exact
  · rw [unwritten]
    exact ⟨none, recordsCredit_none⟩

theorem InsertedIf.recordsEntry {projectId : Option Uuid} {entryType : LedgerRowType} {amount : ℚ}
    {currency key : String} {window : GrantWindow}
    (inserted : InsertedIf condition (insertLedgerEntry database
      (creditLedgerEntry newId tenantId projectId walletId entryType amount currency key))
      database write after) (exact : StoredExactly amount) : ∃ entry,
      RecordsCredit ⟨⟨tenantId, walletId, currency, amount⟩, false, write.written⟩ window
        database.toLedgerDatabase after.toLedgerDatabase none entry := by
  rcases inserted with ⟨_, written, inserted⟩ | ⟨_, unwritten, rfl⟩
  · rw [written]
    exact records_insertLedgerEntry inserted exact
  · rw [unwritten]
    exact ⟨none, recordsCredit_none⟩

theorem ledgerEntryWithKey_of_recordsGrant {record : CreditRecord} {window : GrantWindow}
    {grant : Option CreditGrantRow} (records : RecordsCredit record window
      database.toLedgerDatabase after.toLedgerDatabase grant none) :
    ledgerEntryWithKey after = ledgerEntryWithKey database := by
  funext tenantId key
  simp [ledgerEntryWithKey, records.appends.ledgerEntries]

end

theorem renewSubscription_eq_ok {subscriptionId : Uuid} {interval : BillingInterval}
    {creditGrantId ledgerEntryId : Option Uuid}
    (renewed : renewSubscription runtime tenantId subscriptionId interval
      creditGrantId ledgerEntryId database = .ok after) :
    after.toLedgerDatabase = database.toLedgerDatabase := by
  obtain ⟨_, _, renewed⟩ := bind_eq_ok.mp renewed
  cases renewed
  rfl

def LedgerKeyFree (tenantId : Uuid) (key : String) (database : BillingDatabase) : Prop :=
  ledgerEntryWithKey database tenantId key = none

def WritesForRenewal (tenantId : Uuid) (event : SubscriptionEventRow) (database : BillingDatabase)
    (record : CreditRecord) : Prop :=
  (record.creditGrantWritten = true ↔ event.creditGrantId = none) ∧
    (record.ledgerEntryWritten = true ↔ event.ledgerEntryId = none ∧
      LedgerKeyFree tenantId (renewalLedgerKey event) database)

def WritesForNegativeProration (tenantId : Uuid) (event : SubscriptionEventRow)
    (database : BillingDatabase) (record : CreditRecord) : Prop :=
  record.creditGrantWritten = true ∧ (record.ledgerEntryWritten = true ↔
      LedgerKeyFree tenantId (negativeProrationLedgerKey event) database)

def WritesForEvent (tenantId : Uuid) (event : SubscriptionEventRow) (database : BillingDatabase)
    (record : CreditRecord) : Prop :=
  match event.eventType with
  | .renew => WritesForRenewal tenantId event database record
  | .prorate => WritesForNegativeProration tenantId event database record
  | _ => False

/-- The effect of executing an event, stated of its result. -/
structure MutationEffect (now : Int) (tenantId walletId : Uuid) (writes : CreditRecord → Prop)
    (before after : BillingDatabase) (result : SubscriptionSchedulerLocalMutationResult) :
    Prop where
  records : ∃ grant entry, RecordsCredit ⟨⟨tenantId, walletId, result.currency, result.amount⟩,
      result.creditGrant.written, result.ledgerEntry.written⟩ ⟨now, none⟩
      before.toLedgerDatabase after.toLedgerDatabase grant entry
  written : result.creditGrant.written = true ∨ result.ledgerEntry.written = true →
    0 < result.amount ∧ writes ⟨⟨tenantId, walletId, result.currency, result.amount⟩,
        result.creditGrant.written, result.ledgerEntry.written⟩

theorem MutationEffect.imp {now : Int} {walletId : Uuid} {writes weaker : CreditRecord → Prop}
    (effect : MutationEffect now tenantId walletId writes database after result)
    (weaken : ∀ record, writes record → weaker record) :
    MutationEffect now tenantId walletId weaker database after result where
  records := effect.records
  written := fun someWritten =>
    (effect.written someWritten).imp_right (weaken _)

theorem mutationEffect_withoutCredit {now : Int} {walletId : Uuid} {writes : CreditRecord → Prop}
    {status currency : String} (same : after.toLedgerDatabase = database.toLedgerDatabase) :
    MutationEffect now tenantId walletId writes database after (withoutCredit status currency) where
  records := ⟨none, none, same ▸ Appends.refl _, rfl, rfl, by simp, by simp⟩
  written := by simp [withoutCredit]

theorem applySubscriptionRenewalLocalSettlement_effect
    (executed : applySubscriptionRenewalLocalSettlement runtime inputs tenantId
      event subscription plan database = .ok (result, after)) :
    MutationEffect inputs.now tenantId subscription.walletId
      (WritesForRenewal tenantId event database) database after result := by
  obtain ⟨⟨grantWrite, withGrant⟩, grantInserted, executed⟩ := bind_eq_ok.mp executed
  obtain ⟨⟨entryWrite, withEntry⟩, entryInserted, executed⟩ := bind_eq_ok.mp executed
  obtain ⟨renewed, subscriptionRenewed, executed⟩ := bind_eq_ok.mp executed
  cases executed
  have exact := storedExactly_of_stores plan.included_stored
  have grantIf := insertedIf_creditGrant grantInserted
  have entryIf := insertedIf_ledgerEntryUnlessPresent entryInserted
  obtain ⟨grant, grantRecords⟩ := grantIf.recordsGrant exact
  obtain ⟨entry, entryRecords⟩ := entryIf.recordsEntry exact
  have grantWritten := grantIf.written_iff
  have entryWritten := entryIf.written_iff
  rw [ledgerEntryWithKey_of_recordsGrant grantRecords] at entryWritten
  refine ⟨⟨grant, entry, ?_⟩, ?_⟩
  · rw [renewSubscription_eq_ok subscriptionRenewed]
    exact grantRecords.trans entryRecords
  · intro someWritten
    have positive : 0 < plan.includedCreditAmount := by
      rcases someWritten with written | written
      · exact (grantWritten.mp written).2
      · exact (entryWritten.mp written).2.1
    refine ⟨positive, ?_, ?_⟩
    · simpa [immediateGrant, positive] using grantWritten
    · simpa [LedgerKeyFree, creditLedgerEntry, positive] using entryWritten

theorem storedExactly_abs_prorationDelta {now : Int} {currentPlan targetPlan : SubscriptionPlanRow}
    {delta : ℚ}
    (deltaEq : prorationDelta runtime now subscription currentPlan targetPlan = some delta) :
    StoredExactly |delta| := by
  simp only [prorationDelta] at deltaEq
  split at deltaEq
  · cases deltaEq
  · cases deltaEq
    rw [abs_div, abs_of_pos (by positivity : (0 : ℚ) < 10 ^ defaultMoneyScale), ← Int.cast_abs]
    exact storedExactly_units _

theorem applyNegativeProrationCredit_effect {currency : String} {delta : ℚ} (negative : delta < 0)
    (exact : StoredExactly |delta|)
    (executed : applyNegativeProrationCredit inputs tenantId event subscription
      currency delta database = .ok (result, after)) :
    MutationEffect inputs.now tenantId subscription.walletId
      (WritesForNegativeProration tenantId event database) database after result := by
  obtain ⟨withGrant, grantInserted, executed⟩ := bind_eq_ok.mp executed
  obtain ⟨⟨entryWrite, withEntry⟩, entryInserted, executed⟩ := bind_eq_ok.mp executed
  cases executed
  obtain ⟨grant, grantRecords⟩ := records_insertCreditGrant grantInserted exact
  have entryIf := insertedIf_ledgerEntry entryInserted
  obtain ⟨entry, entryRecords⟩ := entryIf.recordsEntry exact
  have entryWritten := entryIf.written_iff
  rw [ledgerEntryWithKey_of_recordsGrant grantRecords] at entryWritten
  exact ⟨⟨grant, entry, grantRecords.trans entryRecords⟩,
    fun _ => ⟨abs_pos.mpr negative.ne, rfl, entryWritten⟩⟩

section

variable {mode : SchedulerMode}
  (executed : executeEvent runtime inputs mode tenantId event subscription plan database =
    .ok (result, after))

include executed

/-- An event is a renewal, a proration that credits the wallet, or credits nothing and changes
the plan of the subscription at most. -/
theorem executeEvent_cases :
    (mode = .apply ∧ event.eventType = .renew ∧ applySubscriptionRenewalLocalSettlement runtime
      inputs tenantId event subscription plan database = .ok (result, after)) ∨
    (event.eventType = .prorate ∧ ∃ targetPlan delta, delta < 0 ∧ StoredExactly |delta| ∧
      applyNegativeProrationCredit inputs tenantId event subscription targetPlan.currency delta
        (changePlan tenantId subscription.id targetPlan database) = .ok (result, after)) ∨
    ∃ status currency, result = withoutCredit status currency ∧ (after = database ∨
      ∃ targetPlan, after = changePlan tenantId subscription.id targetPlan database) := by
  unfold executeEvent at executed
  split at executed
  case h_1 isRenewal => exact .inl ⟨rfl, isRenewal, executed⟩
  case h_2 isProration =>
    unfold applySubscriptionProrationLocalMutation at executed
    split at executed
    case h_2 targetPlanId _ =>
      split at executed
      case h_2 targetPlan _ =>
        simp only [prorate] at executed
        split at executed
        · next delta _ deltaEq =>
          split_ifs at executed with _ negative
          · cases executed
            exact .inr (.inr ⟨_, _, rfl, .inr ⟨targetPlan, rfl⟩⟩)
          · exact .inr (.inl ⟨isProration, targetPlan, delta, negative,
              storedExactly_abs_prorationDelta deltaEq, executed⟩)
          · cases executed
            exact .inr (.inr ⟨_, _, rfl, .inr ⟨targetPlan, rfl⟩⟩)
        · cases executed
          exact .inr (.inr ⟨_, _, rfl, .inl rfl⟩)
      all_goals
        cases executed
        exact .inr (.inr ⟨_, _, rfl, .inl rfl⟩)
    all_goals
      cases executed
      exact .inr (.inr ⟨_, _, rfl, .inl rfl⟩)
  all_goals
    cases executed
    exact .inr (.inr ⟨_, _, rfl, .inl rfl⟩)

theorem executeEvent_effect : MutationEffect inputs.now tenantId subscription.walletId
      (WritesForEvent tenantId event database) database after result := by
  rcases executeEvent_cases executed with ⟨_, isRenewal, renewed⟩ |
    ⟨isProration, targetPlan, delta, negative, exact, credited⟩ |
    ⟨_, _, rfl, rfl | ⟨targetPlan, rfl⟩⟩
  · apply (applySubscriptionRenewalLocalSettlement_effect renewed).imp
    intro record writes
    simpa only [WritesForEvent, isRenewal] using writes
  · have effect := applyNegativeProrationCredit_effect negative exact credited
    refine ⟨effect.records, fun someWritten => ?_⟩
    rw [WritesForEvent, isProration]
    exact effect.written someWritten
  · exact mutationEffect_withoutCredit rfl
  · exact mutationEffect_withoutCredit rfl

end

theorem applySubscriptionSchedulerLocalExecution_effect {mode : SchedulerMode} {eventId : Uuid}
    (executed : applySubscriptionSchedulerLocalExecution runtime inputs mode
      tenantId eventId database = .ok (outcome, after)) : CreditEffect ⟨inputs.now, none⟩
      (fun record => ∃ event subscription plan,
        joinedEvent tenantId eventId database = some (event, subscription, plan) ∧
          WritesForEvent tenantId event database record)
      database.toLedgerDatabase after.toLedgerDatabase outcome := by
  unfold applySubscriptionSchedulerLocalExecution at executed
  split at executed
  · cases executed
  · next event subscription plan joined =>
    split at executed
    · obtain ⟨⟨result, mutated⟩, eventExecuted, executed⟩ :=
        bind_eq_ok.mp executed
      cases executed
      obtain ⟨⟨grant, entry, records⟩, written⟩ := executeEvent_effect eventExecuted
      unfold creditOutcome
      split
      · next someWritten =>
        rw [Bool.or_eq_true] at someWritten
        obtain ⟨positive, writes⟩ := written someWritten
        exact .recorded positive someWritten ⟨event, subscription, plan, joined, writes⟩ records
      · next noneWritten =>
        simp only [Bool.or_eq_true, not_or, Bool.not_eq_true] at noneWritten
        have noGrant := records.grantWritten.trans noneWritten.1
        have noEntry := records.entryWritten.trans noneWritten.2
        rw [Option.isSome_eq_false_iff, Option.isNone_iff_eq_none] at noGrant noEntry
        subst noGrant noEntry
        exact .unrecorded (by simp) records.appends
    · cases executed
      exact .unrecorded (by simp) (Appends.refl _)

end FuboxApi.SubscriptionScheduler
