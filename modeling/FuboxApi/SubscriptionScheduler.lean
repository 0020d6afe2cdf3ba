import FuboxApi.CreditWriters

/-!
# Renewals and prorations

The scheduler executes an event in one transaction. A renewal credits the amount that the plan
includes, a negative proration the difference for the rest of the period; of other event types only
the new status is kept. Timestamps count microseconds.
-/

namespace FuboxApi

open CheckedFold KeyedRows CreditWriters

inductive SchedulerMode where
  | apply
  | refuse
  | replay
  | record

/-- What executing an event wrote, with the currency and the amount of its
credit. -/
structure SubscriptionSchedulerLocalMutationResult where
  status : String
  currency : String
  amount : ℚ
  creditGrant : RowWrite
  ledgerEntry : RowWrite

abbrev SchedulerResult :=
  AdminResult (SubscriptionSchedulerLocalMutationResult × BillingDatabase)

namespace SubscriptionScheduler

def executeTargetStatus : SchedulerMode → SubscriptionEventStatus
  | .apply => .applied
  | .refuse => .refused
  | .replay => .replayed
  | .record => .scheduled

def localStatus : SchedulerMode → String
  | .apply => "local_execution_applied"
  | .refuse => "refused"
  | .replay => "replayed"
  | .record => "status_recorded"

def withoutCredit (status currency : String) : SubscriptionSchedulerLocalMutationResult :=
  ⟨status, currency, 0, ⟨none, false⟩, ⟨none, false⟩⟩

/-- An insert of a grant that is skipped for a present reference and for an
amount that is not positive. -/
def insertCreditGrantUnlessPresent (existing : Option Uuid) (newId : Uuid)
    (draft : CreditGrantDraft) (database : BillingDatabase) :
    AdminResult (RowWrite × BillingDatabase) :=
  match existing with
  | some id => .ok (⟨some id, false⟩, database)
  | none =>
    if 0 < draft.amount then do
      let database ← insertCreditGrant newId database draft
      return (⟨some newId, true⟩, database)
    else .ok (⟨none, false⟩, database)

/-- The same for the ledger row, which is also read back by its key. -/
def insertLedgerEntryUnlessPresent (existing : Option Uuid) (row : LedgerEntryRow)
    (database : BillingDatabase) : AdminResult (RowWrite × BillingDatabase) :=
  match existing with
  | some id => .ok (⟨some id, false⟩, database)
  | none =>
    if 0 < row.amount then insertLedgerEntryOrReadBack database row
    else .ok (⟨none, false⟩, database)

variable (event : SubscriptionEventRow) (runtime : ControlPlaneRuntime) (inputs : TransactionInputs)
  (tenantId : Uuid)

def nextPeriodEnd (interval : BillingInterval) (currentPeriodEnd : Int) : Int :=
  match interval with
  | .year => runtime.addYear currentPeriodEnd
  | .month => runtime.addMonth currentPeriodEnd
  | .oneTime => currentPeriodEnd

/-- The subscription rows that a renewal moves to the next period. -/
def isRenewable (tenantId subscriptionId : Uuid) (row : SubscriptionRow) : Bool :=
  row.tenantId = tenantId ∧ row.id = subscriptionId ∧
    row.status ∈ [SubscriptionStatus.trialing, .active, .renewed, .resumed, .paymentFailed]

def renewSubscription (subscriptionId : Uuid) (interval : BillingInterval)
    (creditGrantId ledgerEntryId : Option Uuid) (database : BillingDatabase) :
    AdminResult BillingDatabase := do
  ensure (∀ row ∈ database.subscriptions, isRenewable tenantId subscriptionId row →
      row.currentPeriodEnd < nextPeriodEnd runtime interval row.currentPeriodEnd)
    (.database (.checkViolation "subscriptions" "current_period_end > current_period_start"))
  return { database with
    subscriptions := database.subscriptions.map fun row =>
      if isRenewable tenantId subscriptionId row then
        { row with
          status := .renewed
          currentPeriodStart := row.currentPeriodEnd
          currentPeriodEnd := nextPeriodEnd runtime interval row.currentPeriodEnd
          latestCreditGrantId := creditGrantId.or row.latestCreditGrantId
          latestLedgerEntryId := ledgerEntryId.or row.latestLedgerEntryId }
      else row }

def renewalLedgerKey : String :=
  "subscription-scheduler-renewal-ledger:" ++ event.idempotencyKeyHash

def applySubscriptionRenewalLocalSettlement (event : SubscriptionEventRow)
    (subscription : SubscriptionRow) (plan : SubscriptionPlanRow) (database : BillingDatabase) :
    SchedulerResult := do
  let (grant, database) ← insertCreditGrantUnlessPresent event.creditGrantId inputs.newCreditGrantId
    (immediateGrant inputs.now tenantId subscription.walletId
      plan.includedCreditAmount plan.currency "subscription_renewal_local_settlement" none)
    database
  let (entry, database) ← insertLedgerEntryUnlessPresent event.ledgerEntryId
    (creditLedgerEntry inputs.newLedgerEntryId tenantId subscription.projectId
      subscription.walletId .creditGrant plan.includedCreditAmount plan.currency
      (renewalLedgerKey event))
    database
  let database ← renewSubscription runtime tenantId subscription.id
    plan.billingInterval grant.id entry.id database
  return (⟨"local_settlement_recorded", plan.currency, plan.includedCreditAmount,
    grant, entry⟩, database)

def microsecondsPerSecond : ℚ := 10 ^ 6

/-- The seconds between two times, not below zero. -/
def secondsBetween (start finish : Int) : ℚ :=
  max 0 ((finish - start : ℚ) / microsecondsPerSecond)

/-- Target minus current unit price times the remaining part of the period,
rounded to the default scale. -/
def prorationDelta (now : Int) (subscription : SubscriptionRow)
    (currentPlan targetPlan : SubscriptionPlanRow) : Option ℚ :=
  let total : ℚ := (subscription.currentPeriodEnd - subscription.currentPeriodStart : ℚ) /
      microsecondsPerSecond
  let remaining := secondsBetween (max now subscription.currentPeriodStart)
    subscription.currentPeriodEnd
  if total = 0 then none
  else
    let quotient := runtime.numericDivide
      ((targetPlan.unitPrice - currentPlan.unitPrice) * remaining) total
    some (NumericColumn.roundHalfAway (quotient * 10 ^ defaultMoneyScale) / 10 ^ defaultMoneyScale)

def prorationBlockedCode (now : Int) (subscription : SubscriptionRow)
    (currentPlan targetPlan : SubscriptionPlanRow) (deltaMoney : Option FixedDecimal) :
    Option String :=
  if targetPlan.status ≠ .active then some "target_plan_not_active"
  else if targetPlan.currency ≠ currentPlan.currency then some "currency_mismatch"
  else if NumericColumn.roundHalfAway
      (secondsBetween subscription.currentPeriodStart subscription.currentPeriodEnd) ≤ 0 then
    some "period_time_invalid"
  else if NumericColumn.roundHalfAway (secondsBetween (max now subscription.currentPeriodStart)
        subscription.currentPeriodEnd) ≤ 0 then
    some "no_remaining_period"
  else if (deltaMoney.map FixedDecimal.isZero).getD true then
    some "zero_proration_delta"
  else none

/-- Move the subscription to the target plan, if their currencies agree. -/
def changePlan (tenantId subscriptionId : Uuid) (targetPlan : SubscriptionPlanRow)
    (database : BillingDatabase) : BillingDatabase :=
  { database with
    subscriptions := database.subscriptions.map fun row =>
      if row.tenantId = tenantId ∧ row.id = subscriptionId ∧ targetPlan.currency = row.currency then
        { row with
          planId := targetPlan.id
          currency := targetPlan.currency
          status :=
            if row.status = .created ∨ row.status = .trialing then row.status
            else .active }
      else row }

def negativeProrationLedgerKey : String :=
  "subscription-scheduler-negative-proration-ledger:" ++ event.idempotencyKeyHash

def applyNegativeProrationCredit (event : SubscriptionEventRow) (subscription : SubscriptionRow)
    (currency : String) (deltaAmount : ℚ) (database : BillingDatabase) :
    SchedulerResult := do
  let database ← insertCreditGrant inputs.newCreditGrantId database
    (immediateGrant inputs.now tenantId subscription.walletId |deltaAmount|
      currency "subscription_negative_proration_credit" none)
  let (entry, database) ← insertLedgerEntryOrReadBack database
    (creditLedgerEntry inputs.newLedgerEntryId tenantId subscription.projectId
      subscription.walletId .adjust |deltaAmount| currency
      (negativeProrationLedgerKey event))
  return (⟨"local_negative_proration_credit_recorded", currency, |deltaAmount|,
    ⟨some inputs.newCreditGrantId, true⟩, entry⟩, database)

/-- A proration whose target plan was found: a blocked one changes nothing, a
positive one changes the plan, and a negative one also credits the wallet. -/
def prorate (event : SubscriptionEventRow) (subscription : SubscriptionRow)
    (currentPlan targetPlan : SubscriptionPlanRow) (database : BillingDatabase) :
    SchedulerResult :=
  let deltaAmount := prorationDelta runtime inputs.now subscription currentPlan targetPlan
  let deltaMoney := deltaAmount.bind fun delta =>
    (parseBillingFixedDecimal delta).toOption
  match prorationBlockedCode inputs.now subscription currentPlan targetPlan
      deltaMoney, deltaAmount with
  | none, some delta =>
    let changed := changePlan tenantId subscription.id targetPlan database
    if targetPlan.currency ≠ subscription.currency then
      .ok (withoutCredit "proration_target_not_applicable" targetPlan.currency, changed)
    else if delta < 0 then
      applyNegativeProrationCredit inputs tenantId event subscription
        targetPlan.currency delta changed
    else
      .ok (withoutCredit "local_proration_plan_change_recorded" targetPlan.currency, changed)
  | _, _ =>
    .ok (withoutCredit "proration_delta_blocked" targetPlan.currency, database)

def applySubscriptionProrationLocalMutation (event : SubscriptionEventRow)
    (subscription : SubscriptionRow) (currentPlan : SubscriptionPlanRow)
    (database : BillingDatabase) :
    SchedulerResult :=
  match event.targetPlanId with
  | none =>
    .ok (withoutCredit "proration_missing_target_plan" currentPlan.currency, database)
  | some targetPlanId =>
    match database.subscriptionPlans.find? fun plan =>
        plan.tenantId = tenantId ∧ plan.id = targetPlanId with
    | none =>
      .ok (withoutCredit "proration_delta_blocked" currentPlan.currency, database)
    | some targetPlan =>
      prorate runtime inputs tenantId event subscription currentPlan targetPlan database

def joinedEvent (tenantId eventId : Uuid) (database : BillingDatabase) :
    Option (SubscriptionEventRow × SubscriptionRow × SubscriptionPlanRow) := do
  let event ← database.subscriptionEvents.find? fun event =>
    event.tenantId = tenantId ∧ event.id = eventId
  let subscription ← database.subscriptions.find? fun subscription =>
    subscription.tenantId = event.tenantId ∧ subscription.id = event.subscriptionId
  let plan ← database.subscriptionPlans.find? fun plan =>
    plan.tenantId = subscription.tenantId ∧ plan.id = subscription.planId
  return (event, subscription, plan)

def IsClaimable : Prop :=
  event.eventStatus = .scheduled ∨ event.eventStatus = .replayed

instance : Decidable (IsClaimable event) :=
  inferInstanceAs (Decidable (_ ∨ _))

def recordEventStatus (tenantId eventId : Uuid) (mode : SchedulerMode)
    (result : SubscriptionSchedulerLocalMutationResult) (database : BillingDatabase) :
    BillingDatabase :=
  { database with
    subscriptionEvents := database.subscriptionEvents.map fun event =>
      if event.tenantId = tenantId ∧ event.id = eventId ∧ IsClaimable event then
        { event with
          eventStatus := executeTargetStatus mode
          creditGrantId := event.creditGrantId.or result.creditGrant.id
          ledgerEntryId := event.ledgerEntryId.or result.ledgerEntry.id }
      else event }

def executeEvent (mode : SchedulerMode) (tenantId : Uuid) (event : SubscriptionEventRow)
    (subscription : SubscriptionRow) (plan : SubscriptionPlanRow) (database : BillingDatabase) :
    SchedulerResult :=
  match mode, event.eventType with
  | .apply, .renew =>
    applySubscriptionRenewalLocalSettlement runtime inputs tenantId event subscription plan database
  | .apply, .prorate =>
    applySubscriptionProrationLocalMutation runtime inputs tenantId event subscription plan database
  | .apply, _ => .ok (withoutCredit "event_status_recorded" plan.currency, database)
  | _, _ => .ok (withoutCredit (localStatus mode) plan.currency, database)

def applySubscriptionSchedulerLocalExecution (mode : SchedulerMode) (tenantId eventId : Uuid)
    (database : BillingDatabase) : AdminResult (CreditOutcome × BillingDatabase) :=
  match joinedEvent tenantId eventId database with
  | none => .error (.notFound "subscription scheduler event")
  | some (event, subscription, plan) =>
    if IsClaimable event then do
      let (result, database) ← executeEvent runtime inputs mode tenantId event
        subscription plan database
      return (creditOutcome result.status
          ⟨tenantId, subscription.walletId, result.currency, result.amount⟩
          result.creditGrant result.ledgerEntry,
        recordEventStatus tenantId eventId mode result database)
    else .ok (.settled "idempotent_noop", database)

end SubscriptionScheduler

end FuboxApi
