import FuboxApi.SubscriptionPlanning
import FuboxApi.SubscriptionSchedulerSpec

/-!
# Renewal grants and renewed periods

The history records the period end for which each renewal grant was written and the one from which
each renewal moved the subscription on. The grant depends on the amount that the plan includes, the
period on the status of the subscription. Where the guards agree and the event is for the current
period, they match one to one.
-/

namespace FuboxApi

open CheckedFold CreditWriters SubscriptionScheduler SubscriptionPlanning TransitionRuns

def renewalGrantSource : String :=
  "subscription_renewal_local_settlement"

section

variable (subscriptionId : Uuid)

def watchedSubscription (database : BillingDatabase) : Option SubscriptionRow :=
  database.subscriptions.find? fun row =>
    row.tenantId = defaultTenantId ∧ row.id = subscriptionId

def periodEnd (database : BillingDatabase) : Option Int :=
  (watchedSubscription subscriptionId database).map SubscriptionRow.currentPeriodEnd

/-- The renewal grants among the rows that were inserted between two states. -/
def insertedRenewalGrants (before after : BillingDatabase) : List CreditGrantRow :=
  (after.creditGrants.drop before.creditGrants.length).filter fun row =>
    row.source = renewalGrantSource

/-- The tables, with the history of the watched subscription. -/
structure RenewalSystem extends SchedulerDatabase where
  grantedPeriodEnds : List Int
  advancedPeriodEnds : List Int

namespace RenewalSystem

/-- A run begins with an empty history. -/
def start (database : SchedulerDatabase) : RenewalSystem :=
  ⟨database, [], []⟩

def newlyGranted (before after : SchedulerDatabase) : SchedulerInput → List Int
  | .execute _ _ eventId =>
    match joinedEvent defaultTenantId eventId before.toBillingDatabase with
    | some (event, _, _) =>
      if event.subscriptionId = subscriptionId then
        (insertedRenewalGrants before.toBillingDatabase after.toBillingDatabase).map
          fun _ => before.effectiveAt eventId
      else []
    | none => []
  | _ => []

/-- The period end that a step moved the subscription on from. -/
def newlyAdvanced (before after : SchedulerDatabase) : List Int :=
  (periodEnd subscriptionId before.toBillingDatabase).toList.filter fun current =>
    periodEnd subscriptionId after.toBillingDatabase ≠ some current

def step (runtime : SchedulerRuntime) (subscriptionId : Uuid) (system : RenewalSystem)
    (input : SchedulerInput) : RenewalSystem × Unit :=
  let after := system.transition runtime input
  (⟨after,
    system.grantedPeriodEnds ++ newlyGranted subscriptionId system.toSchedulerDatabase after input,
    system.advancedPeriodEnds ++ newlyAdvanced subscriptionId system.toSchedulerDatabase after⟩, ())

/-- The guards of a renewal agree: an event that can be executed writes a
grant exactly if its subscription can be renewed, and then it was planned for
the end of the current period. -/
def RenewalGuardsAgree (effectiveAt : Int) :
    Option (SubscriptionEventRow × SubscriptionRow × SubscriptionPlanRow) → Prop
  | some (event, subscription, plan) =>
    event.subscriptionId = subscriptionId ∧ event.eventType = .renew ∧ IsClaimable event →
      (isRenewable defaultTenantId subscriptionId subscription = true ↔
        event.creditGrantId = none ∧ 0 < plan.includedCreditAmount) ∧
      (isRenewable defaultTenantId subscriptionId subscription = true →
        effectiveAt = subscription.currentPeriodEnd)
  | none => True

instance (effectiveAt : Int) :
    ∀ joined, Decidable (RenewalGuardsAgree subscriptionId effectiveAt joined)
  | some (_, _, _) => inferInstanceAs (Decidable (_ → _))
  | none => instDecidableTrue

def GuardsAgree (system : RenewalSystem) : SchedulerInput → Prop
  | .execute _ .apply eventId =>
    RenewalGuardsAgree subscriptionId (system.effectiveAt eventId)
      (joinedEvent defaultTenantId eventId system.toBillingDatabase)
  | _ => True

instance (system : RenewalSystem) : ∀ input, Decidable (GuardsAgree subscriptionId system input)
  | .execute _ .apply _ => inferInstanceAs (Decidable (RenewalGuardsAgree _ _ _))
  | .execute _ .refuse _ | .execute _ .replay _ | .execute _ .record _ | .plan _ _ _
  | .changeStatus _ _ => instDecidableTrue

end RenewalSystem

/-! ## Steps that renew nothing -/

/-- Neither the period of the subscription nor the renewal grants change. -/
structure RenewsNothing (subscriptionId : Uuid) (before after : BillingDatabase) : Prop where
  periodEnd_eq : periodEnd subscriptionId after = periodEnd subscriptionId before
  grants_eq : insertedRenewalGrants before after = []

end

variable {subscriptionId : Uuid} {after : BillingDatabase}

section

variable {before : BillingDatabase}

theorem watchedSubscription_of_map {change : SubscriptionRow → SubscriptionRow}
    (keepsKey : ∀ row, (change row).tenantId = row.tenantId ∧ (change row).id = row.id)
    (changed : after.subscriptions = before.subscriptions.map change) :
    watchedSubscription subscriptionId after =
      (watchedSubscription subscriptionId before).map change := by
  simp [watchedSubscription, changed, keepsKey]

theorem insertedRenewalGrants_of_append {grants : List CreditGrantRow}
    (appended : after.creditGrants = before.creditGrants ++ grants) :
    insertedRenewalGrants before after =
      grants.filter fun row => row.source = renewalGrantSource := by
  simp [insertedRenewalGrants, appended]

theorem renewsNothing_of_eq (sameRows : after.subscriptions = before.subscriptions)
    (sameGrants : after.creditGrants = before.creditGrants) :
    RenewsNothing subscriptionId before after where
  periodEnd_eq := by simp [periodEnd, watchedSubscription, sameRows]
  grants_eq := by simp [insertedRenewalGrants, sameGrants]

theorem renewsNothing_of_map {change : SubscriptionRow → SubscriptionRow}
    {grants : List CreditGrantRow}
    (keepsKey : ∀ row, (change row).tenantId = row.tenantId ∧ (change row).id = row.id)
    (keepsPeriod : ∀ row, (change row).currentPeriodEnd = row.currentPeriodEnd)
    (changed : after.subscriptions = before.subscriptions.map change)
    (appended : after.creditGrants = before.creditGrants ++ grants)
    (otherSource : ∀ row ∈ grants, row.source ≠ renewalGrantSource) :
    RenewsNothing subscriptionId before after where
  periodEnd_eq := by
    simp [periodEnd, watchedSubscription_of_map keepsKey changed, Function.comp_def, keepsPeriod]
  grants_eq := by
    simpa [insertedRenewalGrants_of_append appended] using otherSource

end

theorem insertPlannedEvent_eq_ok {inputs : TransactionInputs} {planned : PlannedEvent}
    {database after : SchedulerDatabase}
    (inserted : insertPlannedEvent inputs planned database = .ok after) :
    after.subscriptions = database.subscriptions ∧ after.creditGrants = database.creditGrants := by
  obtain ⟨effectiveAt, -, inserted⟩ := bind_eq_ok.mp inserted
  split at inserted
  · cases inserted
    exact ⟨rfl, rfl⟩
  · obtain ⟨_, -, inserted⟩ := bind_eq_ok.mp inserted
    cases inserted
    exact ⟨rfl, rfl⟩

theorem applyEvents_frame (events : List (PlannedEvent × TransactionInputs))
    (database : SchedulerDatabase) :
    (applyEvents events database).2.subscriptions = database.subscriptions ∧
      (applyEvents events database).2.creditGrants = database.creditGrants := by
  induction events generalizing database with
  | nil => exact ⟨rfl, rfl⟩
  | cons event rest ih =>
    unfold applyEvents
    split
    · next inserted insertedEq =>
      have frame := insertPlannedEvent_eq_ok insertedEq
      exact ⟨(ih inserted).1.trans frame.1, (ih inserted).2.trans frame.2⟩
    · exact ⟨rfl, rfl⟩

theorem planSubscriptionScheduler_renewsNothing (runtime : SchedulerRuntime) (now : Int)
    (inserts : Nat → TransactionInputs) (request : SubscriptionSchedulerPlanRequest)
    (subscriptionId : Uuid) (database : SchedulerDatabase) :
    RenewsNothing subscriptionId database.toBillingDatabase
      (planSubscriptionScheduler runtime now inserts request database).2.toBillingDatabase := by
  unfold planSubscriptionScheduler
  split
  · exact renewsNothing_of_eq rfl rfl
  · dsimp only
    split
    · exact renewsNothing_of_eq rfl rfl
    · exact renewsNothing_of_eq (applyEvents_frame _ _).1 (applyEvents_frame _ _).2

/-! ## The rows that executing an event writes -/

section

variable {runtime : ControlPlaneRuntime} {inputs : TransactionInputs} {tenantId : Uuid}
  {event : SubscriptionEventRow} {subscription : SubscriptionRow} {plan : SubscriptionPlanRow}
  {database : BillingDatabase} {result : SubscriptionSchedulerLocalMutationResult}
  {write : RowWrite}

theorem ledgerEntry_frame {condition : Prop} {row : LedgerEntryRow}
    (inserted : InsertedIf condition (insertLedgerEntry database row) database write after) :
    after.subscriptions = database.subscriptions ∧ after.creditGrants = database.creditGrants := by
  rcases inserted with ⟨_, _, inserted⟩ | ⟨_, _, rfl⟩
  · obtain ⟨_, _, _, _, _, rfl⟩ := insertLedgerEntry_eq_ok.mp inserted
    exact ⟨rfl, rfl⟩
  · exact ⟨rfl, rfl⟩

theorem insertCreditGrantUnlessPresent_rows {existing : Option Uuid} {newId : Uuid}
    {draft : CreditGrantDraft}
    (inserted : insertCreditGrantUnlessPresent existing newId draft database = .ok (write, after)) :
    after.subscriptions = database.subscriptions ∧
      ∃ grants, after.creditGrants = database.creditGrants ++ grants ∧
        (∀ row ∈ grants, row.source = draft.source) ∧
        grants.length = if existing = none ∧ 0 < draft.amount then 1 else 0 := by
  rcases insertedIf_creditGrant inserted with ⟨holds, _, inserted⟩ | ⟨fails, _, rfl⟩
  · obtain ⟨amount, amountPos, _, _, _, rfl⟩ := insertCreditGrant_eq_ok.mp inserted
    exact ⟨rfl, [draft.row newId amount amountPos], rfl, by simp [CreditGrantDraft.row],
      by simp [holds]⟩
  · exact ⟨rfl, [], by simp [fails]⟩

theorem renewSubscription_rows {interval : BillingInterval}
    {creditGrantId ledgerEntryId : Option Uuid}
    (renewed : renewSubscription runtime tenantId subscriptionId interval creditGrantId
      ledgerEntryId database = .ok after) : ∃ change : SubscriptionRow → SubscriptionRow,
      after.subscriptions = database.subscriptions.map change ∧
      after.creditGrants = database.creditGrants ∧
      (∀ row, (change row).tenantId = row.tenantId ∧ (change row).id = row.id) ∧
      (∀ row, isRenewable tenantId subscriptionId row = false → change row = row) ∧
      ∀ row ∈ database.subscriptions, isRenewable tenantId subscriptionId row = true →
        row.currentPeriodEnd < (change row).currentPeriodEnd := by
  obtain ⟨_, laterEnds, renewed⟩ := bind_eq_ok.mp renewed
  cases renewed
  refine ⟨_, rfl, rfl, ?_, ?_, ?_⟩
  · intro row
    split <;> exact ⟨rfl, rfl⟩
  · intro row notRenewable
    simp [notRenewable]
  · intro row member renewable
    simpa [renewable] using ensure_eq_ok.mp laterEnds row member renewable

/-- The effect of applying a renewal, whose two guards are independent. -/
structure RenewalEffect (tenantId : Uuid) (event : SubscriptionEventRow)
    (subscription : SubscriptionRow) (plan : SubscriptionPlanRow) (before after : BillingDatabase)
    (change : SubscriptionRow → SubscriptionRow) : Prop where
  grants : (insertedRenewalGrants before after).length =
    if event.creditGrantId = none ∧ 0 < plan.includedCreditAmount then 1 else 0
  subscriptions : after.subscriptions = before.subscriptions.map change
  keepsKey : ∀ row, (change row).tenantId = row.tenantId ∧ (change row).id = row.id
  keepsOthers : ∀ row, isRenewable tenantId subscription.id row = false → change row = row
  advances : ∀ row ∈ before.subscriptions, isRenewable tenantId subscription.id row = true →
    row.currentPeriodEnd < (change row).currentPeriodEnd

theorem applySubscriptionRenewalLocalSettlement_rows
    (executed : applySubscriptionRenewalLocalSettlement runtime inputs tenantId event
      subscription plan database = .ok (result, after)) :
    ∃ change, RenewalEffect tenantId event subscription plan database after change := by
  obtain ⟨⟨grantWrite, withGrant⟩, grantInserted, executed⟩ := bind_eq_ok.mp executed
  obtain ⟨⟨entryWrite, withEntry⟩, entryInserted, executed⟩ := bind_eq_ok.mp executed
  obtain ⟨renewed, subscriptionRenewed, executed⟩ := bind_eq_ok.mp executed
  cases executed
  obtain ⟨grantRows, grants, appended, sources, count⟩ :=
    insertCreditGrantUnlessPresent_rows grantInserted
  obtain ⟨entryRows, entryGrants⟩ :=
    ledgerEntry_frame (insertedIf_ledgerEntryUnlessPresent entryInserted)
  obtain ⟨change, changed, sameGrants, keepsKey, keepsOthers, advances⟩ :=
    renewSubscription_rows subscriptionRenewed
  have sameRows : withEntry.subscriptions = database.subscriptions := entryRows.trans grantRows
  rw [sameRows] at changed advances
  refine ⟨change, ?_, changed, keepsKey, keepsOthers, advances⟩
  have appendedGrants : after.creditGrants = database.creditGrants ++ grants :=
    (sameGrants.trans entryGrants).trans appended
  have allRenewal : grants.filter (fun row => row.source = renewalGrantSource) = grants :=
    List.filter_eq_self.mpr fun row member => decide_eq_true (sources row member)
  rw [insertedRenewalGrants_of_append appendedGrants, allRenewal, count]
  rfl

theorem changePlan_keeps (tenantId subscriptionId : Uuid) (targetPlan : SubscriptionPlanRow)
    (database : BillingDatabase) : ∃ change : SubscriptionRow → SubscriptionRow,
      (changePlan tenantId subscriptionId targetPlan database).subscriptions =
        database.subscriptions.map change ∧
      (∀ row, (change row).tenantId = row.tenantId ∧ (change row).id = row.id) ∧
      ∀ row, (change row).currentPeriodEnd = row.currentPeriodEnd := by
  refine ⟨_, rfl, ?_, ?_⟩
  · intro row
    split <;> exact ⟨rfl, rfl⟩
  · intro row
    split <;> rfl

theorem applyNegativeProrationCredit_rows {currency : String} {delta : ℚ}
    (executed : applyNegativeProrationCredit inputs tenantId event subscription currency delta
      database = .ok (result, after)) : after.subscriptions = database.subscriptions ∧
      ∃ grants, after.creditGrants = database.creditGrants ++ grants ∧
        ∀ row ∈ grants, row.source ≠ renewalGrantSource := by
  obtain ⟨withGrant, grantInserted, executed⟩ := bind_eq_ok.mp executed
  obtain ⟨⟨entryWrite, withEntry⟩, entryInserted, executed⟩ := bind_eq_ok.mp executed
  cases executed
  obtain ⟨amount, amountPos, _, _, _, rfl⟩ := insertCreditGrant_eq_ok.mp grantInserted
  obtain ⟨sameRows, sameGrants⟩ := ledgerEntry_frame (insertedIf_ledgerEntry entryInserted)
  refine ⟨sameRows, [_], sameGrants, ?_⟩
  simp [CreditGrantDraft.row, immediateGrant, renewalGrantSource]

theorem executeEvent_rows {mode : SchedulerMode}
    (executed : executeEvent runtime inputs mode tenantId event subscription plan database =
      .ok (result, after)) : RenewsNothing subscriptionId database after ∨
      (mode = .apply ∧ event.eventType = .renew ∧
        ∃ change, RenewalEffect tenantId event subscription plan database after change) := by
  rcases executeEvent_cases executed with ⟨isApply, isRenewal, renewed⟩ |
    ⟨_, targetPlan, _, _, _, credited⟩ | ⟨_, _, rfl, rfl | ⟨targetPlan, rfl⟩⟩
  · exact .inr ⟨isApply, isRenewal, applySubscriptionRenewalLocalSettlement_rows renewed⟩
  · obtain ⟨change, changed, keepsKey, keepsPeriod⟩ :=
      changePlan_keeps tenantId subscription.id targetPlan database
    obtain ⟨sameRows, grants, appended, otherSource⟩ := applyNegativeProrationCredit_rows credited
    exact .inl (renewsNothing_of_map keepsKey keepsPeriod (sameRows.trans changed) appended
      otherSource)
  · exact .inl (renewsNothing_of_eq rfl rfl)
  · obtain ⟨change, changed, keepsKey, keepsPeriod⟩ :=
      changePlan_keeps tenantId subscription.id targetPlan database
    exact .inl (renewsNothing_of_map keepsKey keepsPeriod changed (List.append_nil _).symm
      (by simp))

end

/-! ## One step -/

theorem joinedEvent_eq_some {eventId : Uuid} {database : BillingDatabase}
    {event : SubscriptionEventRow} {subscription : SubscriptionRow} {plan : SubscriptionPlanRow}
    (joined : joinedEvent defaultTenantId eventId database = some (event, subscription, plan)) :
    watchedSubscription event.subscriptionId database = some subscription ∧
      subscription.id = event.subscriptionId := by
  simp only [joinedEvent, Option.bind_eq_bind, Option.bind_eq_some_iff] at joined
  obtain ⟨event', eventFound, subscription', subscriptionFound, plan', -, same⟩ := joined
  cases same
  have eventMatches := List.find?_some eventFound
  have ofTenant : event.tenantId = defaultTenantId := (of_decide_eq_true eventMatches).1
  have subscriptionMatches := List.find?_some subscriptionFound
  refine ⟨?_, (of_decide_eq_true subscriptionMatches).2⟩
  simpa [watchedSubscription, ofTenant] using subscriptionFound

variable {runtime : SchedulerRuntime}

namespace SchedulerDatabase

variable {database : SchedulerDatabase}

theorem changeStatus_renewsNothing (subscriptionId changedId : Uuid) (status : SubscriptionStatus) :
    RenewsNothing subscriptionId database.toBillingDatabase
      (database.changeStatus changedId status).toBillingDatabase := by
  refine renewsNothing_of_map ?_ ?_ rfl (List.append_nil _).symm (by simp)
  · intro row
    split <;> exact ⟨rfl, rfl⟩
  · intro row
    split <;> rfl

theorem execute_cases (runtime : SchedulerRuntime) (inputs : TransactionInputs)
    (mode : SchedulerMode) (eventId subscriptionId : Uuid) (database : SchedulerDatabase) :
    RenewsNothing subscriptionId database.toBillingDatabase
        (database.execute runtime inputs mode eventId).toBillingDatabase ∨
      ∃ event subscription plan change,
        joinedEvent defaultTenantId eventId database.toBillingDatabase =
          some (event, subscription, plan) ∧
        mode = .apply ∧ event.eventType = .renew ∧ IsClaimable event ∧
        RenewalEffect defaultTenantId event subscription plan database.toBillingDatabase
          (database.execute runtime inputs mode eventId).toBillingDatabase change := by
  unfold execute
  split
  · next outcome after executed =>
    unfold applySubscriptionSchedulerLocalExecution at executed
    split at executed
    · cases executed
    · next event subscription plan joined =>
      split at executed
      · next claimable =>
        obtain ⟨⟨result, mutated⟩, eventExecuted, executed⟩ := bind_eq_ok.mp executed
        cases executed
        -- recording the status changes only the table of events
        rcases executeEvent_rows eventExecuted with nothing | ⟨isApply, isRenewal, effect⟩
        · exact .inl ⟨nothing.periodEnd_eq, nothing.grants_eq⟩
        · obtain ⟨change, effect⟩ := effect
          exact .inr ⟨event, subscription, plan, change, joined, isApply, isRenewal,
            claimable, effect.grants, effect.subscriptions, effect.keepsKey,
            effect.keepsOthers, effect.advances⟩
      · cases executed
        exact .inl (renewsNothing_of_eq rfl rfl)
  · exact .inl (renewsNothing_of_eq rfl rfl)

end SchedulerDatabase

/-- How the watched subscription leaves a step whose guards agree: nothing was
renewed, or one grant was written for the period that ended. -/
inductive PeriodStep (subscriptionId : Uuid) (before after : BillingDatabase) :
    List Int → List Int → Prop
  | kept (same : periodEnd subscriptionId after = periodEnd subscriptionId before) :
      PeriodStep subscriptionId before after [] []
  | renewed {current next : Int} (currentEq : periodEnd subscriptionId before = some current)
      (nextEq : periodEnd subscriptionId after = some next) (later : current < next) :
      PeriodStep subscriptionId before after [current] [current]

namespace RenewalSystem

variable {before after : SchedulerDatabase} {system : RenewalSystem} {input : SchedulerInput}

theorem newlyAdvanced_of_periodEnd_eq (same : periodEnd subscriptionId after.toBillingDatabase =
      periodEnd subscriptionId before.toBillingDatabase) :
    newlyAdvanced subscriptionId before after = [] := by
  unfold newlyAdvanced
  rw [same]
  cases periodEnd subscriptionId before.toBillingDatabase <;> simp

theorem periodStep_of_renewsNothing
    (nothing : RenewsNothing subscriptionId before.toBillingDatabase after.toBillingDatabase) :
    PeriodStep subscriptionId before.toBillingDatabase after.toBillingDatabase
      (newlyGranted subscriptionId before after input)
      (newlyAdvanced subscriptionId before after) := by
  have noGrants : newlyGranted subscriptionId before after input = [] := by
    unfold newlyGranted
    split
    · split
      · simp [nothing.grants_eq]
      · rfl
    · rfl
  rw [noGrants, newlyAdvanced_of_periodEnd_eq nothing.periodEnd_eq]
  exact .kept nothing.periodEnd_eq

section

variable {event : SubscriptionEventRow} {subscription : SubscriptionRow}
  {plan : SubscriptionPlanRow} {change : SubscriptionRow → SubscriptionRow} {eventId : Uuid}
  {inputs : TransactionInputs}
  (joined : joinedEvent defaultTenantId eventId before.toBillingDatabase = some (event,
    subscription, plan))
  (effect : RenewalEffect defaultTenantId event subscription plan before.toBillingDatabase
    after.toBillingDatabase change)

include joined effect

theorem periodStep_of_other (other : event.subscriptionId ≠ subscriptionId) :
    PeriodStep subscriptionId before.toBillingDatabase after.toBillingDatabase
      (newlyGranted subscriptionId before after (.execute inputs .apply eventId))
      (newlyAdvanced subscriptionId before after) := by
  have sameId := (joinedEvent_eq_some joined).2
  have samePeriod : periodEnd subscriptionId after.toBillingDatabase =
      periodEnd subscriptionId before.toBillingDatabase := by
    unfold periodEnd
    rw [watchedSubscription_of_map effect.keepsKey effect.subscriptions]
    cases watched : watchedSubscription subscriptionId before.toBillingDatabase with
    | none => rfl
    | some row =>
      have rowMatches := List.find?_some watched
      have rowId : row.id = subscriptionId := (of_decide_eq_true rowMatches).2
      have notRenewable : isRenewable defaultTenantId subscription.id row = false := by
        simp [isRenewable, sameId, rowId, Ne.symm other]
      simp [effect.keepsOthers row notRenewable]
  have noGrants :
      newlyGranted subscriptionId before after (.execute inputs .apply eventId) = [] := by
    simp [newlyGranted, joined, other]
  rw [noGrants, newlyAdvanced_of_periodEnd_eq samePeriod]
  exact .kept samePeriod

theorem periodStep_of_renewal (same : event.subscriptionId = subscriptionId)
    (agree : isRenewable defaultTenantId subscriptionId subscription = true ↔
      event.creditGrantId = none ∧ 0 < plan.includedCreditAmount)
    (current : isRenewable defaultTenantId subscriptionId subscription = true →
      before.effectiveAt eventId = subscription.currentPeriodEnd) :
    PeriodStep subscriptionId before.toBillingDatabase after.toBillingDatabase
      (newlyGranted subscriptionId before after (.execute inputs .apply eventId))
      (newlyAdvanced subscriptionId before after) := by
  obtain ⟨found, sameId⟩ := joinedEvent_eq_some joined
  rw [same] at found sameId
  have beforeEnd : periodEnd subscriptionId before.toBillingDatabase =
      some subscription.currentPeriodEnd := by
    simp [periodEnd, found]
  have afterEnd : periodEnd subscriptionId after.toBillingDatabase =
      some (change subscription).currentPeriodEnd := by
    simp [periodEnd, watchedSubscription_of_map effect.keepsKey effect.subscriptions, found]
  have count := effect.grants
  by_cases renewable : isRenewable defaultTenantId subscriptionId subscription = true
  · have later : subscription.currentPeriodEnd < (change subscription).currentPeriodEnd :=
      effect.advances subscription (List.mem_of_find?_eq_some found) (by rw [sameId, renewable])
    rw [if_pos (agree.mp renewable), List.length_eq_one_iff] at count
    obtain ⟨grant, grantEq⟩ := count
    have granted : newlyGranted subscriptionId before after (.execute inputs .apply eventId) =
        [subscription.currentPeriodEnd] := by
      simp [newlyGranted, joined, same, grantEq, current renewable]
    have advanced : newlyAdvanced subscriptionId before after =
        [subscription.currentPeriodEnd] := by
      simp [newlyAdvanced, beforeEnd, afterEnd, later.ne']
    rw [granted, advanced]
    exact .renewed beforeEnd afterEnd later
  · have kept : change subscription = subscription :=
      effect.keepsOthers subscription (by rw [sameId]; simpa using renewable)
    rw [if_neg (agree.not.mp renewable), List.length_eq_zero_iff] at count
    rw [kept, ← beforeEnd] at afterEnd
    exact periodStep_of_renewsNothing ⟨afterEnd, count⟩

end

theorem periodStep_transition (guards : GuardsAgree subscriptionId system input) :
    PeriodStep subscriptionId system.toBillingDatabase
      (system.transition runtime input).toBillingDatabase
      (newlyGranted subscriptionId system.toSchedulerDatabase (system.transition runtime input)
        input) (newlyAdvanced subscriptionId system.toSchedulerDatabase
        (system.transition runtime input)) := by
  cases input with
  | plan now inserts request =>
    exact periodStep_of_renewsNothing (planSubscriptionScheduler_renewsNothing runtime now
      inserts request subscriptionId system.toSchedulerDatabase)
  | changeStatus changedId status =>
    exact periodStep_of_renewsNothing
      (SchedulerDatabase.changeStatus_renewsNothing subscriptionId changedId status)
  | execute inputs mode eventId =>
    rcases SchedulerDatabase.execute_cases runtime inputs mode eventId subscriptionId
      system.toSchedulerDatabase with nothing | ⟨event, subscription, plan, change, joined,
        rfl, isRenewal, claimable, effect⟩
    · exact periodStep_of_renewsNothing nothing
    · by_cases same : event.subscriptionId = subscriptionId
      · simp only [GuardsAgree, joined] at guards
        obtain ⟨agree, current⟩ := guards ⟨same, isRenewal, claimable⟩
        exact periodStep_of_renewal joined effect same agree current
      · exact periodStep_of_other joined effect same

/-! ## Whole runs -/

/-- The history of the watched subscription: the grants are for the renewed
periods, which ended one after another and before the current one ends. -/
structure HistoryMatches (subscriptionId : Uuid) (system : RenewalSystem) : Prop where
  grants_eq : system.grantedPeriodEnds = system.advancedPeriodEnds
  increasing : system.advancedPeriodEnds.Pairwise (· < ·)
  ended : ∀ current ∈ periodEnd subscriptionId system.toBillingDatabase,
    ∀ earlier ∈ system.advancedPeriodEnds, earlier < current

theorem HistoryMatches.extend {granted advanced : List Int}
    (moved : PeriodStep subscriptionId system.toBillingDatabase after.toBillingDatabase granted
      advanced) (invariant : HistoryMatches subscriptionId system) : HistoryMatches subscriptionId
      ⟨after, system.grantedPeriodEnds ++ granted, system.advancedPeriodEnds ++ advanced⟩ := by
  obtain ⟨grants_eq, increasing, ended⟩ := invariant
  cases moved with
  | kept same =>
    refine ⟨by simpa using grants_eq, by simpa using increasing, ?_⟩
    intro current currentEq earlier member
    exact ended current (same ▸ currentEq) earlier (by simpa using member)
  | @renewed current next currentEq nextEq later =>
    refine ⟨by simp [grants_eq], ?_, ?_⟩
    · refine List.pairwise_append.mpr ⟨increasing, List.pairwise_singleton _ _, ?_⟩
      intro earlier member last lastMem
      rw [List.mem_singleton.mp lastMem]
      exact ended current currentEq earlier member
    · intro reached reachedEq earlier member
      obtain rfl : next = reached := Option.some.inj (nextEq.symm.trans reachedEq)
      rcases List.mem_append.mp member with old | new
      · exact (ended current currentEq earlier old).trans later
      · rwa [List.mem_singleton.mp new]

theorem HistoryMatches.step (guards : GuardsAgree subscriptionId system input)
    (invariant : HistoryMatches subscriptionId system) :
    HistoryMatches subscriptionId (step runtime subscriptionId system input).1 :=
  invariant.extend (periodStep_transition guards)

/-- In a run in which the guards of every applied renewal agree, the renewal
grants of a subscription are as many as its renewed periods, and no two of them
are for the same period end. -/
theorem renewal_grants_match_periods (runtime : SchedulerRuntime) (subscriptionId : Uuid)
    (database : SchedulerDatabase) (inputs : List SchedulerInput)
    (guards : StepsMeet (step runtime subscriptionId) (GuardsAgree subscriptionId)
      (start database) inputs) (earlier later : List SchedulerInput)
    (split : inputs = earlier ++ later) :
    let reached := stateAfter (step runtime subscriptionId) (start database) earlier
    reached.grantedPeriodEnds.length = reached.advancedPeriodEnds.length ∧
      reached.grantedPeriodEnds.Nodup ∧ reached.advancedPeriodEnds.Nodup := by
  have initially : HistoryMatches subscriptionId (start database) :=
    ⟨rfl, List.Pairwise.nil, by simp [start]⟩
  have reachedMatches := stateAfter_invariant_of_stepsMeet
    (fun _ _ agree invariant => HistoryMatches.step agree invariant) initially guards earlier
    later split
  have distinct := reachedMatches.increasing.imp Int.ne_of_lt
  dsimp only
  rw [reachedMatches.grants_eq]
  exact ⟨rfl, distinct, distinct⟩

/-! ### Worked runs -/

def sampleSchedulerRuntime : SchedulerRuntime :=
  { sampleRuntime with
    addDays := fun days time => time + days
    timestampText := fun time => toString time
    candidateOrder := fun _ rows => rows }

/-- An active subscription to a monthly plan that includes a credit of ten. -/
def subscribed : SchedulerDatabase :=
  { BillingDatabase.empty with
    subscriptionPlans := [⟨sampleId 2, defaultTenantId, .active, "USD", .month, 10, 10, stores_ten⟩]
    subscriptions := [⟨sampleId 1, defaultTenantId, none, sampleId 3, sampleId 2, .active, "USD",
      0, 30, none, none⟩]
    effectiveAt := fun _ => 0 }

/-- Plan a renewal; its event gets the given identifier. -/
def planRenewal (eventId : Uuid) (targetPlanId : Option Uuid) : SchedulerInput :=
  .plan 30 (fun _ => ⟨30, eventId, Uuid.nil, Uuid.nil⟩)
    ⟨some "apply", none, some "renewal", targetPlanId, none, some "monthly run"⟩

def applyEvent (eventId newRowId : Uuid) : SchedulerInput :=
  .execute ⟨30, Uuid.nil, newRowId, newRowId⟩ .apply eventId

theorem renewal_grants_match_periods_twice :
    let inputs := [planRenewal (sampleId 10) none, applyEvent (sampleId 10) (sampleId 20),
      planRenewal (sampleId 11) none, applyEvent (sampleId 11) (sampleId 21)]
    let reached := stateAfter (step sampleSchedulerRuntime (sampleId 1)) (start subscribed) inputs
    StepsMeet (step sampleSchedulerRuntime (sampleId 1)) (GuardsAgree (sampleId 1))
        (start subscribed) inputs ∧
      reached.grantedPeriodEnds.length = reached.advancedPeriodEnds.length ∧
      reached.grantedPeriodEnds.Nodup ∧ reached.advancedPeriodEnds.Nodup := by
  intro inputs reached
  have guards : StepsMeet (step sampleSchedulerRuntime (sampleId 1)) (GuardsAgree (sampleId 1))
      (start subscribed) inputs := by
    decide +kernel
  exact ⟨guards, renewal_grants_match_periods sampleSchedulerRuntime (sampleId 1) subscribed
    inputs guards inputs [] (by simp)⟩

/-- A subscription that was cancelled after its renewal was planned is still
granted the credit, and a renewal that was planned for two target plans is
granted twice for one period end. -/
theorem renewal_grants_differ_from_periods :
    (let reached := stateAfter (step sampleSchedulerRuntime (sampleId 1)) (start subscribed)
      [planRenewal (sampleId 10) none, .changeStatus (sampleId 1) .cancelled,
        applyEvent (sampleId 10) (sampleId 20)]
    reached.grantedPeriodEnds = [30] ∧ reached.advancedPeriodEnds = []) ∧
    (let reached := stateAfter (step sampleSchedulerRuntime (sampleId 1)) (start subscribed)
      [planRenewal (sampleId 10) none, planRenewal (sampleId 11) (some (sampleId 2)),
        applyEvent (sampleId 10) (sampleId 20), applyEvent (sampleId 11) (sampleId 21)]
    reached.grantedPeriodEnds = [30, 30] ∧ reached.advancedPeriodEnds = [30, 60]) := by
  decide +kernel

end RenewalSystem

end FuboxApi
