import FuboxApi.LedgerAdjustments

/-!
# Planning subscription events

A plan call writes a scheduled event for each event type that it plans, unless its idempotency hash
is taken. The inserts are statements of their own, so that those before a failed one stay. The
permission of the session and the answer are left out.
-/

namespace FuboxApi

open CheckedFold SubscriptionScheduler

inductive SchedulerPlanMode where
  | dryRun
  | apply
deriving DecidableEq

inductive SchedulerAction where
  | all
  | renewal
  | grace
  | dunning
  | proration
deriving DecidableEq

structure SubscriptionSchedulerPlanRequest where
  mode : Option String
  subscriptionId : Option Uuid
  action : Option String
  targetPlanId : Option Uuid
  limit : Option Int
  reason : Option String

/-- What a plan call takes from the database server beside the tables. The
`order by` of the candidates reads `updated_at`, which the tables leave out. -/
structure SchedulerRuntime extends ControlPlaneRuntime where
  addDays : Nat → Int → Int
  timestampText : Int → String
  candidateOrder : Int → List SubscriptionRow → List SubscriptionRow

/-- The tables with the column `effective_at` of the events. -/
structure SchedulerDatabase extends BillingDatabase where
  effectiveAt : Uuid → Int

def SubscriptionEventType.asStr : SubscriptionEventType → String
  | create => "create"
  | trialEnd => "trial_end"
  | activate => "activate"
  | renew => "renew"
  | pause => "pause"
  | resume => "resume"
  | cancel => "cancel"
  | prorate => "prorate"
  | paymentFailed => "payment_failed"
  | dunning => "dunning"
  | expire => "expire"
  | terminate => "terminate"
  | refusal => "refusal"
  | reconciliation => "reconciliation"

namespace SubscriptionPlanning

/-! ## The request -/

def normalizeSubscriptionSchedulerMode (mode : Option String) : AdminResult SchedulerPlanMode :=
  match String.ofList ((RustText.trim (mode.getD "dry_run").toList).map Char.toLower) with
  | "dry_run" | "dry-run" | "plan" => .ok .dryRun
  | "apply" => .ok .apply
  | _ => .error (.badRequest "mode must be dry_run or apply")

def normalizeSubscriptionSchedulerAction (action : Option String) : AdminResult SchedulerAction :=
  match String.ofList ((RustText.trim (action.getD "all").toList).map Char.toLower) with
  | "all" => .ok .all
  | "renewal" | "renew" => .ok .renewal
  | "grace" => .ok .grace
  | "dunning" => .ok .dunning
  | "proration" | "prorate" => .ok .proration
  | _ => .error (.badRequest "action must be all, renewal, grace, dunning, or proration")

def billingReadDefaultLimit : Int := 50

def billingReadMaxLimit : Int := 500

def billingReadLimit (limit : Option Int) : AdminResult Int := do
  let limit := limit.getD billingReadDefaultLimit
  ensure (1 ≤ limit) (.badRequest "limit must be at least 1")
  return min limit billingReadMaxLimit

/-- A request that passed its checks. -/
structure SchedulerPlan where
  mode : SchedulerPlanMode
  action : SchedulerAction
  limit : Int
  subscriptionId : Option Uuid
  targetPlanId : Option Uuid

def normalizePlanRequest (request : SubscriptionSchedulerPlanRequest) :
    AdminResult SchedulerPlan := do
  let mode ← normalizeSubscriptionSchedulerMode request.mode
  let action ← normalizeSubscriptionSchedulerAction request.action
  let limit ← billingReadLimit request.limit
  let reason ← request.reason.mapM (nonEmpty · "reason")
  ensure (mode = .apply → reason ≠ none) (.badRequest "reason is required for apply mode")
  ensure (action = .proration → request.targetPlanId ≠ none)
    (.badRequest "target_plan_id is required when action is proration")
  return ⟨mode, action, limit, request.subscriptionId, request.targetPlanId⟩

/-! ## The planned events -/

def plannedEventTypes (status : SubscriptionStatus) (action : SchedulerAction)
    (targetPlanId : Option Uuid) (currentPlanId : Uuid) : List SubscriptionEventType :=
  match action with
  | .renewal => [.renew]
  | .grace => [.paymentFailed]
  | .dunning => if status = .paymentFailed then [.dunning, .expire] else []
  | .proration => if targetPlanId.any (· ≠ currentPlanId) then [.prorate] else []
  | .all => if status = .paymentFailed then [.dunning, .expire] else [.renew]

variable (runtime : SchedulerRuntime)

def eventEffectiveAt (row : SubscriptionRow) : SubscriptionEventType → Option Int
  | .renew => some row.currentPeriodEnd
  | .dunning => some (runtime.addDays 4 row.currentPeriodEnd)
  | .expire => some (runtime.addDays 7 row.currentPeriodEnd)
  | _ => none

def idempotencyHash (tenantId subscriptionId : Uuid) (eventType : SubscriptionEventType)
    (effectiveAt : String) (targetPlanId : Option Uuid) : String :=
  runtime.sha256Hex
    ("subscription-scheduler:v1:" ++ tenantId.toText ++ ":" ++ subscriptionId.toText ++ ":" ++
      eventType.asStr ++ ":" ++ effectiveAt ++ ":" ++ (targetPlanId.map Uuid.toText).getD "none")

/-- The values that the insert of an event binds. -/
structure PlannedEvent where
  subscriptionId : Uuid
  eventType : SubscriptionEventType
  effectiveAt : Option Int
  idempotencyKeyHash : String
  targetPlanId : Option Uuid

def plannedEvent (targetPlanId : Option Uuid) (row : SubscriptionRow)
    (eventType : SubscriptionEventType) : PlannedEvent :=
  let effectiveAt := eventEffectiveAt runtime row eventType
  { subscriptionId := row.id
    eventType := eventType
    effectiveAt := effectiveAt
    idempotencyKeyHash := idempotencyHash runtime defaultTenantId row.id eventType
      ((effectiveAt.map runtime.timestampText).getD "now") targetPlanId
    targetPlanId := targetPlanId }

/-- The insert of an event, with `on conflict (tenant_id, idempotency_key_hash)
do update` that changes nothing. -/
def insertPlannedEvent (inputs : TransactionInputs) (planned : PlannedEvent)
    (database : SchedulerDatabase) : AdminResult SchedulerDatabase := do
  let effectiveAt ← okOr
    (.database (.notNullViolation "subscription_events_or_schedules" "effective_at"))
    (if planned.eventType = .prorate ∨ planned.eventType = .paymentFailed then some inputs.now
      else planned.effectiveAt)
  if ∃ event ∈ database.subscriptionEvents, event.tenantId = defaultTenantId ∧
      event.idempotencyKeyHash = planned.idempotencyKeyHash then
    return database
  else
    ensure (inputs.newRowId ∉ database.subscriptionEvents.map SubscriptionEventRow.id)
      (.database (.uniqueViolation "subscription_events_or_schedules" "id"))
    return { database with
      subscriptionEvents := database.subscriptionEvents ++
        [⟨inputs.newRowId, defaultTenantId, planned.subscriptionId, planned.eventType,
          .scheduled, planned.idempotencyKeyHash, none, none, planned.targetPlanId⟩]
      effectiveAt := Function.update database.effectiveAt inputs.newRowId effectiveAt }

def planCandidates (now : Int) (plan : SchedulerPlan) (database : BillingDatabase) :
    List SubscriptionRow :=
  (runtime.candidateOrder now (database.subscriptions.filter fun row =>
    row.tenantId = defaultTenantId ∧ (∀ id ∈ plan.subscriptionId, row.id = id) ∧
      row.status ∈ [SubscriptionStatus.created, .trialing, .active, .renewed, .resumed,
        .paymentFailed] ∧ ∃ other ∈ database.subscriptionPlans,
        other.tenantId = row.tenantId ∧ other.id = row.planId)).take plan.limit.toNat

def plannedEvents (plan : SchedulerPlan) (rows : List SubscriptionRow) : List PlannedEvent :=
  rows.flatMap fun row =>
    (plannedEventTypes row.status plan.action plan.targetPlanId row.planId).map
      (plannedEvent runtime plan.targetPlanId row)

/-- Insert the events one after another, until an insert fails. -/
def applyEvents : List (PlannedEvent × TransactionInputs) → SchedulerDatabase →
    AdminResult Unit × SchedulerDatabase
  | [], database => (.ok (), database)
  | (planned, inputs) :: rest, database =>
    match insertPlannedEvent inputs planned database with
    | .ok inserted => applyEvents rest inserted
    | .error error => (.error error, database)

/-- The call, with the time of its query and what each of its inserts takes
from the server. -/
def planSubscriptionScheduler (now : Int) (inserts : Nat → TransactionInputs)
    (request : SubscriptionSchedulerPlanRequest) (database : SchedulerDatabase) :
    AdminResult Unit × SchedulerDatabase :=
  match normalizePlanRequest request with
  | .error error => (.error error, database)
  | .ok plan =>
    let events := plannedEvents runtime plan
      (planCandidates runtime now plan database.toBillingDatabase)
    match plan.mode with
    | .dryRun => (.ok (), database)
    | .apply =>
      applyEvents (events.zipIdx.map fun event => (event.1, inserts event.2)) database

end SubscriptionPlanning

/-! ## Plan calls, executions and changes of a status -/

inductive SchedulerInput where
  | plan (now : Int) (inserts : Nat → TransactionInputs)
      (request : SubscriptionSchedulerPlanRequest)
  | execute (inputs : TransactionInputs) (mode : SchedulerMode) (eventId : Uuid)
  | changeStatus (subscriptionId : Uuid) (status : SubscriptionStatus)

namespace SchedulerDatabase

/-- An execution that fails is rolled back. -/
def execute (runtime : SchedulerRuntime) (inputs : TransactionInputs) (mode : SchedulerMode)
    (eventId : Uuid) (database : SchedulerDatabase) : SchedulerDatabase :=
  match applySubscriptionSchedulerLocalExecution runtime.toControlPlaneRuntime inputs mode
      defaultTenantId eventId database.toBillingDatabase with
  | .ok (_, after) => { database with toBillingDatabase := after }
  | .error _ => database

def changeStatus (subscriptionId : Uuid) (status : SubscriptionStatus)
    (database : SchedulerDatabase) : SchedulerDatabase :=
  { database with
    subscriptions := database.subscriptions.map fun row =>
      if row.tenantId = defaultTenantId ∧ row.id = subscriptionId then
        { row with status := status }
      else row }

def transition (runtime : SchedulerRuntime) (database : SchedulerDatabase) :
    SchedulerInput → SchedulerDatabase
  | .plan now inserts request =>
    (SubscriptionPlanning.planSubscriptionScheduler runtime now inserts request database).2
  | .execute inputs mode eventId => database.execute runtime inputs mode eventId
  | .changeStatus subscriptionId status => database.changeStatus subscriptionId status

end SchedulerDatabase

end FuboxApi
