import FuboxApi.JsonDocument
import FuboxApi.RateLimitPlanner

/-!
# Persisted rate-limit reservations of provider keys

The window of a provider key is a JSON document in its row. A plan computed from it says whether a
reservation can be written; the SQL statements decide the same against the row itself.
-/

namespace FuboxApi

abbrev ProviderKeyRateLimitReservationOperation := RateLimitReservationOperation

inductive ProviderKeyRateLimitReservationStatus where
  | sqlReady
  | refused
  | noop
deriving DecidableEq

inductive ProviderKeyRateLimitReservationRefusal where
  | invalidRequired
  | invalidLimit
  | missingWindow
  | invalidWindow
  | overLimit

inductive ProviderKeyRateLimitDimensionStatus where
  | unlimited
  | windowReady
  | missingWindow
  | invalidWindow
  | invalidLimit
  | invalidRequired
  | overLimit
deriving DecidableEq

abbrev ProviderKeyRateLimitCounterUpdate := RateLimitCounterUpdate

abbrev ProviderKeyRateLimitRequiredCapacity := PerDimension Int64

structure ProviderKeyRateLimitReservationPersistenceInput where
  tenantId : Uuid
  providerKeyId : Uuid
  channelId : Uuid
  operation : ProviderKeyRateLimitReservationOperation
  reservationAcquired : Bool
  limits : PerDimension (Option Int32)
  currentWindowState : JsonDocument
  required : ProviderKeyRateLimitRequiredCapacity

/-- A counter as it is read from the window: a value is an `i64`. -/
inductive CounterRead where
  | missing
  | invalid
  | value (used : Int)
deriving DecidableEq

/-- Whether a number fits `i64`, or `bigint`. -/
def FitsBigint (number : Int) : Prop :=
  -2 ^ 63 ≤ number ∧ number < 2 ^ 63

instance (number : Int) : Decidable (FitsBigint number) :=
  inferInstanceAs (Decidable (_ ∧ _))

def parseCounterValue (value : JsonDocument) : CounterRead :=
  match value with
  | .integer number => if FitsBigint number then .value number else .invalid
  | _ => .invalid

/-- Where the plan looks for a counter, the first hit counts. -/
def counterPaths : RateLimitDimension → List (List String)
  | .requestsPerMinute =>
    [["rpm", "used"], ["requests_per_minute", "used"], ["rpm_used"], ["requests_per_minute_used"]]
  | .tokensPerMinute =>
    [["tpm", "used"], ["tokens_per_minute", "used"], ["tpm_used"], ["tokens_per_minute_used"]]
  | .concurrency =>
    [["concurrency", "used"], ["active_concurrency"], ["in_flight"], ["concurrency_used"]]

def readWindowCounter (state : JsonDocument) (paths : List (List String)) : CounterRead :=
  match paths.findSome? state.valueAt with
  | some value => parseCounterValue value
  | none => .missing

structure DimensionEvaluation where
  status : ProviderKeyRateLimitDimensionStatus
  limit : Option Nat
  used : Option Nat
  required : Nat
  windowPresent : Bool

def nonNegativeU64FromI32 (value : Int32) : Option Nat :=
  if 0 ≤ value then some value.toInt.toNat else none

def evaluateDimension (rawLimit : Option Int32) (counter : CounterRead) (rawRequired : Int64)
    (operation : ProviderKeyRateLimitReservationOperation) : DimensionEvaluation :=
  let required := clampToU64 rawRequired
  let present := decide (counter ≠ .missing)
  if rawRequired < 0 then
    ⟨.invalidRequired, rawLimit.bind nonNegativeU64FromI32, none, required, present⟩
  else
    match rawLimit with
    | none => ⟨.unlimited, none, none, required, present⟩
    | some limit =>
      if limit ≤ 0 then ⟨.invalidLimit, none, none, required, present⟩
      else
        let limit := limit.toInt.toNat
        match counter with
        | .missing => ⟨.missingWindow, some limit, none, required, false⟩
        | .invalid => ⟨.invalidWindow, some limit, none, required, true⟩
        | .value used =>
          if used < 0 then ⟨.invalidWindow, some limit, none, required, true⟩
          else
            let overLimit := operation = .acquire ∧ saturatingAddU64 used.toNat required > limit
            ⟨if overLimit then .overLimit else .windowReady, some limit, some used.toNat,
              required, true⟩

structure ProviderKeyRateLimitReservationDimensionPlan where
  status : ProviderKeyRateLimitDimensionStatus
  limit : Option Nat
  usedBefore : Option Nat
  required : Nat
  usedAfter : Option Nat
  counterUpdate : ProviderKeyRateLimitCounterUpdate
  windowPresent : Bool
  saturatedRelease : Bool

structure ProviderKeyRateLimitReservationPersistencePlan where
  operation : ProviderKeyRateLimitReservationOperation
  status : ProviderKeyRateLimitReservationStatus
  refusalReason : Option ProviderKeyRateLimitReservationRefusal
  tenantId : Uuid
  providerKeyId : Uuid
  channelId : Uuid
  dimensions : PerDimension ProviderKeyRateLimitReservationDimensionPlan
  counterUpdatesPlanned : Nat

variable (operation : ProviderKeyRateLimitReservationOperation)

def persistenceStatus (reservationAcquired : Bool)
    (evaluations : PerDimension DimensionEvaluation) :
    ProviderKeyRateLimitReservationStatus × Option ProviderKeyRateLimitReservationRefusal :=
  let anyIs := fun status => evaluations.toList.any fun evaluation => evaluation.status = status
  if operation = .release && !reservationAcquired then (.noop, none)
  else if anyIs .invalidRequired then (.refused, some .invalidRequired)
  else if anyIs .invalidLimit then (.refused, some .invalidLimit)
  else if anyIs .missingWindow then (.refused, some .missingWindow)
  else if anyIs .invalidWindow then (.refused, some .invalidWindow)
  else if operation = .acquire && anyIs .overLimit then (.refused, some .overLimit)
  else (.sqlReady, none)

def persistenceCounterUpdate (status : ProviderKeyRateLimitReservationStatus)
    (evaluation : DimensionEvaluation) : ProviderKeyRateLimitCounterUpdate :=
  if status ≠ .sqlReady || evaluation.limit.isNone || evaluation.used.isNone ||
      evaluation.required == 0 then
    .none
  else
    match operation with
    | .acquire => .increment
    | .release => .decrement

def persistenceDimensionPlan (status : ProviderKeyRateLimitReservationStatus)
    (evaluation : DimensionEvaluation) : ProviderKeyRateLimitReservationDimensionPlan :=
  let counterUpdate := persistenceCounterUpdate operation status evaluation
  { status := evaluation.status
    limit := evaluation.limit
    usedBefore := evaluation.used
    required := evaluation.required
    usedAfter := evaluation.used.map fun used =>
      match counterUpdate with
      | .increment => saturatingAddU64 used evaluation.required
      | .decrement => used - evaluation.required
      | .none => used
    counterUpdate
    windowPresent := evaluation.windowPresent
    saturatedRelease := counterUpdate = .decrement &&
      evaluation.used.any (· < evaluation.required) }

def persistenceEvaluations (input : ProviderKeyRateLimitReservationPersistenceInput) :
    PerDimension DimensionEvaluation :=
  .ofFn fun dimension =>
    evaluateDimension (input.limits.get dimension)
      (readWindowCounter input.currentWindowState (counterPaths dimension))
      (input.required.get dimension) input.operation

def buildProviderKeyRateLimitReservationPersistencePlan
    (input : ProviderKeyRateLimitReservationPersistenceInput) :
    ProviderKeyRateLimitReservationPersistencePlan :=
  let evaluations := persistenceEvaluations input
  let decided := persistenceStatus input.operation input.reservationAcquired evaluations
  let plansFor := fun status => PerDimension.ofFn fun dimension =>
    persistenceDimensionPlan input.operation status (evaluations.get dimension)
  let updates := ((plansFor decided.1).toList.filter fun plan => plan.counterUpdate ≠ .none).length
  let idle := decided.1 = .sqlReady ∧ updates = 0
  let status := if idle then .noop else decided.1
  { operation := input.operation
    status
    refusalReason := decided.2
    tenantId := input.tenantId
    providerKeyId := input.providerKeyId
    channelId := input.channelId
    dimensions := plansFor status
    counterUpdatesPlanned := updates }

end FuboxApi
