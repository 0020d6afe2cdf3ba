import FuboxApi.CheckedFold
import FuboxApi.RouteSelection

/-!
# Rate-limit reservations

A reservation is acquired in all three limited dimensions or in none, and released with the amounts
it was acquired with. The planner only says which counters change and to what.
-/

namespace FuboxApi

inductive RateLimitDimension where
  | requestsPerMinute
  | tokensPerMinute
  | concurrency
deriving DecidableEq

def RateLimitDimension.all : List RateLimitDimension :=
  [.requestsPerMinute, .tokensPerMinute, .concurrency]

/-- One value for each dimension, in the order of the planner's arrays. -/
@[ext]
structure PerDimension (Value : Type) where
  requestsPerMinute : Value
  tokensPerMinute : Value
  concurrency : Value
deriving DecidableEq

namespace PerDimension

variable {Value Other : Type}

def get (values : PerDimension Value) : RateLimitDimension → Value
  | .requestsPerMinute => values.requestsPerMinute
  | .tokensPerMinute => values.tokensPerMinute
  | .concurrency => values.concurrency

def ofFn (value : RateLimitDimension → Value) : PerDimension Value :=
  ⟨value .requestsPerMinute, value .tokensPerMinute, value .concurrency⟩

def toList (values : PerDimension Value) : List Value :=
  [values.requestsPerMinute, values.tokensPerMinute, values.concurrency]

/-- The values of three computations, unless one of them fails. -/
def ofFnM {Failure : Type} (value : RateLimitDimension → Except Failure Value) :
    Except Failure (PerDimension Value) := do
  let requestsPerMinute ← value .requestsPerMinute
  let tokensPerMinute ← value .tokensPerMinute
  let concurrency ← value .concurrency
  return ⟨requestsPerMinute, tokensPerMinute, concurrency⟩

@[simp]
theorem get_ofFn (value : RateLimitDimension → Value) (dimension : RateLimitDimension) :
    (ofFn value).get dimension = value dimension := by
  cases dimension <;> rfl

theorem ext_get {left right : PerDimension Value}
    (same : ∀ dimension, left.get dimension = right.get dimension) : left = right :=
  PerDimension.ext (same .requestsPerMinute) (same .tokensPerMinute) (same .concurrency)

theorem forall_dimension {holds : RateLimitDimension → Prop} : (∀ dimension, holds dimension) ↔
      holds .requestsPerMinute ∧ holds .tokensPerMinute ∧ holds .concurrency := by
  constructor
  · intro all
    exact ⟨all _, all _, all _⟩
  · rintro ⟨requests, tokens, concurrency⟩ dimension
    cases dimension <;> assumption

variable {values : PerDimension Value} {check : Value → Bool}

theorem forall_mem_toList {holds : Value → Prop} :
    (∀ value ∈ values.toList, holds value) ↔ ∀ dimension, holds (values.get dimension) := by
  simp [toList, forall_dimension, get]

@[simp]
theorem all_toList :
    values.toList.all check = true ↔ ∀ dimension, check (values.get dimension) = true := by
  simp [toList, forall_dimension, get]

@[simp]
theorem any_toList :
    values.toList.any check = true ↔ ∃ dimension, check (values.get dimension) = true := by
  rw [← not_iff_not, Bool.not_eq_true, not_exists, List.any_eq_false]
  simp [toList, forall_dimension, get]

theorem ofFnM_eq_ok {Failure : Type} {value : RateLimitDimension → Except Failure Value} :
    ofFnM value = .ok values ↔ ∀ dimension, value dimension = .ok (values.get dimension) := by
  rw [forall_dimension]
  constructor
  · intro computed
    obtain ⟨requests, requestsEq, computed⟩ := CheckedFold.bind_eq_ok.mp computed
    obtain ⟨tokens, tokensEq, computed⟩ := CheckedFold.bind_eq_ok.mp computed
    obtain ⟨concurrency, concurrencyEq, computed⟩ := CheckedFold.bind_eq_ok.mp computed
    rw [← Except.ok.inj computed]
    exact ⟨requestsEq, tokensEq, concurrencyEq⟩
  · rintro ⟨requestsEq, tokensEq, concurrencyEq⟩
    rw [ofFnM, requestsEq, tokensEq, concurrencyEq]
    rfl

end PerDimension

inductive RateLimitDimensionStatus where
  | unlimited
  | windowMissing
  | available
  | exceeded
  | invalidLimit
  | invalidRequired
deriving DecidableEq

structure RateLimitWindow where
  limit : Option Int64
  used : Option Int64
  required : Int64

structure RateLimitDimensionSummary where
  dimension : RateLimitDimension
  status : RateLimitDimensionStatus
  selectable : Bool
  limit : Option Nat
  used : Nat
  required : Nat
  remaining : Option Nat
  windowPresent : Bool
  sanitizedNegativeUsed : Bool

structure RateLimitAvailability where
  selectable : Bool
  filterReason : Option CandidateFilterReason
  blockingDimensions : List RateLimitDimension
  dimensions : PerDimension RateLimitDimensionSummary

/-- `value.max(0) as u64` -/
def clampToU64 (value : Int64) : Nat :=
  value.toInt.toNat

def nonNegativeU64 (value : Int64) : Option Nat :=
  if 0 ≤ value then some (clampToU64 value) else none

def evaluateRateLimitDimension (dimension : RateLimitDimension) (window : RateLimitWindow) :
    RateLimitDimensionSummary :=
  let required := clampToU64 window.required
  let used := clampToU64 (window.used.getD 0)
  let windowPresent := window.used.isSome
  let sanitized := window.used.any (· < 0)
  if window.required < 0 then
    { dimension, status := .invalidRequired, selectable := false,
      limit := window.limit.bind nonNegativeU64, used, required, remaining := none,
      windowPresent, sanitizedNegativeUsed := sanitized }
  else
    match window.limit with
    | none =>
      { dimension, status := .unlimited, selectable := true, limit := none, used, required,
        remaining := none, windowPresent, sanitizedNegativeUsed := sanitized }
    | some rawLimit =>
      if rawLimit < 0 then
        { dimension, status := .invalidLimit, selectable := false, limit := none, used,
          required, remaining := none, windowPresent, sanitizedNegativeUsed := sanitized }
      else
        let limit := clampToU64 rawLimit
        match window.used with
        | none =>
          { dimension, status := .windowMissing, selectable := false, limit := some limit,
            used := 0, required, remaining := some limit, windowPresent := false,
            sanitizedNegativeUsed := false }
        | some rawUsed =>
          let used := clampToU64 rawUsed
          let remaining := limit - used
          let selectable := used ≤ limit && required ≤ remaining
          { dimension, status := if selectable then .available else .exceeded, selectable,
            limit := some limit, used, required, remaining := some remaining,
            windowPresent := true, sanitizedNegativeUsed := rawUsed < 0 }

def evaluateRateLimitAvailability (windows : PerDimension RateLimitWindow) :
    RateLimitAvailability :=
  let dimensions := PerDimension.ofFn fun dimension =>
    evaluateRateLimitDimension dimension (windows.get dimension)
  let blockingDimensions :=
    (dimensions.toList.filter fun summary => !summary.selectable).map (·.dimension)
  let selectable := blockingDimensions.isEmpty
  { selectable
    filterReason := if selectable then none else some .rateLimitExceeded
    blockingDimensions
    dimensions }

inductive RateLimitReservationOperation where
  | acquire
  | release
deriving DecidableEq

inductive RateLimitReservationStatus where
  | acquired
  | rejected
  | released
  | releaseNoop
deriving DecidableEq

inductive RateLimitCounterUpdate where
  | none
  | increment
  | decrement
deriving DecidableEq

@[ext]
structure RateLimitCounterWindow where
  limit : Option Int64
  used : Option Int64

/-- The amounts a reservation takes, one for each dimension. -/
abbrev RateLimitRequiredCapacity := PerDimension Int64

structure RateLimitReservationInput where
  windows : PerDimension RateLimitCounterWindow
  required : RateLimitRequiredCapacity
  operation : RateLimitReservationOperation
  reservationAcquired : Bool

structure RateLimitReservationDimensionPlan where
  dimension : RateLimitDimension
  status : RateLimitDimensionStatus
  selectableForAcquire : Bool
  limit : Option Nat
  usedBefore : Nat
  required : Nat
  usedAfter : Nat
  remainingBefore : Option Nat
  remainingAfter : Option Nat
  windowPresent : Bool
  sanitizedNegativeUsed : Bool
  counterUpdate : RateLimitCounterUpdate
  saturatedRelease : Bool

structure RateLimitReservationPlan where
  operation : RateLimitReservationOperation
  status : RateLimitReservationStatus
  filterReason : Option CandidateFilterReason
  blockingDimensions : List RateLimitDimension
  dimensions : PerDimension RateLimitReservationDimensionPlan
  conservativeReject : Bool
  counterUpdatesPlanned : Nat

def reservationWindow (window : RateLimitCounterWindow) (required : Int64) : RateLimitWindow :=
  ⟨window.limit, window.used, required⟩

def reservationAvailabilityInput (input : RateLimitReservationInput) :
    PerDimension RateLimitWindow :=
  .ofFn fun dimension =>
    reservationWindow (input.windows.get dimension) (input.required.get dimension)

/-- Addition of `u64` values that stops at the largest one. -/
def saturatingAddU64 (left right : Nat) : Nat :=
  min (left + right) (2 ^ 64 - 1)

def counterUpdateForDimension (operation : RateLimitReservationOperation)
    (reservationStatus : RateLimitReservationStatus) (summary : RateLimitDimensionSummary) :
    RateLimitCounterUpdate :=
  if summary.limit.isNone || !summary.windowPresent || summary.required == 0 then .none
  else
    match operation, reservationStatus with
    | .acquire, .acquired => .increment
    | .release, .released => .decrement
    | _, _ => .none

def reservationDimensionPlan (operation : RateLimitReservationOperation)
    (reservationStatus : RateLimitReservationStatus) (summary : RateLimitDimensionSummary) :
    RateLimitReservationDimensionPlan :=
  let counterUpdate := counterUpdateForDimension operation reservationStatus summary
  let usedAfter :=
    match counterUpdate with
    | .increment => saturatingAddU64 summary.used summary.required
    | .decrement => summary.used - summary.required
    | .none => summary.used
  { dimension := summary.dimension
    status := summary.status
    selectableForAcquire := summary.selectable
    limit := summary.limit
    usedBefore := summary.used
    required := summary.required
    usedAfter
    remainingBefore := summary.remaining
    remainingAfter := summary.limit.map (· - usedAfter)
    windowPresent := summary.windowPresent
    sanitizedNegativeUsed := summary.sanitizedNegativeUsed
    counterUpdate
    saturatedRelease := counterUpdate = .decrement && summary.required > summary.used }

def reservationStatus (input : RateLimitReservationInput) (availability : RateLimitAvailability) :
    RateLimitReservationStatus :=
  let invalidRequired :=
    availability.dimensions.toList.any fun summary => summary.status = .invalidRequired
  match input.operation with
  | .acquire => if availability.selectable then .acquired else .rejected
  | .release =>
    if !input.reservationAcquired then .releaseNoop
    else if invalidRequired then .rejected
    else .released

def planRateLimitReservation (input : RateLimitReservationInput) : RateLimitReservationPlan :=
  let availability := evaluateRateLimitAvailability (reservationAvailabilityInput input)
  let status := reservationStatus input availability
  let dimensions := PerDimension.ofFn fun dimension =>
    reservationDimensionPlan input.operation status (availability.dimensions.get dimension)
  { operation := input.operation
    status
    filterReason := if status = .rejected then some .rateLimitExceeded else none
    blockingDimensions :=
      if status = .rejected then
        (availability.dimensions.toList.filter fun summary => !summary.selectable).map (·.dimension)
      else []
    dimensions
    conservativeReject := status = .rejected &&
      availability.dimensions.toList.any fun summary => summary.status = .windowMissing
    counterUpdatesPlanned :=
      (dimensions.toList.filter fun plan => plan.counterUpdate ≠ .none).length }

end FuboxApi
