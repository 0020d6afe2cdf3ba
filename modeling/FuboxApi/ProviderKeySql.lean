import FuboxApi.ProviderKeyReservations

/-!
# The SQL statements for provider-key reservations

Both statements lock the row of a key, read the counters of its limited dimensions, check that the
reservation is possible, and write the new counters back. A counter that is no `bigint` aborts the
statement.
-/

namespace FuboxApi

open CheckedFold

inductive ProviderKeyStatus where
  | enabled
  | degraded
  | cooldown
  | recoveryProbe
  | authFailed
  | quotaExhausted
  | manualDisabled
  | deleted
deriving DecidableEq

structure ProviderKeyRow where
  tenantId : Uuid
  id : Uuid
  channelId : Uuid
  status : ProviderKeyStatus
  deletedAt : Option Nat
  limits : PerDimension (Option Int32)
  currentWindowState : JsonDocument

inductive SqlError where
  | invalidTextRepresentation
  | numericValueOutOfRange

/-- The parameters of the statements; only the release statement reads the last
one. -/
structure ReservationBinds where
  tenantId : Uuid
  providerKeyId : Uuid
  channelId : Uuid
  required : PerDimension Int64
  reservationAcquired : Bool

variable (operation : ProviderKeyRateLimitReservationOperation)

/-- The conditions on the row that `scoped_provider_key` selects. -/
def scopedProviderKey (binds : ReservationBinds) (row : ProviderKeyRow) : Bool :=
  row.tenantId = binds.tenantId && row.id = binds.providerKeyId &&
    row.channelId = binds.channelId && row.deletedAt.isNone &&
    row.status ≠ .manualDisabled && row.status ≠ .deleted &&
    (operation = .acquire || binds.reservationAcquired)

/-- The field of the window that holds the counter of a dimension. -/
def windowField : RateLimitDimension → String
  | .requestsPerMinute => "rpm"
  | .tokensPerMinute => "tpm"
  | .concurrency => "concurrency"

/-- The text of a number, cast to `bigint`. -/
def castBigint : JsonDocument → Except SqlError Int
  | .integer number =>
    if FitsBigint number then .ok number else .error .numericValueOutOfRange
  | _ => .error .invalidTextRepresentation

def addBigint (left right : Int) : Except SqlError Int :=
  if FitsBigint (left + right) then .ok (left + right) else .error .numericValueOutOfRange

/-- A counter column of `window_values`. -/
def windowValue (row : ProviderKeyRow) (dimension : RateLimitDimension) :
    Except SqlError (Option Int) :=
  match row.limits.get dimension with
  | none => .ok none
  | some _ =>
    match row.currentWindowState.valueAt [windowField dimension, "used"] with
    | some value => if value.isNumber then (castBigint value).map some else .ok none
    | none => .ok none

/-- The condition of `eligible` on one dimension. -/
def eligibleDimension (limit : Option Int32) (used : Option Int) (required : Int64) :
    Except SqlError Bool :=
  match limit, used with
  | none, _ => .ok true
  | some _, none => .ok false
  | some limit, some used =>
    if 0 < limit.toInt ∧ 0 ≤ used then
      match operation with
      | .acquire => (addBigint used required.toInt).map fun sum => sum ≤ limit.toInt
      | .release => .ok true
    else .ok false

def writtenCounter (used : Int) (required : Int64) : Int :=
  match operation with
  | .acquire => used + required.toInt
  | .release => max (used - required.toInt) 0

/-- The window after one counter is written; a dimension without a limit has
none. -/
def writeCounter (used : PerDimension (Option Int)) (required : PerDimension Int64)
    (state : JsonDocument) (dimension : RateLimitDimension) : JsonDocument :=
  match used.get dimension with
  | some value => state.setInner (windowField dimension) "used"
      (.integer (writtenCounter operation value (required.get dimension)))
  | none => state

/-- The new window. -/
def writeCounters (used : PerDimension (Option Int)) (required : PerDimension Int64)
    (state : JsonDocument) : JsonDocument :=
  RateLimitDimension.all.foldl (writeCounter operation used required) state

/-- The conditions of `eligible` that do not read the window. -/
def requestEligible (limits : PerDimension (Option Int32)) (required : PerDimension Int64) : Bool :=
  required.toList.all (fun amount => 0 ≤ amount) && RateLimitDimension.all.any fun dimension =>
      (limits.get dimension).isSome && 0 < required.get dimension

/-- A statement on one row: the row it leaves, if it updates the row. -/
def reservationSql (binds : ReservationBinds) (row : ProviderKeyRow) :
    Except SqlError (Option ProviderKeyRow) :=
  if scopedProviderKey operation binds row then do
    let used ← PerDimension.ofFnM (windowValue row)
    let eligible ← PerDimension.ofFnM fun dimension =>
      eligibleDimension operation (row.limits.get dimension) (used.get dimension)
        (binds.required.get dimension)
    return if requestEligible row.limits binds.required && eligible.toList.all id then
      some { row with currentWindowState :=
          writeCounters operation used binds.required row.currentWindowState }
    else none
  else .ok none

end FuboxApi
