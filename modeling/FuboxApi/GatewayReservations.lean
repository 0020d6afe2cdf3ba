import FuboxApi.KeyedTables
import FuboxApi.PaidReserves
import FuboxApi.ProviderKeySql
import FuboxApi.RustText

/-!
# The reservations of a gateway attempt

An attempt plans a reservation against the window that routing read, and is executable when the
acquire statement was applied or had nothing to do. A release runs at most once, and only after an
applied acquire.
-/

namespace FuboxApi

open CheckedFold

structure ResolvedChatRoute where
  canonicalModelId : Uuid
  providerId : Uuid
  channelId : Uuid
  providerKeyId : Uuid
  protocolMode : String
  providerKeyLimits : PerDimension (Option Int32)
  providerKeyCurrentWindowState : JsonDocument

def routeUsesGeminiAdapter (route : ResolvedChatRoute) : Bool :=
  route.protocolMode = "gemini" || route.protocolMode = "gemini_generate_content"

/-- The counter in a value of the window: a number, the text of one, or the
field `used`. -/
def windowStateUsedValue (value : JsonDocument) : Option Int64 :=
  match value with
  | .integer number =>
    if FitsBigint number then some (Int64.ofInt number) else none
  | .string text => (RustText.parseI64 (RustText.trim text.toList)).map Int64.ofInt
  | document =>
    match _found : document.field "used" with
    | some used => windowStateUsedValue used
    | none => none
termination_by sizeOf value
decreasing_by exact JsonDocument.sizeOf_field_lt _found

def windowStateKeys : RateLimitDimension → List String
  | .requestsPerMinute => ["requests_per_minute_used", "rpm_used", "requests_per_minute", "rpm"]
  | .tokensPerMinute => ["tokens_per_minute_used", "tpm_used", "tokens_per_minute", "tpm"]
  | .concurrency => ["concurrency_used", "active_concurrency", "in_flight", "concurrency"]

def windowStateUsedForDimension (state : JsonDocument) (dimension : RateLimitDimension) :
    Option Int64 :=
  (windowStateKeys dimension).findSome? fun key =>
    (state.field key).bind windowStateUsedValue

def routeRateLimitCounterWindow (limit : Option Int32) (used : Option Int64) :
    RateLimitCounterWindow :=
  match limit with
  | some limit => ⟨some limit.toInt64, used⟩
  | none => ⟨none, none⟩

def routeRateLimitReservationPlan (route : ResolvedChatRoute)
    (operation : RateLimitReservationOperation) (reservationAcquired : Bool)
    (required : RateLimitRequiredCapacity) : RateLimitReservationPlan :=
  planRateLimitReservation {
    windows := .ofFn fun dimension =>
      routeRateLimitCounterWindow (route.providerKeyLimits.get dimension)
        (windowStateUsedForDimension route.providerKeyCurrentWindowState dimension)
    required
    operation
    reservationAcquired }

/-! ## Executing a reservation -/

structure ProviderKeyRateLimitReservationExecutionInput where
  tenantId : Uuid
  providerKeyId : Uuid
  channelId : Uuid
  operation : ProviderKeyRateLimitReservationOperation
  reservationAcquired : Bool
  required : ProviderKeyRateLimitRequiredCapacity

inductive ProviderKeyRateLimitReservationExecutionStatus where
  | applied
  | notApplied
  | refused
  | noop
deriving DecidableEq

variable (input : ProviderKeyRateLimitReservationExecutionInput)

def executionCommandStatus : ProviderKeyRateLimitReservationStatus :=
  if input.required.toList.any (· < 0) then .refused
  else if input.required.toList.all (· ≤ 0) then .noop
  else if input.operation = .release && !input.reservationAcquired then .noop
  else .sqlReady

def ProviderKeyRateLimitReservationExecutionInput.binds : ReservationBinds :=
  ⟨input.tenantId, input.providerKeyId, input.channelId, input.required, input.reservationAcquired⟩

abbrev ProviderKeyTable := KeyedTable ProviderKeyRow.id

def executeProviderKeyRateLimitReservation (table : ProviderKeyTable) :
    Except SqlError (ProviderKeyRateLimitReservationExecutionStatus × ProviderKeyTable) :=
  match executionCommandStatus input with
  | .refused => .ok (.refused, table)
  | .noop => .ok (.noop, table)
  | .sqlReady => do
      let (updated, next) ← table.tryUpdateAt input.providerKeyId
        (reservationSql input.operation input.binds)
      return (if updated then .applied else .notApplied, next)

/-! ## The reservation of an attempt -/

structure GatewayRateLimitReservationAttempt where
  acquire : RateLimitReservationPlan
  requiredCapacity : RateLimitRequiredCapacity
  dbAcquire : Option ProviderKeyRateLimitReservationExecutionStatus
  dbReleaseAttempted : Bool

/-- One request, the estimated tokens, one slot. -/
def gatewayRateLimitRequiredCapacity (requiredTokens : Int64) : RateLimitRequiredCapacity :=
  ⟨1, requiredTokens, 1⟩

def gatewayRateLimitReservationForAttempt (route : ResolvedChatRoute) (requiredTokens : Int64) :
    GatewayRateLimitReservationAttempt where
  acquire := routeRateLimitReservationPlan route .acquire false
    (gatewayRateLimitRequiredCapacity requiredTokens)
  requiredCapacity := gatewayRateLimitRequiredCapacity requiredTokens
  dbAcquire := none
  dbReleaseAttempted := false

namespace GatewayRateLimitReservationAttempt

variable (reservation : GatewayRateLimitReservationAttempt)

def acquired : Bool :=
  reservation.acquire.status = .acquired

def dbExecutionRequired : Bool :=
  0 < reservation.acquire.counterUpdatesPlanned

def dbAcquireAllowsAttempt : Bool :=
  match reservation.dbAcquire with
  | none => true
  | some status => status = .applied || status = .noop

def executable : Bool :=
  reservation.acquired && reservation.dbAcquireAllowsAttempt

def dbReleaseNeeded : Bool :=
  reservation.dbAcquire = some .applied && !reservation.dbReleaseAttempted

def recordDbAcquire (status : ProviderKeyRateLimitReservationExecutionStatus) :
    GatewayRateLimitReservationAttempt :=
  { reservation with dbAcquire := some status }

def recordDbRelease : GatewayRateLimitReservationAttempt :=
  { reservation with dbReleaseAttempted := true }

/-- The input of the acquire or release statement for a route. -/
def executionInput (auth : AuthContext) (route : ResolvedChatRoute)
    (operation : ProviderKeyRateLimitReservationOperation) (reservationAcquired : Bool) :
    ProviderKeyRateLimitReservationExecutionInput where
  tenantId := auth.tenantId
  providerKeyId := route.providerKeyId
  channelId := route.channelId
  operation
  reservationAcquired
  required := reservation.requiredCapacity

end GatewayRateLimitReservationAttempt

end FuboxApi
