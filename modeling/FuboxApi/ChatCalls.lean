import FuboxApi.AsyncPrograms
import FuboxApi.GatewayReservations
import FuboxApi.SseDecoder
import FuboxApi.UsageRating

/-!
# The calls of the chat handler

Everything the chat completions handler waits for. A repository call may fail; the answers of the
outside world are arbitrary.
-/

namespace FuboxApi

inductive GatewayApiError where
  | databaseQueryFailed (operation : String)
  | billingInsufficientBalance
  | apiKeyRateLimited (dimension : String)
  | rateLimitReservationRejected
  | providerKeyService (code : String)
deriving DecidableEq

abbrev ApiResult :=
  Except GatewayApiError

inductive AdapterProviderTransportErrorKind where
  | timeout
  | connect
  | body
  | other
deriving DecidableEq

structure AdapterProviderErrorSignal where
  statusCode : Option Nat
  transport : Option AdapterProviderTransportErrorKind
deriving DecidableEq

inductive ProviderKeyRuntimeStatus where
  | authFailed
  | quotaExhausted
  | cooldown
  | degraded
deriving DecidableEq

def ProviderKeyRuntimeStatus.status : ProviderKeyRuntimeStatus → ProviderKeyStatus
  | .authFailed => .authFailed
  | .quotaExhausted => .quotaExhausted
  | .cooldown => .cooldown
  | .degraded => .degraded

/-- An error of an adapter: its signal, if it has one, and the status that its
classification gives the provider key. -/
structure AdapterError where
  signal : Option AdapterProviderErrorSignal
  runtimeStatusPatch : Option ProviderKeyRuntimeStatus
deriving DecidableEq

abbrev AdapterResult :=
  Except AdapterError

def errorSignalCanFallback (signal : AdapterProviderErrorSignal) : Bool :=
  match signal.statusCode, signal.transport with
  | some code, _ => code = 408 || code = 429 || (500 ≤ code && code ≤ 599)
  | none, some transport => transport ≠ .body
  | none, none => false

def providerErrorCanFallback (error : AdapterError) : Bool :=
  error.signal.any errorSignalCanFallback

structure PreAuthorizeReadModel where
  wallet : Option (String × ℚ)
  budgets : List (String × ℚ)

abbrev StreamUsageUpdate := RequestUsageUpdate

/-- The log writes of the handler. A failed write is only reported. -/
inductive GatewayLog where
  | requestRoute (requestId : Uuid)
  | requestFinished (requestId : Uuid) (succeeded : Bool)
  | providerAttemptFinished (attemptId : Uuid) (succeeded : Bool)
  | streamRequestFinished (requestId : Uuid) (endReason : StreamEndReason)
  | requestRouteMetadata (requestId : Uuid)
  | streamProviderAttemptFinished (attemptId : Uuid) (endReason : StreamEndReason)

/-- The calls. A price version is resolved for an estimate, or to rate the
given usage; the end of a stream is what its body reports to the finalizer. -/
inductive GatewayCall where
  | virtualKeyPaidHotPathBetaEnabled (auth : AuthContext)
  | resolveActivePriceVersion (canonicalModelId : Uuid) (rated : Option ExtendedTokenUsage)
  | resolvePreAuthorizeReadModel (auth : AuthContext) (currency : String)
  | insertPendingPaidReserve (auth : AuthContext) (entry : PaidReserveEntry)
  | releasePendingPaidReserve (auth : AuthContext) (requestId : Uuid) (reason : String)
  | insertConfirmedSettle (auth : AuthContext) (entry : LedgerSettleEntry)
  | acquireVirtualKeyConcurrencySlot (auth : AuthContext) (limit : Int32)
  | releaseVirtualKeyConcurrencySlot (auth : AuthContext)
  | acquireVirtualKeyRpmSlot (auth : AuthContext) (limit : Int32)
  | acquireVirtualKeyTpmCapacity (auth : AuthContext) (limit : Int32) (requiredTokens : Int64)
  | executeProviderKeyRateLimitReservation (input : ProviderKeyRateLimitReservationExecutionInput)
  | updateProviderKeyRuntimeStatus (auth : AuthContext)
      (providerKeyId channelId providerId : Uuid) (status : ProviderKeyRuntimeStatus)
  | createProviderAttemptStarted (requestId : Uuid) (attemptNo : Nat)
  | openProviderKeyForRoute (route : ResolvedChatRoute)
  | writeLog (log : GatewayLog)
  | validateProviderEndpoint (route : ResolvedChatRoute)
  | callProvider (route : ResolvedChatRoute)
  | openProviderStream (route : ResolvedChatRoute)
  | streamEnd

def GatewayCall.Answer : GatewayCall → Type
  | virtualKeyPaidHotPathBetaEnabled _ => ApiResult Bool
  | resolveActivePriceVersion _ _ => ApiResult (Option ResolvedPriceVersion)
  | resolvePreAuthorizeReadModel _ _ => ApiResult PreAuthorizeReadModel
  | insertPendingPaidReserve _ _ => ApiResult PaidReserveOutcome
  | releasePendingPaidReserve _ _ _ => ApiResult Bool
  | insertConfirmedSettle _ _ => ApiResult Bool
  | acquireVirtualKeyConcurrencySlot _ _ => ApiResult Bool
  | releaseVirtualKeyConcurrencySlot _ => ApiResult Unit
  | acquireVirtualKeyRpmSlot _ _ => ApiResult Bool
  | acquireVirtualKeyTpmCapacity _ _ _ => ApiResult Bool
  | executeProviderKeyRateLimitReservation _ =>
    ApiResult ProviderKeyRateLimitReservationExecutionStatus
  | updateProviderKeyRuntimeStatus _ _ _ _ _ => ApiResult Bool
  | createProviderAttemptStarted _ _ => ApiResult Uuid
  | openProviderKeyForRoute _ => ApiResult Unit
  | writeLog _ => ApiResult Unit
  | validateProviderEndpoint _ => AdapterResult Unit
  | callProvider _ => AdapterResult ProviderPayload
  | openProviderStream _ => AdapterResult Unit
  | streamEnd => StreamEndReason × StreamUsageUpdate

def GatewayCall.DatabaseFailed : (call : GatewayCall) → call.Answer → Prop
  | virtualKeyPaidHotPathBetaEnabled _, answer | resolveActivePriceVersion _ _, answer
  | resolvePreAuthorizeReadModel _ _, answer | insertPendingPaidReserve _ _, answer
  | releasePendingPaidReserve _ _ _, answer | insertConfirmedSettle _ _, answer
  | acquireVirtualKeyConcurrencySlot _ _, answer | releaseVirtualKeyConcurrencySlot _, answer
  | acquireVirtualKeyRpmSlot _ _, answer | acquireVirtualKeyTpmCapacity _ _ _, answer
  | executeProviderKeyRateLimitReservation _, answer
  | updateProviderKeyRuntimeStatus _ _ _ _ _, answer | createProviderAttemptStarted _ _, answer
  | writeLog _, answer => ∃ error, answer = .error error
  | openProviderKeyForRoute _, answer =>
    ∃ operation, answer = .error (.databaseQueryFailed operation)
  | validateProviderEndpoint _, _ | callProvider _, _ | openProviderStream _, _
  | streamEnd, _ => False

/-- Programs over these calls. -/
abbrev Handler := AsyncProgram GatewayCall.Answer

/-! ## The calls as programs -/

namespace Await

open AsyncProgram

variable (route : ResolvedChatRoute) (auth : AuthContext)

def virtualKeyPaidHotPathBetaEnabled : Handler (ApiResult Bool) :=
  perform (GatewayCall.virtualKeyPaidHotPathBetaEnabled auth)

def resolveActivePriceVersion (canonicalModelId : Uuid) (rated : Option ExtendedTokenUsage) :
    Handler (ApiResult (Option ResolvedPriceVersion)) :=
  perform (GatewayCall.resolveActivePriceVersion canonicalModelId rated)

def resolvePreAuthorizeReadModel (currency : String) : Handler (ApiResult PreAuthorizeReadModel) :=
  perform (GatewayCall.resolvePreAuthorizeReadModel auth currency)

def insertPendingPaidReserve (entry : PaidReserveEntry) : Handler (ApiResult PaidReserveOutcome) :=
  perform (GatewayCall.insertPendingPaidReserve auth entry)

def releasePendingPaidReserve (requestId : Uuid) (reason : String) : Handler (ApiResult Bool) :=
  perform (GatewayCall.releasePendingPaidReserve auth requestId reason)

def insertConfirmedSettle (entry : LedgerSettleEntry) : Handler (ApiResult Bool) :=
  perform (GatewayCall.insertConfirmedSettle auth entry)

def acquireVirtualKeyConcurrencySlot (limit : Int32) : Handler (ApiResult Bool) :=
  perform (GatewayCall.acquireVirtualKeyConcurrencySlot auth limit)

def releaseVirtualKeyConcurrencySlot : Handler (ApiResult Unit) :=
  perform (GatewayCall.releaseVirtualKeyConcurrencySlot auth)

def acquireVirtualKeyRpmSlot (limit : Int32) : Handler (ApiResult Bool) :=
  perform (GatewayCall.acquireVirtualKeyRpmSlot auth limit)

def acquireVirtualKeyTpmCapacity (limit : Int32) (requiredTokens : Int64) :
    Handler (ApiResult Bool) :=
  perform (GatewayCall.acquireVirtualKeyTpmCapacity auth limit requiredTokens)

def executeProviderKeyRateLimitReservation (input : ProviderKeyRateLimitReservationExecutionInput) :
    Handler (ApiResult ProviderKeyRateLimitReservationExecutionStatus) :=
  perform (GatewayCall.executeProviderKeyRateLimitReservation input)

def updateProviderKeyRuntimeStatus (providerKeyId channelId providerId : Uuid)
    (status : ProviderKeyRuntimeStatus) : Handler (ApiResult Bool) :=
  perform (GatewayCall.updateProviderKeyRuntimeStatus auth providerKeyId channelId providerId
    status)

def createProviderAttemptStarted (requestId : Uuid) (attemptNo : Nat) : Handler (ApiResult Uuid) :=
  perform (GatewayCall.createProviderAttemptStarted requestId attemptNo)

def openProviderKeyForRoute : Handler (ApiResult Unit) :=
  perform (GatewayCall.openProviderKeyForRoute route)

def writeLog (log : GatewayLog) : Handler (ApiResult Unit) :=
  perform (GatewayCall.writeLog log)

def validateProviderEndpoint : Handler (AdapterResult Unit) :=
  perform (GatewayCall.validateProviderEndpoint route)

def callProvider : Handler (AdapterResult ProviderPayload) :=
  perform (GatewayCall.callProvider route)

def openProviderStream : Handler (AdapterResult Unit) :=
  perform (GatewayCall.openProviderStream route)

def streamEnd : Handler (StreamEndReason × StreamUsageUpdate) :=
  perform GatewayCall.streamEnd

end Await

end FuboxApi
