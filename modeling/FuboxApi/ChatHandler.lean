import FuboxApi.ChatCalls
import FuboxApi.PricingDocument
import FuboxApi.PrintedAmounts

/-!
# The chat completions handler

The handler from the moment its request is logged: pre-authorization, the limits of the virtual key,
and the loop over the attempt routes. The exits of the loop that fail an attempt repeat one block,
which is one definition here.
-/

namespace FuboxApi

/-- The configuration that the handler reads: the switch of the paid path, and
the configured reserve amount parsed in a scale. -/
structure GatewayEnvironment where
  paidHotPathBeta : Bool
  paidHotPathBetaReserveAmount : Nat → Option FixedDecimal

/-- A chat request. Its forms for the two kinds of adapters, and the clients
that send them, may fail to be built for a route. -/
structure ChatCompletionRequest where
  stream : Bool
  geminiRequestForUpstream : ResolvedChatRoute → AdapterResult Unit
  nativeHttpClient : ResolvedChatRoute → AdapterResult Unit
  openaiClient : ResolvedChatRoute → AdapterResult Unit

/-- A request in the handler. The estimate of its tokens is unsigned in the
source. -/
structure ChatContext where
  environment : GatewayEnvironment
  auth : AuthContext
  requestId : Uuid
  request : ChatCompletionRequest
  selectedRoute : ResolvedChatRoute
  fallbackRoutes : List ResolvedChatRoute
  requiredTokens : Int64
  requiredTokens_nonneg : 0 ≤ requiredTokens

inductive ChatResponse where
  | gatewayError (error : GatewayApiError)
  | adapterError (error : AdapterError)
  | completion (requestId : Uuid)
  | stream (requestId : Uuid) (endReason : StreamEndReason)
deriving DecidableEq

variable (context : ChatContext)

/-! ## Finishing a request -/

def writeLog (log : GatewayLog) : Handler Unit := do
  let _ ← Await.writeLog log
  return ()

def releasePaidHotPathReserveIfNeeded (reason : String) : Handler Unit := do
  let _ ← Await.releasePendingPaidReserve context.auth context.requestId reason
  return ()

def finishRequestWithError : Handler Unit := do
  writeLog (.requestFinished context.requestId false)
  releasePaidHotPathReserveIfNeeded context "request_error"

variable (acquired : Bool) (route : ResolvedChatRoute)
  (reservation : GatewayRateLimitReservationAttempt)

def releaseVirtualKeyConcurrencyIfNeeded : Handler Unit :=
  if acquired then do
    let _ ← Await.releaseVirtualKeyConcurrencySlot context.auth
    return ()
  else return ()

/-! ## Pre-authorization -/

def paidHotPathBetaEnabled : Handler Bool :=
  if context.environment.paidHotPathBeta then return true
  else do
    match ← Await.virtualKeyPaidHotPathBetaEnabled context.auth with
    | .ok enabled => return enabled
    | .error _ => return false

def paidHotPathReserveAmount (estimate : PreAuthorizeEstimate) : Option FixedDecimal :=
  if 0 < estimate.minimumCost.units.value then some estimate.minimumCost
  else (context.environment.paidHotPathBetaReserveAmount estimate.minimumCost.scale).filter
    fun amount => 0 < amount.units.value

/-- The text that Postgres prints for a sum of money columns, parsed in a scale. -/
def parsePreAuthorizeAmount (value : ℚ) (scale : Nat) : Option FixedDecimal :=
  (FixedDecimal.parse (moneyText value) scale).toOption

def preAuthorizeWalletBalance (readModel : PreAuthorizeReadModel) (currency : String)
    (scale : Nat) : Option FixedDecimal :=
  readModel.wallet.bind fun wallet =>
    if wallet.1 = currency then parsePreAuthorizeAmount wallet.2 scale else none

def preAuthorizeBudgetBalances (readModel : PreAuthorizeReadModel) (currency : String)
    (scale : Nat) : List FixedDecimal :=
  (readModel.budgets.filter fun budget => budget.1 = currency).filterMap fun budget =>
    parsePreAuthorizeAmount budget.2 scale

/-- The decision on an estimate, and the amount to reserve if it is allowed. -/
def preAuthorizeAmount (paidHotPathBeta : Bool) (estimate : PreAuthorizeEstimate)
    (currency : String) (readModel : PreAuthorizeReadModel) : Option FixedDecimal :=
  let scale := estimate.minimumCost.scale
  let reserveAmount :=
    if paidHotPathBeta then paidHotPathReserveAmount context estimate
    else some estimate.minimumCost
  reserveAmount.filter fun amount =>
    preAuthorize ⟨amount, estimate.billableIfUsagePresent || paidHotPathBeta⟩
      (preAuthorizeWalletBalance readModel currency scale)
      (preAuthorizeBudgetBalances readModel currency scale) = .allow

def insertPaidReserve (reserveAmount : FixedDecimal) (currency : String) :
    Handler (Option GatewayApiError) := do
  match ← Await.insertPendingPaidReserve context.auth
    ⟨context.requestId, reserveAmount, currency⟩ with
  | .ok .applied => return none
  | .ok .idempotent => return none
  | .ok .rejectedInsufficientBalance => return some .billingInsufficientBalance
  | .error _ => return some .billingInsufficientBalance

def preAuthorizeRoute : Handler (Option GatewayApiError) := do
  let paidHotPathBeta ← paidHotPathBetaEnabled context
  -- on the paid path nothing passes that could not be checked
  let unchecked := if paidHotPathBeta then some GatewayApiError.billingInsufficientBalance else none
  match ← Await.resolveActivePriceVersion route.canonicalModelId none with
  | .error _ => return unchecked
  | .ok none => return unchecked
  | .ok (some priceVersion) =>
    match preAuthorizeEstimateFromPriceVersion priceVersion with
    | none => return unchecked
    | some (estimate, currency) =>
      if !paidHotPathBeta && estimate.minimumCost.isZero &&
          !estimate.billableIfUsagePresent then return none
      else
        match ← Await.resolvePreAuthorizeReadModel context.auth currency with
        | .error _ => return unchecked
        | .ok readModel =>
          if paidHotPathBeta && readModel.wallet.isNone then
            return some .billingInsufficientBalance
          else
            match preAuthorizeAmount context paidHotPathBeta estimate currency readModel with
            | none => return some .billingInsufficientBalance
            | some reserveAmount =>
              if paidHotPathBeta then insertPaidReserve context reserveAmount currency
              else return none

def preAuthorizeBeforeProviderAttempt : Handler (Option ChatResponse) := do
  match ← preAuthorizeRoute context route with
  | none => return none
  | some error =>
    finishRequestWithError context
    return some (.gatewayError error)

/-! ## Reservations -/

def acquireGatewayRateLimitReservationForAttempt :
    Handler (Except ChatResponse GatewayRateLimitReservationAttempt) :=
  if !reservation.acquired || !reservation.dbExecutionRequired then return .ok reservation
  else do
    match ← Await.executeProviderKeyRateLimitReservation
      (reservation.executionInput context.auth route .acquire false) with
    | .ok status => return .ok (reservation.recordDbAcquire status)
    | .error error =>
      finishRequestWithError context
      return .error (.gatewayError error)

def releaseGatewayRateLimitReservationIfNeeded : Handler GatewayRateLimitReservationAttempt :=
  if reservation.dbReleaseNeeded then do
    let _ ← Await.executeProviderKeyRateLimitReservation
      (reservation.executionInput context.auth route .release true)
    return reservation.recordDbRelease
  else return reservation

/-! ## Failing an attempt -/

/-- Why an attempt gave no answer: its request or client could not be built, the
key could not be opened, or the provider failed. -/
inductive AttemptFailure where
  | beforeCall (error : AdapterError)
  | providerKey (error : GatewayApiError)
  | provider (error : AdapterError)

abbrev AttemptResult :=
  Except AttemptFailure

namespace AttemptFailure

def adapterError : AttemptFailure → Option AdapterError
  | beforeCall error => some error
  | providerKey _ => none
  | provider error => some error

def response : AttemptFailure → ChatResponse
  | beforeCall error => .adapterError error
  | providerKey error => .gatewayError error
  | provider error => .adapterError error

/-- Only a failure of the provider itself may be answered by another route. -/
def canFallback : AttemptFailure → Bool
  | provider error => providerErrorCanFallback error
  | _ => false

end AttemptFailure

def finishProviderAttemptWithError (attemptId : Uuid) (failure : AttemptFailure) :
    Handler Unit := do
  writeLog (.providerAttemptFinished attemptId false)
  match failure.adapterError.bind AdapterError.runtimeStatusPatch with
  | none => return ()
  | some status =>
    let _ ← Await.updateProviderKeyRuntimeStatus context.auth route.providerKeyId
      route.channelId route.providerId status
    return ()

/-- The block of the exits that end the request with a failed attempt. -/
def failAttempt (attemptId : Uuid) (failure : AttemptFailure) : Handler ChatResponse := do
  let _ ← releaseGatewayRateLimitReservationIfNeeded context route reservation
  finishProviderAttemptWithError context route attemptId failure
  finishRequestWithError context
  releaseVirtualKeyConcurrencyIfNeeded context acquired
  return failure.response

/-! ## The attempt loop -/

/-- What an answer in one piece and a stream do differently: how an attempt is
sent, and what follows its success. -/
structure ProviderExchange (Sent : Type) where
  send : ResolvedChatRoute → Handler (AttemptResult Sent)
  complete : ResolvedChatRoute → GatewayRateLimitReservationAttempt → Uuid → Sent →
    Handler ChatResponse

variable {Sent : Type}

/-- An attempt with an executable reservation: a response, or the next route. -/
def sendAttempt (exchange : ProviderExchange Sent) (route : ResolvedChatRoute) (lastRoute : Bool)
    (attemptNo : Nat) (reservation : GatewayRateLimitReservationAttempt) :
    Handler (Option ChatResponse) := do
  match ← Await.createProviderAttemptStarted context.requestId attemptNo with
  | .error error =>
    let _ ← releaseGatewayRateLimitReservationIfNeeded context route reservation
    finishRequestWithError context
    releaseVirtualKeyConcurrencyIfNeeded context acquired
    return some (.gatewayError error)
  | .ok attemptId =>
    match ← exchange.send route with
    | .ok sent => return some (← exchange.complete route reservation attemptId sent)
    | .error failure =>
      if !lastRoute && failure.canFallback then
        let _ ← releaseGatewayRateLimitReservationIfNeeded context route reservation
        finishProviderAttemptWithError context route attemptId failure
        return none
      else
        return some (← failAttempt context acquired route reservation attemptId failure)

/-- The loop over the attempt routes. It ends without a response when no route
is left whose reservation is executable. -/
def attemptRoutes (acquired : Bool) (exchange : ProviderExchange Sent) :
    List ResolvedChatRoute → Nat → Handler (Option ChatResponse)
  | [], _ => return none
  | route :: later, attemptNo => do
      match ← preAuthorizeBeforeProviderAttempt context route with
      | some response =>
        releaseVirtualKeyConcurrencyIfNeeded context acquired
        return some response
      | none =>
        let planned := gatewayRateLimitReservationForAttempt route context.requiredTokens
        match ← acquireGatewayRateLimitReservationForAttempt context route planned with
        | .error response =>
          releaseVirtualKeyConcurrencyIfNeeded context acquired
          return some response
        | .ok reservation =>
          if !reservation.executable then
            attemptRoutes acquired exchange later (attemptNo + 1)
          else
            match ← sendAttempt context acquired exchange route later.isEmpty attemptNo
              reservation with
            | some response => return some response
            | none => attemptRoutes acquired exchange later (attemptNo + 1)

/-- The loop with its last exit. -/
def answerFromRoutes (exchange : ProviderExchange Sent) : Handler ChatResponse := do
  match ← attemptRoutes context acquired exchange
    (context.selectedRoute :: context.fallbackRoutes) 1 with
  | some response => return response
  | none =>
    writeLog (.requestRoute context.requestId)
    finishRequestWithError context
    releaseVirtualKeyConcurrencyIfNeeded context acquired
    return .gatewayError .rateLimitReservationRejected

/-! ## An answer in one piece -/

/-- A call of an attempt, and how its failure ends the attempt. -/
def attemptCall {Value Error : Type} (call : Handler (Except Error Value))
    (failure : Error → AttemptFailure) : Handler (AttemptResult Value) := do
  match ← call with
  | .ok value => return .ok value
  | .error error => return .error (failure error)

def openProviderKey : Handler (AttemptResult Unit) :=
  attemptCall (Await.openProviderKeyForRoute route) .providerKey

def callProvider : Handler (AttemptResult ProviderPayload) :=
  attemptCall (Await.callProvider route) .provider

def validateEndpoint : Handler (AttemptResult Unit) :=
  attemptCall (Await.validateProviderEndpoint route) .beforeCall

/-- A step of building a request or a client, which waits for nothing. -/
def prepared (result : AdapterResult Unit) : Handler (AttemptResult Unit) :=
  return result.mapError .beforeCall

/-- Go on unless a step has failed. -/
def andThen {Value Next : Type} (first : Handler (AttemptResult Value))
    (next : Value → Handler (AttemptResult Next)) : Handler (AttemptResult Next) := do
  match ← first with
  | .error failure => return .error failure
  | .ok value => next value

def sendChatCompletions : Handler (AttemptResult ProviderPayload) :=
  if routeUsesGeminiAdapter route then
    andThen (prepared (context.request.geminiRequestForUpstream route)) fun _ =>
    andThen (openProviderKey route) fun _ =>
    andThen (prepared (context.request.nativeHttpClient route)) fun _ =>
    callProvider route
  else
    andThen (validateEndpoint route) fun _ =>
    andThen (prepared (context.request.openaiClient route)) fun _ =>
    andThen (openProviderKey route) fun _ =>
    callProvider route

/-- What was used, at the price of the model. -/
def rateUsageOnRoute (tokens : Option ExtendedTokenUsage) :
    Handler (Option RequestRatingUpdate) := do
  match tokens with
  | none => return none
  | some tokens =>
    match ← Await.resolveActivePriceVersion route.canonicalModelId (some tokens) with
    | .ok (some priceVersion) => return requestRatingFromPriceVersion priceVersion tokens
    | .ok none => return none
    | .error _ => return none

def rateRequestUsage (usage : RequestUsageUpdate) (payload : ProviderPayload) :
    Handler (Option RequestRatingUpdate) :=
  rateUsageOnRoute route (usage.runtimeTokenUsageForRating payload)

def settleEntry (usage : RequestUsageUpdate) (rating : Option RequestRatingUpdate) :
    Option LedgerSettleEntry :=
  match rating, usage.inputTokens, usage.outputTokens with
  | some rating, some _, some _ =>
    if (settleLedgerAmount rating.finalCost).isNone then none
    else some ⟨context.requestId, rating.finalCost, rating.currency⟩
  | _, _, _ => none

def settleRequestLedger (usage : RequestUsageUpdate) (rating : Option RequestRatingUpdate) :
    Handler Unit := do
  match settleEntry context usage rating with
  | none => return ()
  | some entry =>
    let _ ← Await.insertConfirmedSettle context.auth entry
    return ()

/-- What follows a provider's answer; the reservation of the attempt is only
reported. -/
def completeChatCompletion (_reservation : GatewayRateLimitReservationAttempt) (attemptId : Uuid)
    (payload : ProviderPayload) : Handler ChatResponse := do
  let usage := requestUsageFromAdapterUsage payload.adapterUsage
  writeLog (.providerAttemptFinished attemptId true)
  writeLog (.requestRoute context.requestId)
  let rating ← rateRequestUsage route usage payload
  writeLog (.requestFinished context.requestId true)
  settleRequestLedger context usage rating
  releaseVirtualKeyConcurrencyIfNeeded context acquired
  return .completion context.requestId

def chatCompletionsInOnePiece : Handler ChatResponse :=
  answerFromRoutes context acquired
    ⟨sendChatCompletions context, completeChatCompletion context acquired⟩

/-! ## A stream -/

def openStream : Handler (AttemptResult Unit) :=
  attemptCall (Await.openProviderStream route) .provider

def sendChatCompletionsStream : Handler (AttemptResult Unit) :=
  if routeUsesGeminiAdapter route then
    andThen (prepared (context.request.geminiRequestForUpstream route)) fun _ =>
    andThen (validateEndpoint route) fun _ =>
    andThen (openProviderKey route) fun _ =>
    openStream route
  else
    andThen (validateEndpoint route) fun _ =>
    andThen (prepared (context.request.openaiClient route)) fun _ =>
    andThen (openProviderKey route) fun _ =>
    openStream route

def paidHotPathStreamReleaseReason : StreamEndReason → Option String
  | .completed => none
  | .clientCancel => some "stream_client_cancel"
  | _ => some "stream_not_completed"

def rateStreamRequestUsage (usage : StreamUsageUpdate) : Handler (Option RequestRatingUpdate) :=
  rateUsageOnRoute route (usage.tokenUsageForRating.map TokenUsage.extended)

def releaseUnfinishedStream (endReason : StreamEndReason) : Handler Unit := do
  match paidHotPathStreamReleaseReason endReason with
  | none => return ()
  | some reason =>
    let _ ← releaseGatewayRateLimitReservationIfNeeded context route reservation
    releasePaidHotPathReserveIfNeeded context reason

def finishStream (attemptId : Uuid) (endReason : StreamEndReason) (usage : StreamUsageUpdate) :
    Handler Unit := do
  let rating ← (if endReason = .completed then rateStreamRequestUsage route usage else pure none)
  releaseUnfinishedStream context route reservation endReason
  writeLog (.streamRequestFinished context.requestId endReason)
  writeLog (.requestRouteMetadata context.requestId)
  settleRequestLedger context usage (if endReason = .completed then rating else none)
  writeLog (.streamProviderAttemptFinished attemptId endReason)
  releaseVirtualKeyConcurrencyIfNeeded context acquired

/-- A forwarded stream, up to the end of its finalization. -/
def streamResponse (attemptId : Uuid) (_opened : Unit) : Handler ChatResponse := do
  writeLog (.requestRoute context.requestId)
  let (endReason, usage) ← Await.streamEnd
  finishStream context acquired route reservation attemptId endReason usage
  return .stream context.requestId endReason

def chatCompletionsStreaming : Handler ChatResponse :=
  answerFromRoutes context acquired
    ⟨sendChatCompletionsStream context, streamResponse context acquired⟩

/-! ## The handler -/

/-- A positive 32-bit limit in a policy: a number or the text of one. -/
def positiveI32FromValue (value : Option JsonDocument) : Option Int32 :=
  let parsed : Option Int :=
    match value with
    | some (.integer number) => if FitsBigint number then some number else none
    | some (.string text) => RustText.parseI64 (RustText.trim text.toList)
    | _ => none
  (parsed.filter fun number => 0 < number && number < 2 ^ 31).map Int32.ofInt

/-- A limit of the virtual key: under its own field, or under the dimension. -/
def virtualKeyLimit (auth : AuthContext) (limitField dimension : String) : Option Int32 :=
  positiveI32FromValue (auth.rateLimitPolicy.field limitField) <|>
    positiveI32FromValue (auth.rateLimitPolicy.field dimension) <|>
      positiveI32FromValue ((auth.rateLimitPolicy.field dimension).bind (·.field "limit"))

def virtualKeyConcurrencyLimit (auth : AuthContext) : Option Int32 :=
  virtualKeyLimit auth "concurrency_limit" "concurrency"

def virtualKeyRpmLimit (auth : AuthContext) : Option Int32 :=
  virtualKeyLimit auth "rpm_limit" "rpm"

def virtualKeyTpmLimit (auth : AuthContext) : Option Int32 :=
  virtualKeyLimit auth "tpm_limit" "tpm"

/-- Take a concurrency slot, if the key has a limit: whether one was taken, or
the response that refuses the request. -/
def acquireVirtualKeyConcurrency : Handler (Except ChatResponse Bool) :=
  match virtualKeyConcurrencyLimit context.auth with
  | none => return .ok false
  | some limit => do
      match ← Await.acquireVirtualKeyConcurrencySlot context.auth limit with
      | .ok true => return .ok true
      | .ok false =>
        writeLog (.requestRoute context.requestId)
        finishRequestWithError context
        return .error (.gatewayError (.apiKeyRateLimited "concurrency"))
      | .error error =>
        finishRequestWithError context
        return .error (.gatewayError error)

def checkVirtualKeyWindow (dimension : String)
    (acquire : Option (Handler (ApiResult Bool))) : Handler (Option ChatResponse) :=
  match acquire with
  | none => return none
  | some acquire => do
      match ← acquire with
      | .ok true => return none
      | .ok false =>
        writeLog (.requestRoute context.requestId)
        finishRequestWithError context
        releaseVirtualKeyConcurrencyIfNeeded context acquired
        return some (.gatewayError (.apiKeyRateLimited dimension))
      | .error error =>
        finishRequestWithError context
        releaseVirtualKeyConcurrencyIfNeeded context acquired
        return some (.gatewayError error)

def checkVirtualKeyRpm : Handler (Option ChatResponse) :=
  checkVirtualKeyWindow context acquired "rpm" ((virtualKeyRpmLimit context.auth).map fun limit =>
      Await.acquireVirtualKeyRpmSlot context.auth limit)

def checkVirtualKeyTpm : Handler (Option ChatResponse) :=
  checkVirtualKeyWindow context acquired "tpm" ((virtualKeyTpmLimit context.auth).map fun limit =>
      Await.acquireVirtualKeyTpmCapacity context.auth limit context.requiredTokens)

/-- The handler once the concurrency of the key is settled. -/
def chatCompletionsWithSlot : Handler ChatResponse := do
  match ← checkVirtualKeyRpm context acquired with
  | some response => return response
  | none =>
    match ← checkVirtualKeyTpm context acquired with
    | some response => return response
    | none =>
      writeLog (.requestRoute context.requestId)
      if context.request.stream then chatCompletionsStreaming context acquired
      else chatCompletionsInOnePiece context acquired

/-- On the paid path the selected route is pre-authorized before the limits of
the key are looked at. -/
def preAuthorizePaidPath : Handler (Option ChatResponse) := do
  if ← paidHotPathBetaEnabled context then
    preAuthorizeBeforeProviderAttempt context context.selectedRoute
  else return none

def chatCompletions : Handler ChatResponse := do
  match ← preAuthorizePaidPath context with
  | some response => return response
  | none =>
    match ← acquireVirtualKeyConcurrency context with
    | .error response => return response
    | .ok acquired => chatCompletionsWithSlot context acquired

end FuboxApi
