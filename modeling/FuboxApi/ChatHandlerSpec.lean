import FuboxApi.ChatHandler

/-!
# What a chat request holds

A request may hold a concurrency slot of its virtual key, a reservation of a provider key, and a
paid reserve. The walk through the handler is made once, for any reading of the rules for what the
calls change.
-/

namespace FuboxApi

open AsyncProgram

/-- The calls that change nothing a request holds. -/
def GatewayCall.Neutral : GatewayCall → Prop
  | virtualKeyPaidHotPathBetaEnabled _ => True
  | resolveActivePriceVersion _ rated => rated = none
  | resolvePreAuthorizeReadModel _ _ => True
  | acquireVirtualKeyRpmSlot _ _ => True
  | acquireVirtualKeyTpmCapacity _ _ _ => True
  | updateProviderKeyRuntimeStatus _ _ _ _ _ => True
  | createProviderAttemptStarted _ _ => True
  | openProviderKeyForRoute _ => True
  | writeLog _ => True
  | validateProviderEndpoint _ => True
  | openProviderStream _ => True
  | _ => False

def tookSlot : ApiResult Bool → Bool
  | .ok taken => taken
  | .error _ => false

/-- Whether a reservation statement was applied. -/
def wasApplied : ApiResult ProviderKeyRateLimitReservationExecutionStatus → Bool
  | .ok .applied => true
  | _ => false

/-- The route whose key an acquire statement took a reservation of. -/
def tookReservation (route : ResolvedChatRoute)
    (answer : ApiResult ProviderKeyRateLimitReservationExecutionStatus) :
    Option ResolvedChatRoute :=
  if wasApplied answer then some route else none

/-- The statement that an attempt of the request runs for a route. -/
def ChatContext.reservationInput (context : ChatContext) (route : ResolvedChatRoute)
    (operation : ProviderKeyRateLimitReservationOperation) (reservationAcquired : Bool) :
    ProviderKeyRateLimitReservationExecutionInput :=
  (gatewayRateLimitReservationForAttempt route context.requiredTokens).executionInput
    context.auth route operation reservationAcquired

/-- A reading of what is held: a slot, the reservation of a route, and that no
paid reserve is left. -/
abbrev HoldsReading (State : Type) :=
  (slot : Bool) → (reserved : Option ResolvedChatRoute) → (cleared : Bool) → State → Prop

variable {State : Type} (contract : CallContract GatewayCall.Answer State) (context : ChatContext)
  (holds : HoldsReading State)
  (answered : ProviderPayload → Bool → Option ResolvedChatRoute → State → Prop)
  (ended : StreamEndReason → StreamUsageUpdate → Bool → Option ResolvedChatRoute → State → Prop)

/-- How the calls of a request change what it holds. `answered` and `ended`
read the state after a provider's answer and after the end of a stream, and
`finished` the state in which a request has ended. -/
structure HoldingRules (finished : State → Prop) : Prop where
  weaken : ∀ {slot reserved cleared state}, holds slot reserved cleared state →
    holds slot reserved false state
  finish : ∀ {state}, holds false none true state → finished state
  neutral : ∀ {call : GatewayCall} {slot reserved cleared state}, call.Neutral →
    holds slot reserved cleared state →
      (perform call).Meets contract (fun _ => holds slot reserved cleared) state
  insertReserve : ∀ {entry : PaidReserveEntry} {slot reserved cleared state},
    entry.requestId = context.requestId → holds slot reserved cleared state →
      (Await.insertPendingPaidReserve context.auth entry).Meets contract
        (fun _ => holds slot reserved false) state
  releaseReserve : ∀ {reason : String} {slot reserved cleared state},
    holds slot reserved cleared state →
      (Await.releasePendingPaidReserve context.auth context.requestId reason).Meets contract
        (fun _ => holds slot reserved true) state
  acquireSlot : ∀ {limit : Int32} {reserved cleared state},
    virtualKeyConcurrencyLimit context.auth = some limit → holds false reserved cleared state →
      (Await.acquireVirtualKeyConcurrencySlot context.auth limit).Meets contract
        (fun answer => holds (tookSlot answer) reserved cleared) state
  releaseSlot : ∀ {reserved cleared state}, holds true reserved cleared state →
    (Await.releaseVirtualKeyConcurrencySlot context.auth).Meets contract
      (fun _ => holds false reserved cleared) state
  acquireReservation : ∀ {route : ResolvedChatRoute} {slot cleared state},
    holds slot none cleared state → (Await.executeProviderKeyRateLimitReservation
          (context.reservationInput route .acquire false)).Meets contract
        (fun answer => holds slot (tookReservation route answer) cleared) state
  releaseReservation : ∀ {route : ResolvedChatRoute} {slot cleared state},
    holds slot (some route) cleared state → (Await.executeProviderKeyRateLimitReservation
          (context.reservationInput route .release true)).Meets contract
        (fun _ => holds slot none cleared) state
  callProvider : ∀ {route : ResolvedChatRoute} {slot reserved cleared state},
    holds slot reserved cleared state → (Await.callProvider route).Meets contract
        (fun answer next => match answer with
          | .ok payload => answered payload slot reserved next
          | .error _ => holds slot reserved cleared next) state
  streamEnd : ∀ {slot reserved cleared state}, holds slot reserved cleared state →
    Await.streamEnd.Meets contract
      (fun answer next => ended answer.1 answer.2 slot reserved next) state

/-- For a reading that ignores money, rating and settling are neutral too, and success leaves
nothing but the slot. -/
structure HoldingRules.IgnoresMoney : Prop where
  rate : ∀ {modelId : Uuid} {tokens : ExtendedTokenUsage} {slot reserved cleared state},
    holds slot reserved cleared state →
      (Await.resolveActivePriceVersion modelId (some tokens)).Meets contract
        (fun _ => holds slot reserved cleared) state
  settle : ∀ {entry : LedgerSettleEntry} {slot reserved cleared state},
    holds slot reserved cleared state →
      (Await.insertConfirmedSettle context.auth entry).Meets contract
        (fun _ => holds slot reserved cleared) state
  answered_holds : ∀ {payload slot reserved state}, answered payload slot reserved state →
    holds slot none true state
  ended_holds : ∀ {reason usage slot reserved state}, ended reason usage slot reserved state →
    holds slot (if reason = .completed then none else reserved) true state

open GatewayRateLimitReservationAttempt

namespace HoldingRules

variable {contract context holds answered ended} {finished : State → Prop} {slot cleared : Bool}
  {reserved : Option ResolvedChatRoute} {state : State}

/-! ## Reservations -/

/-- The reservation of an attempt of the request: it was planned for the
request's capacity, and what has to be released belongs to an attempt that is
made. -/
structure AttemptReservation (context : ChatContext)
    (reservation : GatewayRateLimitReservationAttempt) : Prop where
  requiredCapacity : reservation.requiredCapacity =
    gatewayRateLimitRequiredCapacity context.requiredTokens
  executable : reservation.dbReleaseNeeded = true → reservation.executable = true

/-- The route whose key the attempt still has a reservation of. -/
def heldRoute (route : ResolvedChatRoute) (reservation : GatewayRateLimitReservationAttempt) :
    Option ResolvedChatRoute :=
  if reservation.dbReleaseNeeded then some route else none

variable {reservation : GatewayRateLimitReservationAttempt} {route : ResolvedChatRoute}

theorem executionInput_eq (attempt : AttemptReservation context reservation)
    (route : ResolvedChatRoute) (operation : ProviderKeyRateLimitReservationOperation)
    (reservationAcquired : Bool) :
    reservation.executionInput context.auth route operation reservationAcquired =
      context.reservationInput route operation reservationAcquired := by
  rw [ChatContext.reservationInput, executionInput, executionInput, attempt.requiredCapacity]
  rfl

theorem heldRoute_of_not_executable (attempt : AttemptReservation context reservation)
    (notExecutable : reservation.executable = false) : heldRoute route reservation = none := by
  have notNeeded : ¬ reservation.dbReleaseNeeded = true := fun needed => by
    rw [attempt.executable needed] at notExecutable
    contradiction
  exact if_neg notNeeded

theorem attemptReservation_planned (route : ResolvedChatRoute) : AttemptReservation context
      (gatewayRateLimitReservationForAttempt route context.requiredTokens) :=
  ⟨rfl, fun needed => by simp [dbReleaseNeeded, gatewayRateLimitReservationForAttempt] at needed⟩

theorem attemptReservation_recorded {status : ProviderKeyRateLimitReservationExecutionStatus}
    (acquired : (gatewayRateLimitReservationForAttempt route context.requiredTokens).acquired =
      true) : AttemptReservation context
      ((gatewayRateLimitReservationForAttempt route context.requiredTokens).recordDbAcquire
        status) := by
  refine ⟨rfl, fun needed => ?_⟩
  have applied : status = .applied := by
    simpa [dbReleaseNeeded, recordDbAcquire, gatewayRateLimitReservationForAttempt] using needed
  subst applied
  exact Bool.and_eq_true_iff.mpr ⟨acquired, rfl⟩

theorem heldRoute_recorded (route : ResolvedChatRoute) (requiredTokens : Int64)
    (status : ProviderKeyRateLimitReservationExecutionStatus) : heldRoute route
        ((gatewayRateLimitReservationForAttempt route requiredTokens).recordDbAcquire status) =
      tookReservation route (.ok status) := by
  cases status <;> rfl

/-! ## Sending -/

/-- Sending ends with a value, or fails with something still held. -/
def SendMeets {Value : Type} (contract : CallContract GatewayCall.Answer State)
    (program : Handler (AttemptResult Value)) (post : Value → State → Prop)
    (failed : State → Prop) (state : State) : Prop :=
  program.Meets contract (fun result next => match result with
    | .ok value => post value next
    | .error _ => failed next) state

/-- What the loop needs of an exchange: sending keeps what is held unless it
succeeds, and completing ends the request. -/
structure ExchangeMeets {Sent : Type} (contract : CallContract GatewayCall.Answer State)
    (context : ChatContext) (holds : HoldsReading State) (finished : State → Prop) (slot : Bool)
    (exchange : ProviderExchange Sent) (sent : Sent → Option ResolvedChatRoute → State → Prop) :
    Prop where
  send : ∀ {route reserved state}, holds slot reserved false state →
    SendMeets contract (exchange.send route) (fun value => sent value reserved)
      (holds slot reserved false) state
  complete : ∀ {route reservation attemptId value state}, AttemptReservation context reservation →
    sent value (heldRoute route reservation) state →
      (exchange.complete route reservation attemptId value).Meets contract (fun _ => finished) state

/-- A step of sending that changes nothing. -/
def Keeps (contract : CallContract GatewayCall.Answer State) (held : State → Prop)
    (program : Handler (AttemptResult Unit)) : Prop :=
  ∀ state, held state → SendMeets contract program (fun _ => held) held state

theorem Keeps.andThen {held : State → Prop} {first : Handler (AttemptResult Unit)}
    {Next : Type} {next : Unit → Handler (AttemptResult Next)} {post : Next → State → Prop}
    (keeps : Keeps contract held first)
    (rest : ∀ reached, held reached → SendMeets contract (next ()) post held reached)
    (state : State) (heldBefore : held state) :
    SendMeets contract (andThen first next) post held state := by
  refine (keeps state heldBefore).bind fun result reached kept => ?_
  cases result with
  | error failure => exact kept
  | ok value => exact rest reached kept

theorem keeps_attemptCall {held : State → Prop} {Error : Type} {call : Handler (Except Error Unit)}
    {failure : Error → AttemptFailure}
    (keeps : ∀ {state}, held state → call.Meets contract (fun _ => held) state) :
    Keeps contract held (attemptCall call failure) := by
  intro state heldBefore
  refine (keeps heldBefore).bind fun answer next kept => ?_
  cases answer <;> exact kept

theorem keeps_prepared {held : State → Prop} (result : AdapterResult Unit) :
    Keeps contract held (prepared result) := by
  intro state heldBefore
  cases result <;> exact heldBefore

variable {attemptId : Uuid}

section

variable (rules : HoldingRules contract context holds answered ended finished)
include rules

section

variable (held : holds slot reserved cleared state)

include held

theorem neutral_bind (call : GatewayCall) (neutral : call.Neutral) {Value : Type}
    {next : call.Answer → Handler Value} {post : Value → State → Prop} (rest : ∀ answer reached,
      holds slot reserved cleared reached → (next answer).Meets contract post reached) :
    (perform call >>= next).Meets contract post state :=
  (rules.neutral neutral held).bind rest

theorem writeLog_meets {log : GatewayLog} :
    (writeLog log).Meets contract (fun _ => holds slot reserved cleared) state :=
  rules.neutral_bind held (.writeLog log) trivial fun _ _ kept => kept

theorem releasePaidHotPathReserveIfNeeded_meets {reason : String} :
    (releasePaidHotPathReserveIfNeeded context reason).Meets contract
      (fun _ => holds slot reserved true) state :=
  (rules.releaseReserve held).bind fun _ _ kept => kept

theorem finishRequestWithError_meets :
    (finishRequestWithError context).Meets contract (fun _ => holds slot reserved true) state :=
  (rules.writeLog_meets held).bind fun _ _ kept =>
    rules.releasePaidHotPathReserveIfNeeded_meets kept

theorem releaseVirtualKeyConcurrencyIfNeeded_meets :
    (releaseVirtualKeyConcurrencyIfNeeded context slot).Meets contract
      (fun _ => holds false reserved cleared) state := by
  cases slot with
  | false => exact held
  | true => exact (rules.releaseSlot held).bind fun _ _ kept => kept

theorem paidHotPathBetaEnabled_meets :
    (paidHotPathBetaEnabled context).Meets contract (fun _ => holds slot reserved cleared)
      state := by
  unfold paidHotPathBetaEnabled
  split
  · exact held
  · refine rules.neutral_bind held (.virtualKeyPaidHotPathBetaEnabled _) trivial
      fun answer _ kept => ?_
    cases answer <;> exact kept

theorem insertPaidReserve_meets {reserveAmount : FixedDecimal} {currency : String} :
    (insertPaidReserve context reserveAmount currency).Meets contract
      (fun _ => holds slot reserved false) state := by
  refine (rules.insertReserve rfl held).bind fun answer _ kept => ?_
  rcases answer with _ | outcome
  · exact kept
  · cases outcome <;> exact kept

theorem preAuthorizeRoute_meets :
    (preAuthorizeRoute context route).Meets contract (fun _ => holds slot reserved false)
      state := by
  refine (rules.paidHotPathBetaEnabled_meets (rules.weaken held)).bind
    fun paidHotPathBeta next kept => ?_
  refine rules.neutral_bind kept (.resolveActivePriceVersion _ none) rfl fun answer next kept => ?_
  rcases answer with _ | _ | priceVersion
  · exact kept
  · exact kept
  · dsimp only
    split
    · exact kept
    · next estimate currency _ =>
      split
      · exact kept
      · refine rules.neutral_bind kept (.resolvePreAuthorizeReadModel _ currency) trivial
          fun answer next kept => ?_
        rcases answer with _ | readModel
        · exact kept
        · dsimp only
          split
          · exact kept
          · split
            · exact kept
            · split
              · exact rules.insertPaidReserve_meets kept
              · exact kept

theorem preAuthorizeBeforeProviderAttempt_meets :
    (preAuthorizeBeforeProviderAttempt context route).Meets contract
      (fun response => holds slot reserved response.isSome) state := by
  refine (rules.preAuthorizeRoute_meets held).bind fun error next kept => ?_
  cases error with
  | none => exact kept
  | some error =>
    exact (rules.finishRequestWithError_meets kept).bind fun _ _ finishedWith => finishedWith

end

theorem acquireGatewayRateLimitReservationForAttempt_meets (held : holds slot none cleared state) :
    (acquireGatewayRateLimitReservationForAttempt context route
        (gatewayRateLimitReservationForAttempt route context.requiredTokens)).Meets contract
      (fun result next => match result with
        | .ok reservation => AttemptReservation context reservation ∧
            holds slot (heldRoute route reservation) cleared next
        | .error _ => holds slot none true next) state := by
  unfold acquireGatewayRateLimitReservationForAttempt
  split
  · exact ⟨attemptReservation_planned route, held⟩
  · next required =>
    have acquired : (gatewayRateLimitReservationForAttempt route
        context.requiredTokens).acquired = true := by
      simp only [Bool.or_eq_true, Bool.not_eq_true', not_or, Bool.not_eq_false] at required
      exact required.1
    refine (rules.acquireReservation held).bind fun answer next kept => ?_
    rcases answer with error | status
    · exact (rules.finishRequestWithError_meets kept).bind fun _ _ finishedWith => finishedWith
    · refine ⟨attemptReservation_recorded acquired, ?_⟩
      rw [heldRoute_recorded]
      exact kept

theorem releaseGatewayRateLimitReservationIfNeeded_meets
    (attempt : AttemptReservation context reservation)
    (held : holds slot (heldRoute route reservation) cleared state) :
    (releaseGatewayRateLimitReservationIfNeeded context route reservation).Meets contract
      (fun _ => holds slot none cleared) state := by
  unfold releaseGatewayRateLimitReservationIfNeeded
  cases needed : reservation.dbReleaseNeeded with
  | false =>
    rw [heldRoute, needed] at held
    exact held
  | true =>
    rw [heldRoute, needed] at held
    rw [executionInput_eq attempt]
    exact (rules.releaseReservation held).bind fun _ _ kept => kept

theorem releaseUnfinishedStream_meets {reason : StreamEndReason}
    (attempt : AttemptReservation context reservation) (notCompleted : reason ≠ .completed)
    (held : holds slot (heldRoute route reservation) cleared state) :
    (releaseUnfinishedStream context route reservation reason).Meets contract
      (fun _ => holds slot none true) state := by
  have releases : ∃ text, paidHotPathStreamReleaseReason reason = some text := by
    cases reason <;> first | exact ⟨_, rfl⟩ | contradiction
  obtain ⟨text, textEq⟩ := releases
  unfold releaseUnfinishedStream
  rw [textEq]
  refine (rules.releaseGatewayRateLimitReservationIfNeeded_meets attempt held).bind
    fun _ _ kept => ?_
  exact rules.releasePaidHotPathReserveIfNeeded_meets kept

/-! ## Attempts -/

variable {failure : AttemptFailure}

theorem finishProviderAttemptWithError_meets (held : holds slot reserved cleared state) :
    (finishProviderAttemptWithError context route attemptId failure).Meets contract
      (fun _ => holds slot reserved cleared) state := by
  refine (rules.writeLog_meets held).bind fun _ next kept => ?_
  cases failure.adapterError.bind AdapterError.runtimeStatusPatch with
  | none => exact kept
  | some status =>
    exact rules.neutral_bind kept (.updateProviderKeyRuntimeStatus _ _ _ _ status) trivial
      fun _ _ kept => kept

theorem finishAndRelease_meets {Value : Type} {value : Value} {post : Value → State → Prop}
    (post_of_finished : ∀ next, finished next → post value next)
    (held : holds slot none cleared state) : (do
      finishRequestWithError context
      releaseVirtualKeyConcurrencyIfNeeded context slot
      return value : Handler Value).Meets contract post state := by
  refine (rules.finishRequestWithError_meets held).bind fun _ _ kept => ?_
  exact (rules.releaseVirtualKeyConcurrencyIfNeeded_meets kept).bind fun _ next kept =>
    post_of_finished next (rules.finish kept)

theorem failAttempt_meets (attempt : AttemptReservation context reservation)
    (held : holds slot (heldRoute route reservation) cleared state) :
    (failAttempt context slot route reservation attemptId failure).Meets contract
      (fun _ => finished) state := by
  refine (rules.releaseGatewayRateLimitReservationIfNeeded_meets attempt held).bind
    fun _ _ kept => ?_
  refine (rules.finishProviderAttemptWithError_meets kept).bind fun _ _ kept => ?_
  exact rules.finishAndRelease_meets (fun _ done => done) kept

/-! ## The attempt loop -/

/-- A response ends the request, and without one the handler goes on. -/
def EndsOr (finished goesOn : State → Prop) : Option ChatResponse → State → Prop
  | some _ => finished
  | none => goesOn

section

variable {Sent : Type} {exchange : ProviderExchange Sent}
  {sent : Sent → Option ResolvedChatRoute → State → Prop}
  (exchanges : ExchangeMeets contract context holds finished slot exchange sent)

include exchanges

theorem sendAttempt_meets {lastRoute : Bool} {attemptNo : Nat}
    (attempt : AttemptReservation context reservation)
    (held : holds slot (heldRoute route reservation) false state) :
    (sendAttempt context slot exchange route lastRoute attemptNo reservation).Meets contract
      (EndsOr finished (holds slot none false)) state := by
  refine rules.neutral_bind held (.createProviderAttemptStarted _ attemptNo) trivial
    fun answer next kept => ?_
  rcases answer with error | attemptId
  · refine (rules.releaseGatewayRateLimitReservationIfNeeded_meets attempt kept).bind
      fun _ _ kept => ?_
    exact rules.finishAndRelease_meets (fun _ done => done) kept
  · refine (exchanges.send kept).bind fun result next kept => ?_
    rcases result with failure | value
    · dsimp only
      split
      · refine (rules.releaseGatewayRateLimitReservationIfNeeded_meets attempt kept).bind
          fun _ _ kept => ?_
        exact (rules.finishProviderAttemptWithError_meets kept).bind fun _ _ kept => kept
      · exact (rules.failAttempt_meets attempt kept).bind fun _ _ done => done
    · exact (exchanges.complete attempt kept).bind fun _ _ done => done

theorem attemptRoutes_meets (routes : List ResolvedChatRoute) (attemptNo : Nat)
    (held : holds slot none cleared state) :
    (attemptRoutes context slot exchange routes attemptNo).Meets contract
      (EndsOr finished (holds slot none false)) state := by
  induction routes generalizing attemptNo cleared state with
  | nil => exact rules.weaken held
  | cons route later ih =>
    refine (rules.preAuthorizeBeforeProviderAttempt_meets held).bind fun refusal _ kept => ?_
    cases refusal with
    | some response =>
      exact (rules.releaseVirtualKeyConcurrencyIfNeeded_meets kept).bind
        fun _ _ kept => rules.finish kept
    | none =>
      refine (rules.acquireGatewayRateLimitReservationForAttempt_meets kept).bind
        fun result _ kept => ?_
      rcases result with response | reservation
      · exact (rules.releaseVirtualKeyConcurrencyIfNeeded_meets kept).bind
          fun _ _ kept => rules.finish kept
      · obtain ⟨attempt, kept⟩ := kept
        dsimp only
        cases executable : reservation.executable with
        | false =>
          rw [heldRoute_of_not_executable attempt executable] at kept
          exact ih (attemptNo + 1) kept
        | true =>
          refine (rules.sendAttempt_meets exchanges attempt kept).bind fun response _ kept => ?_
          cases response with
          | some response => exact kept
          | none => exact ih (attemptNo + 1) kept

theorem answerFromRoutes_meets (held : holds slot none cleared state) :
    (answerFromRoutes context slot exchange).Meets contract (fun _ => finished) state := by
  refine (rules.attemptRoutes_meets exchanges _ 1 held).bind fun response _ kept => ?_
  cases response with
  | some response => exact kept
  | none =>
    refine (rules.writeLog_meets kept).bind fun _ _ kept => ?_
    exact rules.finishAndRelease_meets (fun _ done => done) kept

end

theorem keeps_openProviderKey :
    Keeps contract (holds slot reserved cleared) (openProviderKey route) :=
  have neutral : (GatewayCall.openProviderKeyForRoute route).Neutral := trivial
  keeps_attemptCall (rules.neutral neutral)

theorem keeps_validateEndpoint :
    Keeps contract (holds slot reserved cleared) (validateEndpoint route) :=
  have neutral : (GatewayCall.validateProviderEndpoint route).Neutral := trivial
  keeps_attemptCall (rules.neutral neutral)

theorem openStream_meets (state : State) (held : holds slot reserved cleared state) :
    SendMeets contract (openStream route) (fun _ => holds slot reserved cleared)
      (holds slot reserved cleared) state :=
  have neutral : (GatewayCall.openProviderStream route).Neutral := trivial
  keeps_attemptCall (rules.neutral neutral) state held

theorem callProvider_meets (state : State) (held : holds slot reserved cleared state) :
    SendMeets contract (FuboxApi.callProvider route)
      (fun payload => answered payload slot reserved) (holds slot reserved cleared) state := by
  refine (rules.callProvider held).bind fun answer next kept => ?_
  cases answer <;> exact kept

theorem sendChatCompletions_meets (held : holds slot reserved cleared state) :
    SendMeets contract (sendChatCompletions context route)
      (fun payload => answered payload slot reserved) (holds slot reserved cleared) state := by
  have prepares : ∀ result, Keeps contract (holds slot reserved cleared) (prepared result) :=
    keeps_prepared
  unfold sendChatCompletions
  split
  · exact (prepares _).andThen (rules.keeps_openProviderKey.andThen
      ((prepares _).andThen rules.callProvider_meets)) state held
  · exact rules.keeps_validateEndpoint.andThen ((prepares _).andThen
      (rules.keeps_openProviderKey.andThen rules.callProvider_meets)) state held

theorem sendChatCompletionsStream_meets (held : holds slot reserved cleared state) :
    SendMeets contract (sendChatCompletionsStream context route)
      (fun _ => holds slot reserved cleared) (holds slot reserved cleared) state := by
  have prepares : ∀ result, Keeps contract (holds slot reserved cleared) (prepared result) :=
    keeps_prepared
  unfold sendChatCompletionsStream
  split
  · exact (prepares _).andThen (rules.keeps_validateEndpoint.andThen
      (rules.keeps_openProviderKey.andThen rules.openStream_meets)) state held
  · exact rules.keeps_validateEndpoint.andThen ((prepares _).andThen
      (rules.keeps_openProviderKey.andThen rules.openStream_meets)) state held

/-! ## The handler -/

variable (completes : ∀ {slot route reservation attemptId payload state},
    AttemptReservation context reservation →
    answered payload slot (heldRoute route reservation) state →
      (completeChatCompletion context slot route reservation attemptId payload).Meets contract
        (fun _ => finished) state)
  (finishes : ∀ {slot route reservation attemptId reason usage state},
    AttemptReservation context reservation →
    ended reason usage slot (heldRoute route reservation) state →
      (finishStream context slot route reservation attemptId reason usage).Meets contract
        (fun _ => finished) state)

section

variable (held : holds slot none cleared state)

include held

include completes in
theorem chatCompletionsInOnePiece_meets :
    (chatCompletionsInOnePiece context slot).Meets contract (fun _ => finished) state :=
  rules.answerFromRoutes_meets ⟨rules.sendChatCompletions_meets, completes⟩ held

include finishes in
theorem chatCompletionsStreaming_meets :
    (chatCompletionsStreaming context slot).Meets contract (fun _ => finished) state := by
  refine rules.answerFromRoutes_meets ⟨rules.sendChatCompletionsStream_meets, ?_⟩ held
  intro route reservation attemptId opened state attempt kept
  refine (rules.writeLog_meets kept).bind fun _ _ kept => ?_
  refine (rules.streamEnd kept).bind fun answer _ kept => ?_
  exact (finishes attempt kept).bind fun _ _ done => done

theorem checkVirtualKeyWindow_meets {dimension : String} {Limit : Type} {limit : Option Limit}
    {acquire : Limit → Handler (ApiResult Bool)}
    (acquires : ∀ limit, (acquire limit).Meets contract (fun _ => holds slot none cleared) state) :
    (checkVirtualKeyWindow context slot dimension (limit.map acquire)).Meets contract
      (EndsOr finished (holds slot none cleared)) state := by
  cases limit with
  | none => exact held
  | some limit =>
    refine (acquires limit).bind fun answer _ kept => ?_
    rcases answer with error | _ | _
    · exact rules.finishAndRelease_meets (fun _ done => done) kept
    · refine (rules.writeLog_meets kept).bind fun _ _ kept => ?_
      exact rules.finishAndRelease_meets (fun _ done => done) kept
    · exact kept

theorem checkVirtualKeyRpm_meets :
    (checkVirtualKeyRpm context slot).Meets contract (EndsOr finished (holds slot none cleared))
      state :=
  rules.checkVirtualKeyWindow_meets held fun _ => rules.neutral trivial held

theorem checkVirtualKeyTpm_meets :
    (checkVirtualKeyTpm context slot).Meets contract (EndsOr finished (holds slot none cleared))
      state :=
  rules.checkVirtualKeyWindow_meets held fun _ => rules.neutral trivial held

end

theorem acquireVirtualKeyConcurrency_meets (held : holds false none cleared state) :
    (acquireVirtualKeyConcurrency context).Meets contract (fun result next => match result with
      | .ok acquired => holds acquired none cleared next
      | .error _ => finished next) state := by
  unfold acquireVirtualKeyConcurrency
  cases limitEq : virtualKeyConcurrencyLimit context.auth with
  | none => exact held
  | some limit =>
    refine (rules.acquireSlot limitEq held).bind fun answer _ kept => ?_
    rcases answer with error | _ | _
    · exact (rules.finishRequestWithError_meets kept).bind fun _ _ kept => rules.finish kept
    · refine (rules.writeLog_meets kept).bind fun _ _ kept => ?_
      exact (rules.finishRequestWithError_meets kept).bind fun _ _ kept => rules.finish kept
    · exact kept

theorem preAuthorizePaidPath_meets (held : holds false none true state) :
    (preAuthorizePaidPath context).Meets contract (EndsOr finished (holds false none false))
      state := by
  refine (rules.paidHotPathBetaEnabled_meets held).bind fun enabled _ kept => ?_
  cases enabled with
  | false => exact rules.weaken kept
  | true =>
    refine (rules.preAuthorizeBeforeProviderAttempt_meets kept).mono fun response _ kept => ?_
    cases response with
    | none => exact kept
    | some response => exact rules.finish kept

include completes finishes in
theorem chatCompletions_meets (held : holds false none true state) :
    (chatCompletions context).Meets contract (fun _ => finished) state := by
  refine (rules.preAuthorizePaidPath_meets held).bind fun refusal _ kept => ?_
  cases refusal with
  | some response => exact kept
  | none =>
    refine (rules.acquireVirtualKeyConcurrency_meets kept).bind fun result _ kept => ?_
    rcases result with response | acquired
    · exact kept
    · refine (rules.checkVirtualKeyRpm_meets kept).bind fun response _ kept => ?_
      cases response with
      | some response => exact kept
      | none =>
        refine (rules.checkVirtualKeyTpm_meets kept).bind fun response _ kept => ?_
        cases response with
        | some response => exact kept
        | none =>
          refine (rules.writeLog_meets kept).bind fun _ _ kept => ?_
          split
          · exact rules.chatCompletionsStreaming_meets finishes kept
          · exact rules.chatCompletionsInOnePiece_meets completes kept

end

/-! ## Readings that ignore money -/

variable (rules : HoldingRules contract context holds answered ended finished)
  (ignores : IgnoresMoney contract context holds answered ended)

include ignores

variable {usage : RequestUsageUpdate} {payload : ProviderPayload}

theorem settleRequestLedger_meets {rating : Option RequestRatingUpdate}
    (held : holds slot reserved cleared state) :
    (settleRequestLedger context usage rating).Meets contract
      (fun _ => holds slot reserved cleared) state := by
  unfold settleRequestLedger
  cases settleEntry context usage rating with
  | none => exact held
  | some entry => exact (ignores.settle held).bind fun _ _ kept => kept

theorem rateUsageOnRoute_meets {tokens : Option ExtendedTokenUsage}
    (held : holds slot reserved cleared state) : (rateUsageOnRoute route tokens).Meets contract
      (fun _ => holds slot reserved cleared) state := by
  cases tokens with
  | none => exact held
  | some tokens =>
    refine (ignores.rate held).bind fun answer _ kept => ?_
    rcases answer with _ | _ | _ <;> exact kept

include rules

theorem completeChatCompletion_meets (success : answered payload slot reserved state) :
    (completeChatCompletion context slot route reservation attemptId payload).Meets contract
      (fun _ => finished) state := by
  have held := ignores.answered_holds success
  refine (rules.writeLog_meets held).bind fun _ _ kept => ?_
  refine (rules.writeLog_meets kept).bind fun _ _ kept => ?_
  refine (rateUsageOnRoute_meets ignores kept).bind fun rating _ kept => ?_
  refine (rules.writeLog_meets kept).bind fun _ _ kept => ?_
  refine (settleRequestLedger_meets ignores kept).bind fun _ _ kept => ?_
  exact (rules.releaseVirtualKeyConcurrencyIfNeeded_meets kept).bind fun _ _ kept =>
    rules.finish kept

theorem finishStream_meets {reason : StreamEndReason} {usage : StreamUsageUpdate}
    (attempt : AttemptReservation context reservation)
    (atEnd : ended reason usage slot (heldRoute route reservation) state) :
    (finishStream context slot route reservation attemptId reason usage).Meets contract
      (fun _ => finished) state := by
  have held := ignores.ended_holds atEnd
  have released : (do
      let rating ← (if reason = .completed then rateStreamRequestUsage route usage else pure none)
      releaseUnfinishedStream context route reservation reason
      return rating : Handler (Option RequestRatingUpdate)).Meets contract
        (fun _ => holds slot none true) state := by
    by_cases completed : reason = .completed
    · subst completed
      exact (rateUsageOnRoute_meets ignores held).bind fun _ _ kept => kept
    · rw [if_neg completed] at held ⊢
      exact (rules.releaseUnfinishedStream_meets attempt completed held).bind fun _ _ kept => kept
  rw [meets_bind] at released
  refine meets_bind.mpr (released.mono fun rating _ releasing => ?_)
  refine meets_bind.mpr ((meets_bind.mp releasing).mono fun _ _ kept => ?_)
  refine (rules.writeLog_meets kept).bind fun _ _ kept => ?_
  refine (rules.writeLog_meets kept).bind fun _ _ kept => ?_
  refine (settleRequestLedger_meets ignores kept).bind fun _ _ kept => ?_
  refine (rules.writeLog_meets kept).bind fun _ _ kept => ?_
  exact (rules.releaseVirtualKeyConcurrencyIfNeeded_meets kept).mono fun _ _ kept =>
    rules.finish kept

theorem chatCompletions_finishes (held : holds false none true state) :
    (chatCompletions context).Meets contract (fun _ => finished) state :=
  rules.chatCompletions_meets (fun _ success => completeChatCompletion_meets rules ignores success)
    (fun attempt atEnd => finishStream_meets rules ignores attempt atEnd) held

end HoldingRules

end FuboxApi
