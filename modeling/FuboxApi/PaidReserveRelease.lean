import FuboxApi.ChatHandlerSpec
import FuboxApi.ChatTables

/-!
# What is left of a paid reserve

A failed request releases its reserve, a settled one reverses it. The reserves of requests that
succeed without usage, price or cost stay pending, and no others do.
-/

namespace FuboxApi

open AsyncProgram

variable (context : ChatContext)

def ChatContext.Held (tables : GatewayTables) : Prop :=
  tables.ledger.HoldsReserve context.auth context.requestId

instance (tables : GatewayTables) : Decidable (context.Held tables) :=
  inferInstanceAs (Decidable (tables.ledger.HoldsReserve _ _))

/-- The calls on the ledger that are made for a request. -/
def GatewayCall.ConcernsReserve (requestId : Uuid) : GatewayCall → Prop
  | insertPendingPaidReserve _ entry => entry.requestId = requestId
  | releasePendingPaidReserve _ released _ => released = requestId
  | insertConfirmedSettle _ entry => entry.requestId = requestId
  | _ => False

def OtherCall (tables next : GatewayTables) : Prop :=
  ∃ (call : GatewayCall) (answer : call.Answer),
    ¬ call.ConcernsReserve context.requestId ∧ gatewayEffects call tables answer next

/-- Any number of calls of other requests. -/
def othersAct : GatewayTables → GatewayTables → Prop :=
  Relation.ReflTransGen (OtherCall context)

/-- What a successful answer needs so that a held reserve is settled. -/
def payloadSettles (held : Prop) : AdapterResult ProviderPayload → Prop
  | .ok payload => held →
      (requestUsageFromAdapterUsage payload.adapterUsage).tokenUsageForRating.isSome = true
  | .error _ => True

/-- What a completed stream needs. -/
def streamEndSettles (held : Prop) (answer : StreamEndReason × StreamUsageUpdate) : Prop :=
  answer.1 = .completed → held → answer.2.tokenUsageForRating.isSome = true

/-- What the price of a usage needs. -/
def priceSettles (held : Prop) (tokens : ExtendedTokenUsage)
    (answer : ApiResult (Option ResolvedPriceVersion)) : Prop :=
  held → ∃ priceVersion rating, answer = .ok (some priceVersion) ∧
    requestRatingFromPriceVersion priceVersion tokens = some rating ∧
      settleLedgerAmount rating.finalCost ≠ none

/-- The answers with which a held reserve is settled: a usage, a price version
that rates it, and a cost other than zero. -/
def Settles (held : Prop) : (call : GatewayCall) → call.Answer → Prop
  | .callProvider _, answer => payloadSettles held answer
  | .streamEnd, answer => streamEndSettles held answer
  | .resolveActivePriceVersion _ (some tokens), answer => priceSettles held tokens answer
  | _, _ => True

/-- The condition on a step of a run. -/
def SettlesReserve (step : Step GatewayCall.Answer GatewayTables) : Prop :=
  Settles (context.Held step.state) step.call step.answer

/-- Other requests interleave, and no call fails in the database. -/
def reserveEffects : Effects GatewayCall.Answer GatewayTables :=
  succeedingEffects.amid (othersAct context)

abbrev reserveContract : CallContract GatewayCall.Answer (GatewayTables × Prop) :=
  monitored (reserveEffects context) (SettlesReserve context)

/-! ## Readings of a state -/

/-- Every step so far has met the condition, and maybe no reserve is held. -/
def holdsReserve : HoldsReading (GatewayTables × Prop) :=
  fun _ _ cleared state => state.2 ∧ (cleared = true → ¬ context.Held state.1)

/-- Every step so far has met the condition unless a reserve is held and
something is missing to settle it. -/
def MetUnlessHeld (settled : Prop) (state : GatewayTables × Prop) : Prop :=
  state.2 ↔ (context.Held state.1 → settled)

variable {context} {call : GatewayCall} {state : GatewayTables × Prop} {next tables : GatewayTables}
  {settled : Prop} {entry : LedgerSettleEntry} {tokens : TokenUsage} {usage : RequestUsageUpdate}
  {rating : Option RequestRatingUpdate} {payload : ProviderPayload} {reason : StreamEndReason}

theorem held_iff_of_otherCall (other : OtherCall context tables next) :
    context.Held next ↔ context.Held tables := by
  obtain ⟨call, answer, notConcerned, effect⟩ := other
  by_cases keeps : call.writesLedger = false
  · rw [ChatContext.Held, (tables_of_effects effect).1 keeps, ChatContext.Held]
  · unfold gatewayEffects at effect
    cases call with
    | insertPendingPaidReserve =>
      rcases effect with ⟨inputs, executed⟩ | ⟨_, rfl⟩
      · obtain ⟨_, _, inserted, _, rfl⟩ := ok_of_committed executed
        exact GatewayLedger.holdsReserve_insert_other notConcerned inserted
      · exact Iff.rfl
    | releasePendingPaidReserve =>
      rcases effect with ⟨inputs, executed⟩ | ⟨_, rfl⟩
      · cases executed
        exact GatewayLedger.holdsReserve_release_other notConcerned
      · exact Iff.rfl
    | insertConfirmedSettle =>
      rcases effect with ⟨inputs, executed⟩ | ⟨_, rfl⟩
      · obtain ⟨_, _, settled, _, rfl⟩ := ok_of_committed executed
        exact GatewayLedger.holdsReserve_settle_other notConcerned settled
      · exact Iff.rfl
    | _ => exact absurd rfl keeps

theorem held_iff_of_othersAct {reached : GatewayTables} (others : othersAct context tables reached)
    : context.Held reached ↔ context.Held tables := by
  induction others with
  | refl => exact Iff.rfl
  | tail _ other ih => exact (held_iff_of_otherCall other).trans ih

theorem held_iff_of_effects {answer : call.Answer} (keeps : call.writesLedger = false)
    (effect : reserveEffects context call tables answer next) :
    context.Held next ↔ context.Held tables := by
  obtain ⟨reached, others, performed, _⟩ := effect
  have ledgerEq := (tables_of_effects performed).1 keeps
  rw [ChatContext.Held, ledgerEq]
  exact held_iff_of_othersAct others

theorem meets_of_keeps {post : call.Answer → GatewayTables × Prop → Prop}
    (keeps : call.writesLedger = false)
    (noted : ∀ answer next, (context.Held next ↔ context.Held state.1) →
      post answer (next, state.2 ∧ Settles (context.Held state.1) call answer)) :
    (perform call).Meets (reserveContract context) post state := by
  refine ⟨trivial, ?_⟩
  rintro answer ⟨next, met⟩ ⟨effect, metEq⟩
  cases metEq
  exact noted answer next (held_iff_of_effects keeps effect)

/-- A call without a condition that does not write to the ledger. -/
structure Silent (call : GatewayCall) : Prop where
  keeps : call.writesLedger = false
  settles : ∀ held answer, Settles held call answer

theorem Silent.meets {reading : GatewayTables × Prop → Prop} (silent : Silent call)
    (invariant : ∀ next met, (context.Held next ↔ context.Held state.1) → (met ↔ state.2) →
      reading (next, met)) :
    (perform call).Meets (reserveContract context) (fun _ => reading) state :=
  meets_of_keeps silent.keeps fun answer next heldIff =>
    invariant next _ heldIff (and_iff_left (silent.settles _ answer))

theorem Silent.keeps_holds {slot cleared : Bool} {reserved : Option ResolvedChatRoute}
    (silent : Silent call) (held : holdsReserve context slot reserved cleared state) :
    (perform call).Meets (reserveContract context)
      (fun _ => holdsReserve context slot reserved cleared) state :=
  silent.meets fun _ _ heldIff metIff =>
    ⟨metIff.mpr held.1, fun isCleared stillHeld => held.2 isCleared (heldIff.mp stillHeld)⟩

/-- The program goes through, and what is noted by then is met unless the reserve is held. -/
abbrev LeavesMet {α : Type} (context : ChatContext) (program : Handler α) (settled : α → Prop) :
    GatewayTables × Prop → Prop :=
  program.Meets (reserveContract context) fun answer => MetUnlessHeld context (settled answer)

theorem Silent.keeps_met (silent : Silent call) (met : MetUnlessHeld context settled state) :
    LeavesMet context (perform call) (fun _ => settled) state :=
  silent.meets fun _ _ heldIff metIff =>
    metIff.trans (met.trans (imp_congr_left heldIff.symm))

theorem silent_of_neutral (neutral : call.Neutral) : Silent call := by
  cases call with
  | resolveActivePriceVersion modelId rated =>
    have estimate : rated = none := neutral
    subst estimate
    exact ⟨rfl, fun _ _ => trivial⟩
  | insertPendingPaidReserve | releasePendingPaidReserve | insertConfirmedSettle
  | acquireVirtualKeyConcurrencySlot | releaseVirtualKeyConcurrencySlot
  | executeProviderKeyRateLimitReservation | callProvider | streamEnd => exact neutral.elim
  | _ => exact ⟨rfl, fun _ _ => trivial⟩

/-! ## The calls on the ledger -/

theorem meets_of_clears (isStatement : call.isStatement = true)
    (settles : ∀ held answer, Settles held call answer)
    (clears : ∀ inputs (tables : GatewayTables) answer next,
      tables.statement inputs call = some (answer, next) → ¬ context.Held next) (met : state.2) :
    (perform call).Meets (reserveContract context)
      (fun _ next => next.2 ∧ ¬ context.Held next.1) state := by
  refine ⟨trivial, ?_⟩
  rintro answer ⟨next, nextMet⟩ ⟨⟨reached, _, effect⟩, metEq⟩
  cases metEq
  obtain ⟨inputs, executed⟩ := statement_of_succeedingEffects isStatement effect
  exact ⟨⟨met, settles _ answer⟩, clears inputs reached answer next executed⟩

theorem meets_releasePendingPaidReserve {reason : String} (met : state.2) :
    (Await.releasePendingPaidReserve context.auth context.requestId reason).Meets
      (reserveContract context) (fun _ next => next.2 ∧ ¬ context.Held next.1) state := by
  refine meets_of_clears rfl (fun _ _ => trivial) ?_ met
  intro inputs tables answer next executed
  cases executed
  exact GatewayLedger.not_holdsReserve_release

theorem meets_insertConfirmedSettle (requestEq : entry.requestId = context.requestId)
    (nonzero : settleLedgerAmount entry.finalCost ≠ none) (met : state.2) :
    (Await.insertConfirmedSettle context.auth entry).Meets
      (reserveContract context) (fun _ next => next.2 ∧ ¬ context.Held next.1) state := by
  refine meets_of_clears rfl (fun _ _ => trivial) ?_ met
  intro inputs tables answer next executed
  obtain ⟨inserted, ledger, settled, _, rfl⟩ := ok_of_committed executed
  rw [ChatContext.Held, ← requestEq]
  exact GatewayLedger.not_holdsReserve_settle nonzero settled

theorem meets_insertPendingPaidReserve {entry : PaidReserveEntry} (met : state.2) :
    (Await.insertPendingPaidReserve context.auth entry).Meets (reserveContract context)
      (fun _ next => next.2) state := by
  refine ⟨trivial, ?_⟩
  rintro answer ⟨next, nextMet⟩ ⟨_, metEq⟩
  cases metEq
  exact ⟨met, trivial⟩

theorem reserveRules : HoldingRules (reserveContract context) context (holdsReserve context)
    (fun payload _ _ => MetUnlessHeld context
      ((requestUsageFromAdapterUsage payload.adapterUsage).tokenUsageForRating.isSome = true))
    (fun reason usage _ _ => MetUnlessHeld context
      (reason = .completed → usage.tokenUsageForRating.isSome = true))
    (MetUnlessHeld context False) where
  weaken held := ⟨held.1, fun cleared => absurd cleared Bool.false_ne_true⟩
  finish held := iff_of_true held.1 (held.2 rfl)
  neutral neutral held := (silent_of_neutral neutral).keeps_holds held
  insertReserve _ held := (meets_insertPendingPaidReserve held.1).mono fun _ _ met =>
    ⟨met, fun cleared => absurd cleared Bool.false_ne_true⟩
  releaseReserve held := (meets_releasePendingPaidReserve held.1).mono fun _ _ released =>
    ⟨released.1, fun _ => released.2⟩
  acquireSlot _ held := Silent.keeps_holds ⟨rfl, fun _ _ => trivial⟩ held
  releaseSlot held := Silent.keeps_holds ⟨rfl, fun _ _ => trivial⟩ held
  acquireReservation held := Silent.keeps_holds ⟨rfl, fun _ _ => trivial⟩ held
  releaseReservation held := Silent.keeps_holds ⟨rfl, fun _ _ => trivial⟩ held
  callProvider {route slot reserved cleared state} held := by
    refine meets_of_keeps rfl fun answer next heldIff => ?_
    rcases answer with error | payload
    · exact ⟨⟨held.1, trivial⟩, fun isCleared stillHeld => held.2 isCleared (heldIff.mp stillHeld)⟩
    · exact (and_iff_right held.1).trans (imp_congr_left heldIff.symm)
  streamEnd held := by
    refine meets_of_keeps rfl fun answer next heldIff => ?_
    exact (and_iff_right held.1).trans (Imp.swap.trans (imp_congr_left heldIff.symm))

/-! ## Settling -/

variable {slot : Bool} {route : ResolvedChatRoute} {attemptId : Uuid}
  {reservation : GatewayRateLimitReservationAttempt}

theorem tokenUsageForRating_isSome (rated : usage.tokenUsageForRating = some tokens) :
    usage.inputTokens.isSome = true ∧ usage.outputTokens.isSome = true := by
  cases inputEq : usage.inputTokens <;> cases outputEq : usage.outputTokens <;>
    simp [RequestUsageUpdate.tokenUsageForRating, inputEq, outputEq] at rated ⊢

theorem settleEntry_isSome_iff (rated : usage.tokenUsageForRating = some tokens) :
    (settleEntry context usage rating).isSome = true ↔
      ∃ update, rating = some update ∧ settleLedgerAmount update.finalCost ≠ none := by
  obtain ⟨inputSome, outputSome⟩ := tokenUsageForRating_isSome rated
  obtain ⟨inputTokens, inputEq⟩ := Option.isSome_iff_exists.mp inputSome
  obtain ⟨outputTokens, outputEq⟩ := Option.isSome_iff_exists.mp outputSome
  unfold settleEntry
  rw [inputEq, outputEq]
  cases rating with
  | none => simp
  | some update =>
    cases amountEq : settleLedgerAmount update.finalCost <;> simp [amountEq]

theorem settleEntry_eq_some (entryEq : settleEntry context usage rating = some entry) :
    entry.requestId = context.requestId ∧ settleLedgerAmount entry.finalCost ≠ none := by
  unfold settleEntry at entryEq
  split at entryEq
  · split at entryEq
    · contradiction
    · next notNone =>
      cases entryEq
      exact ⟨rfl, fun isNone => notNone (Option.isNone_iff_eq_none.mpr isNone)⟩
  · contradiction

theorem meets_rating {modelId : Uuid} {rated : ExtendedTokenUsage}
    (tokensEq : usage.tokenUsageForRating = some tokens) (met : state.2) :
    LeavesMet context (do match ← Await.resolveActivePriceVersion modelId (some rated) with
        | .ok (some priceVersion) => return requestRatingFromPriceVersion priceVersion rated
        | .ok none => return none
        | .error _ => return none : Handler (Option RequestRatingUpdate))
      (fun rating => (settleEntry context usage rating).isSome = true) state := by
  have priced : LeavesMet context (Await.resolveActivePriceVersion modelId (some rated))
      (priceSettles True rated) state := by
    refine meets_of_keeps rfl fun answer next heldIff => ?_
    refine (and_iff_right met).trans ((imp_congr_left heldIff.symm).trans ?_)
    exact imp_congr_right fun _ => ⟨fun settles _ => settles, fun settles => settles trivial⟩
  refine priced.bind fun answer next nextMet => ?_
  have settles : ∀ rating : Option RequestRatingUpdate, (priceSettles True rated answer ↔
        ∃ update, rating = some update ∧ settleLedgerAmount update.finalCost ≠ none) →
      MetUnlessHeld context ((settleEntry context usage rating).isSome = true) next := by
    intro rating settlesIff
    refine nextMet.trans (imp_congr_right fun _ => ?_)
    rw [settleEntry_isSome_iff tokensEq]
    exact settlesIff
  rcases answer with error | _ | priceVersion
  · refine settles none ?_
    simp [priceSettles]
  · refine settles none ?_
    simp [priceSettles]
  · refine settles (requestRatingFromPriceVersion priceVersion rated) ?_
    simp [priceSettles]

theorem settleRequestLedger_finishes
    (met : MetUnlessHeld context ((settleEntry context usage rating).isSome = true) state) :
    LeavesMet context (settleRequestLedger context usage rating) (fun _ => False) state := by
  unfold settleRequestLedger
  cases entryEq : settleEntry context usage rating with
  | none =>
    rw [entryEq] at met
    exact met.trans (imp_congr_right fun _ => iff_of_false Bool.false_ne_true not_false)
  | some entry =>
    rw [entryEq] at met
    obtain ⟨requestEq, nonzero⟩ := settleEntry_eq_some entryEq
    have settled := meets_insertConfirmedSettle requestEq nonzero (met.mpr fun _ => rfl)
    exact settled.bind fun _ _ cleared => iff_of_true cleared.1 cleared.2

theorem writeLog_keeps_met {log : GatewayLog} (met : MetUnlessHeld context settled state) :
    LeavesMet context (writeLog log) (fun _ => settled) state := by
  have logged : LeavesMet context (Await.writeLog log) (fun _ => settled) state :=
    Silent.keeps_met ⟨rfl, fun _ _ => trivial⟩ met
  exact logged.bind fun _ _ kept => kept

theorem releaseSlot_keeps_met (met : MetUnlessHeld context settled state) :
    LeavesMet context (releaseVirtualKeyConcurrencyIfNeeded context slot) (fun _ => settled)
      state := by
  cases slot with
  | false => exact met
  | true =>
    have released : LeavesMet context (Await.releaseVirtualKeyConcurrencySlot context.auth)
        (fun _ => settled) state :=
      Silent.keeps_met ⟨rfl, fun _ _ => trivial⟩ met
    exact released.bind fun _ _ kept => kept

theorem metUnlessHeld_unrated (tokensEq : usage.tokenUsageForRating = none)
    (met : MetUnlessHeld context (usage.tokenUsageForRating.isSome = true) state) :
    MetUnlessHeld context ((settleEntry context usage none).isSome = true) state := by
  rw [tokensEq] at met
  exact met

theorem rateUsageOnRoute_decides {rated : TokenUsage → ExtendedTokenUsage}
    (met : MetUnlessHeld context (usage.tokenUsageForRating.isSome = true) state) :
    LeavesMet context (rateUsageOnRoute route (usage.tokenUsageForRating.map rated))
      (fun rating => (settleEntry context usage rating).isSome = true) state := by
  cases tokensEq : usage.tokenUsageForRating with
  | none => exact metUnlessHeld_unrated tokensEq met
  | some tokens => exact meets_rating tokensEq (met.mpr fun _ => by rw [tokensEq]; rfl)

theorem completeChatCompletion_settles (met : MetUnlessHeld context
      ((requestUsageFromAdapterUsage payload.adapterUsage).tokenUsageForRating.isSome = true)
      state) : LeavesMet context
      (completeChatCompletion context slot route reservation attemptId payload) (fun _ => False)
      state := by
  refine (writeLog_keeps_met met).bind fun _ _ met => ?_
  refine (writeLog_keeps_met met).bind fun _ _ met => ?_
  refine (rateUsageOnRoute_decides met).bind fun rating _ met => ?_
  refine (writeLog_keeps_met met).bind fun _ _ met => ?_
  refine (settleRequestLedger_finishes met).bind fun _ _ met => ?_
  exact (releaseSlot_keeps_met met).bind fun _ _ met => met

theorem finishStream_settles_completed {usage : StreamUsageUpdate}
    (met : MetUnlessHeld context (usage.tokenUsageForRating.isSome = true) state) :
    LeavesMet context (finishStream context slot route reservation attemptId .completed usage)
      (fun _ => False) state := by
  refine (rateUsageOnRoute_decides met).bind fun rating _ met => ?_
  refine (writeLog_keeps_met met).bind fun _ _ met => ?_
  refine (writeLog_keeps_met met).bind fun _ _ met => ?_
  refine (settleRequestLedger_finishes met).bind fun _ _ met => ?_
  refine (writeLog_keeps_met met).bind fun _ _ met => ?_
  exact releaseSlot_keeps_met met

theorem finishStream_releases {usage : StreamUsageUpdate}
    (attempt : HoldingRules.AttemptReservation context reservation)
    (notCompleted : reason ≠ .completed) (met : state.2) :
    LeavesMet context (finishStream context slot route reservation attemptId reason usage)
      (fun _ => False) state := by
  have held : holdsReserve context slot (HoldingRules.heldRoute route reservation) false state :=
    ⟨met, fun cleared => absurd cleared Bool.false_ne_true⟩
  unfold finishStream
  simp only [if_neg notCompleted]
  have released : LeavesMet context (releaseUnfinishedStream context route reservation reason)
      (fun _ => False) state :=
    (reserveRules.releaseUnfinishedStream_meets attempt notCompleted held).mono
      fun _ _ cleared => iff_of_true cleared.1 (cleared.2 rfl)
  refine released.bind fun _ _ met => ?_
  refine (writeLog_keeps_met met).bind fun _ _ met => ?_
  refine (writeLog_keeps_met met).bind fun _ _ met => ?_
  refine (writeLog_keeps_met met).bind fun _ _ met => ?_
  exact releaseSlot_keeps_met met

theorem finishStream_settles {usage : StreamUsageUpdate}
    (attempt : HoldingRules.AttemptReservation context reservation) (met : MetUnlessHeld context
      (reason = .completed → usage.tokenUsageForRating.isSome = true) state) :
    LeavesMet context (finishStream context slot route reservation attemptId reason usage)
      (fun _ => False) state := by
  by_cases completed : reason = .completed
  · subst completed
    refine finishStream_settles_completed (met.trans (imp_congr_right fun _ => ?_))
    exact forall_prop_of_true rfl
  · exact finishStream_releases attempt completed
      (met.mpr fun _ isCompleted => absurd isCompleted completed)

/-! ## Runs -/

/-- A finished request has no pending reserve exactly if every answer that ended
its attempts with a reserve held could be settled. -/
theorem reserve_cleared_iff (context : ChatContext) {tables last : GatewayTables}
    {steps : List (Step GatewayCall.Answer GatewayTables)} {response : ChatResponse}
    (fresh : ¬ context.Held tables)
    (run : Runs (reserveEffects context) (chatCompletions context) tables steps response last) :
    ¬ context.Held last ↔ ∀ step ∈ steps, SettlesReserve context step := by
  have start : holdsReserve context false none true (tables, True) := ⟨trivial, fun _ => fresh⟩
  have meets := reserveRules.chatCompletions_meets (fun _ met => completeChatCompletion_settles met)
    (fun attempt met => finishStream_settles attempt met) start
  have finished := run.post_of_meets meets
  exact finished.symm.trans (and_iff_right trivial)

/-- The sample request, answered with a payload. -/
def sampleRun (payload : ProviderPayload) :
    Option (List (Step GatewayCall.Answer GatewayTables) × ChatResponse × GatewayTables) :=
  play (sampleRespond (.ok payload)) (chatCompletions sampleChat) sampleGatewayTables

theorem runs_of_sampleRun
    {played : List (Step GatewayCall.Answer GatewayTables) × ChatResponse × GatewayTables}
    (playedEq : sampleRun payload = some played) :
    Runs (reserveEffects sampleChat) (chatCompletions sampleChat) sampleGatewayTables
      played.1 played.2.1 played.2.2 := by
  refine runs_of_play ?_ playedEq
  intro call tables answered responded
  exact ⟨tables, .refl, sampleRespond_succeeds (.ok payload) call tables answered responded⟩

theorem reserve_cleared_iff_sampleChat : ∃ steps response last,
      Runs (reserveEffects sampleChat) (chatCompletions sampleChat) sampleGatewayTables
        steps response last ∧ ¬ sampleChat.Held sampleGatewayTables ∧ ¬ sampleChat.Held last ∧
      ∀ step ∈ steps, SettlesReserve sampleChat step := by
  have cleared : (sampleRun ⟨some ⟨some 3, some 4⟩, .ok none⟩).any
      (fun played => decide (¬ sampleChat.Held played.2.2)) = true := by decide +kernel
  obtain ⟨played, playedEq, notHeld⟩ := (Option.any_eq_true _ _).mp cleared
  have fresh : ¬ sampleChat.Held sampleGatewayTables := by decide +kernel
  have run := runs_of_sampleRun playedEq
  exact ⟨_, _, _, run, fresh, of_decide_eq_true notHeld,
    (reserve_cleared_iff sampleChat fresh run).mp (of_decide_eq_true notHeld)⟩

/-- A provider that answers without usage: the request is completed, and its
reserve stays pending. -/
theorem unreportedUsage_keeps_reserve : ∃ steps last,
      Runs (reserveEffects sampleChat) (chatCompletions sampleChat) sampleGatewayTables
        steps (.completion sampleChat.requestId) last ∧
      ¬ sampleChat.Held sampleGatewayTables ∧ sampleChat.Held last := by
  have kept : (sampleRun ⟨none, .ok none⟩).any (fun played =>
      decide (played.2.1 = .completion sampleChat.requestId ∧ sampleChat.Held played.2.2)) =
        true := by decide +kernel
  obtain ⟨⟨steps, response, last⟩, playedEq, completed⟩ := (Option.any_eq_true _ _).mp kept
  obtain ⟨rfl, held⟩ := of_decide_eq_true completed
  exact ⟨steps, last, runs_of_sampleRun playedEq, by decide +kernel, held⟩

end FuboxApi
