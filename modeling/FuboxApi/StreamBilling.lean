import FuboxApi.ChatHandler
import FuboxApi.StreamObservation
import FuboxApi.UsageRatingSpec

/-!
# Billing a forwarded stream

The finalizer settles the request only if the end reason is completed, and the destructor always
gives that of a cancelling client. So a completion is billed if the end of the upstream is read
before the body is dropped.
-/

namespace FuboxApi

open TransitionRuns

/-! ## The finalizer -/

structure StreamLogOutcome where
  status : String
  httpStatus : Nat
  errorOwner : Option String
  errorCode : Option String
  retryable : Option Bool

def StreamLogOutcome.fromEndReason : StreamEndReason → StreamLogOutcome
  | .completed => ⟨"succeeded", 200, none, none, none⟩
  | .clientCancel => ⟨"cancelled", 499, some "client", some "stream_client_cancel", some false⟩
  | .upstreamEof => ⟨"failed", 502, some "provider", some "stream_upstream_eof", some true⟩
  | .upstreamError => ⟨"failed", 502, some "network", some "stream_upstream_error", some true⟩
  | .parserError => ⟨"failed", 502, some "parser", some "stream_parser_error", some true⟩
  | .timeout => ⟨"failed", 504, some "network", some "stream_timeout", some true⟩
  | .gatewayAbort => ⟨"failed", 500, some "gateway", some "stream_gateway_abort", some true⟩

def streamRequestStatus (partialSent : Bool) (endReason : StreamEndReason)
    (fallbackStatus : String) : String :=
  match endReason with
  | .completed => "succeeded"
  | .clientCancel => "cancelled"
  | _ => if partialSent then "partial" else fallbackStatus

/-- The log row of the request, without its times. -/
structure StreamRequestFinalUpdate where
  status : String
  outcome : StreamLogOutcome
  partialSent : Bool
  endReason : StreamEndReason
  usage : RequestUsageUpdate
  rating : Option RequestRatingUpdate

def streamRequestFinalUpdate (partialSent : Bool) (endReason : StreamEndReason)
    (usage : RequestUsageUpdate) (rating : Option RequestRatingUpdate) : StreamRequestFinalUpdate :=
  let outcome := StreamLogOutcome.fromEndReason endReason
  let usage := if endReason = .completed ∧ usage.isComplete = true then usage else ⟨none, none⟩
  { status := streamRequestStatus partialSent endReason outcome.status
    outcome := outcome
    partialSent := partialSent
    endReason := endReason
    usage := usage
    rating := if usage.isComplete then rating else none }

def streamRatingFromPriceVersion (priceVersion : ResolvedPriceVersion) (usage : TokenUsage) :
    Option RequestRatingUpdate :=
  requestRatingFromPriceVersion priceVersion usage.extended

def streamLedgerSettleEntry (requestId : Uuid) (endReason : StreamEndReason)
    (usage : RequestUsageUpdate) (rating : Option RequestRatingUpdate) : Option LedgerSettleEntry :=
  if endReason ≠ .completed then none
  else do
    let rating ← rating
    let _ ← usage.inputTokens
    let _ ← usage.outputTokens
    let _ ← settleLedgerAmount rating.finalCost
    return ⟨requestId, rating.finalCost, rating.currency⟩

namespace StartedFinalization

/-- The rating of a finalizer, given the price version of the model. -/
def rating (finalization : StartedFinalization) (priceVersion : Option ResolvedPriceVersion) :
    Option RequestRatingUpdate :=
  if finalization.endReason = .completed then do
    let usage ← finalization.usage.tokenUsageForRating
    streamRatingFromPriceVersion (← priceVersion) usage
  else none

/-- What the finalizer records of the request. -/
def requestUpdate (finalization : StartedFinalization)
    (priceVersion : Option ResolvedPriceVersion) : StreamRequestFinalUpdate :=
  streamRequestFinalUpdate finalization.partialSent finalization.endReason finalization.usage
    (finalization.rating priceVersion)

def settleEntry (finalization : StartedFinalization) (requestId : Uuid)
    (priceVersion : Option ResolvedPriceVersion) : Option LedgerSettleEntry :=
  streamLedgerSettleEntry requestId finalization.endReason finalization.usage
    (finalization.rating priceVersion)

end StartedFinalization

/-! ## What has been observed when the body is dropped -/

namespace StreamProgress

def afterRead (progress : StreamProgress) : UpstreamRead → StreamProgress
  | .chunk bytes => (progress.observeChunk bytes).2
  | .eof => progress.observeEof.2
  | .readError | .idleTimeout => progress

/-- The upstream is read to its end: every chunk is accepted, and so are the bytes that
are left at the end. -/
def endsCleanly (progress : StreamProgress) : List UpstreamRead → Bool
  | .chunk bytes :: later =>
    (progress.observeChunk bytes).1.isOk && (progress.observeChunk bytes).2.endsCleanly later
  | .eof :: _ => progress.observeEof.1.isOk
  | _ => false

def endReasonOf (progress : StreamProgress) : UpstreamRead → Option StreamEndReason
  | .chunk bytes =>
    match (progress.observeChunk bytes).1 with
    | .ok _ => none
    | .error error => some (streamForwardFailureReason error.failureKind)
  | .readError => some (streamForwardFailureReason .upstreamReadError)
  | .eof => some (StreamBody.eofEndReason progress.observeEof.1)
  | .idleTimeout => some (streamForwardFailureReason .timeout)

variable {progress : StreamProgress} {read : UpstreamRead}

theorem endsCleanly_of_goes_on (goesOn : progress.endReasonOf read = none)
    (later : List UpstreamRead) :
    progress.endsCleanly (read :: later) = (progress.afterRead read).endsCleanly later := by
  cases read with
  | chunk bytes =>
    cases observed : (progress.observeChunk bytes).1 with
    | error error => simp [endReasonOf, observed] at goesOn
    | ok => simp [endsCleanly, afterRead, observed, Except.isOk, Except.toBool]
  | readError => cases goesOn
  | eof => cases goesOn
  | idleTimeout => cases goesOn

theorem streamForwardFailureReason_ne_completed (failure : StreamForwardFailureKind) :
    streamForwardFailureReason failure ≠ .completed := by
  cases failure <;> decide

theorem endsCleanly_of_ends {reason : StreamEndReason}
    (ends : progress.endReasonOf read = some reason) (later : List UpstreamRead) :
    (progress.endsCleanly (read :: later) = true ∧
        reason = streamEndReasonForTerminalKind (progress.afterRead read).terminalKind
          .upstreamEof) ∨ (progress.endsCleanly (read :: later) = false ∧ reason ≠ .completed) := by
  cases read with
  | chunk bytes =>
    cases observed : (progress.observeChunk bytes).1 with
    | ok => simp [endReasonOf, observed] at ends
    | error error =>
      simp only [endReasonOf, observed, Option.some.injEq] at ends
      refine .inr ⟨?_, ends ▸ streamForwardFailureReason_ne_completed _⟩
      simp [endsCleanly, observed, Except.isOk, Except.toBool]
  | readError | idleTimeout =>
    obtain rfl := Option.some.inj ends
    exact .inr ⟨rfl, streamForwardFailureReason_ne_completed _⟩
  | eof =>
    obtain rfl := Option.some.inj ends
    cases observed : progress.observeEof.1 with
    | ok reason =>
      obtain ⟨_, _, rfl⟩ := CheckedFold.map_eq_ok.mp observed
      refine .inl ⟨?_, rfl⟩
      rw [endsCleanly, observed]
      rfl
    | error error =>
      refine .inr ⟨?_, by simp [StreamBody.eofEndReason]⟩
      rw [endsCleanly, observed]
      rfl

end StreamProgress

namespace StreamBody

variable {body : StreamBody}

theorem poll_of_ended (finalized : Finalized body) (ended : body.isForwarding = false)
    (read : Option UpstreamRead) (finalizerEnded : Bool) :
    (body.poll read finalizerEnded).1.started = body.started ∧
      (body.poll read finalizerEnded).1.isForwarding = false := by
  obtain ⟨phase, started⟩ := body
  rcases phase with (_ | state) | state | ⟨state, item⟩ | _ | _
  · exact ⟨rfl, rfl⟩
  · cases ended
  · cases ended
  · have unchanged : state.drop started = started := drop_of_claimed finalized.1
    cases finalizerEnded with
    | false => exact ⟨rfl, rfl⟩
    | true =>
      cases item with
      | none | some endReason => exact ⟨unchanged, rfl⟩
  · exact ⟨rfl, rfl⟩
  · exact ⟨rfl, rfl⟩

theorem finish_of_free (progress : StreamProgress) (endReason : StreamEndReason)
    (item : Option StreamEndReason) (finalizerEnded : Bool) :
    (finish ⟨progress, false⟩ endReason item finalizerEnded []).1.started =
        [⟨.upstream, endReason, progress.partialSent, progress.usage⟩] ∧
      (finish ⟨progress, false⟩ endReason item finalizerEnded []).1.isForwarding = false := by
  cases finalizerEnded with
  | false => exact ⟨rfl, rfl⟩
  | true =>
    cases item with
    | none => exact ⟨rfl, rfl⟩
    | some endReason => exact ⟨rfl, rfl⟩

theorem afterRead_of_ends {progress : StreamProgress} {read : UpstreamRead}
    {reason : StreamEndReason} (ends : progress.endReasonOf read = some reason)
    (finalizerEnded : Bool) : ∃ item, afterRead ⟨progress, false⟩ read finalizerEnded [] =
      finish ⟨progress.afterRead read, false⟩ reason item finalizerEnded [] := by
  cases read with
  | chunk bytes =>
    cases observed : (progress.observeChunk bytes).1 with
    | ok => simp [StreamProgress.endReasonOf, observed] at ends
    | error error =>
      simp only [StreamProgress.endReasonOf, observed, Option.some.injEq] at ends
      subst ends
      refine ⟨some (streamForwardFailureReason error.failureKind), ?_⟩
      simp only [afterRead, observed]
      rfl
  | readError | idleTimeout =>
    obtain rfl := Option.some.inj ends
    exact ⟨_, rfl⟩
  | eof =>
    obtain rfl := Option.some.inj ends
    exact ⟨none, rfl⟩

end StreamBody

/-- A body, and what has been observed of its upstream. -/
structure WatchedBody where
  body : StreamBody
  observed : StreamProgress

namespace WatchedBody

open StreamBody

def new (progress : StreamProgress) : WatchedBody :=
  ⟨.new progress, progress⟩

/-- A poll reads the upstream as long as the body forwards it. -/
def poll (watched : WatchedBody) (input : Option UpstreamRead × Bool) : WatchedBody × BodyPoll :=
  let polled := watched.body.poll input.1 input.2
  (⟨polled.1, if watched.body.isForwarding then
      input.1.elim watched.observed watched.observed.afterRead
    else watched.observed⟩, polled.2)

/-- What polls leave behind. -/
def polled (watched : WatchedBody) (polls : List (Option UpstreamRead × Bool)) : WatchedBody :=
  stateAfter poll watched polls

/-- What the polls of a body that goes on would read. -/
def upstreamReads (polls : List (Option UpstreamRead × Bool)) : List UpstreamRead :=
  polls.filterMap Prod.fst

/-- The body forwards a state that no one has claimed. -/
inductive Forwards : WatchedBody → Prop
  | value (progress : StreamProgress) : Forwards ⟨⟨.value (some ⟨progress, false⟩), []⟩, progress⟩
  | awaitingChunk (progress : StreamProgress) :
      Forwards ⟨⟨.awaitingChunk ⟨progress, false⟩, []⟩, progress⟩

theorem forwards_new (progress : StreamProgress) : Forwards (new progress) :=
  .value progress

/-- The finalizer of the body has been started. -/
structure Ended (watched : WatchedBody) (finalization : StartedFinalization) : Prop where
  finalized : Finalized watched.body
  notForwarding : watched.body.isForwarding = false
  started : watched.body.started = [finalization]

variable {watched : WatchedBody} {finalization : StartedFinalization}

theorem Ended.poll (ended : Ended watched finalization) (input : Option UpstreamRead × Bool) :
    Ended (watched.poll input).1 finalization ∧
      (watched.poll input).1.observed = watched.observed := by
  obtain ⟨started, notForwarding⟩ :=
    poll_of_ended ended.finalized ended.notForwarding input.1 input.2
  refine ⟨⟨finalized_poll ended.finalized input.1, notForwarding, ?_⟩, ?_⟩
  · rw [WatchedBody.poll, started, ended.started]
  · rw [WatchedBody.poll, ended.notForwarding]
    rfl

theorem Ended.polled (ended : Ended watched finalization)
    (polls : List (Option UpstreamRead × Bool)) : Ended (watched.polled polls) finalization ∧
      (watched.polled polls).observed = watched.observed := by
  induction polls generalizing watched with
  | nil => exact ⟨ended, rfl⟩
  | cons input later ih =>
    obtain ⟨next, same⟩ := ended.poll input
    obtain ⟨final, unchanged⟩ := ih next
    exact ⟨final, unchanged.trans same⟩

theorem Forwards.poll_pending (forwards : Forwards watched) (finalizerEnded : Bool) :
    Forwards (watched.poll (none, finalizerEnded)).1 ∧
      (watched.poll (none, finalizerEnded)).1.observed = watched.observed := by
  cases forwards with
  | value progress | awaitingChunk progress => exact ⟨.awaitingChunk progress, rfl⟩

theorem Forwards.poll_eq (forwards : Forwards watched) (read : UpstreamRead)
    (finalizerEnded : Bool) : (watched.poll (some read, finalizerEnded)).1 =
      ⟨(afterRead ⟨watched.observed, false⟩ read finalizerEnded []).1,
        watched.observed.afterRead read⟩ := by
  cases forwards with
  | value progress => rfl
  | awaitingChunk progress => rfl

variable {read : UpstreamRead} (forwards : Forwards watched)

include forwards

theorem Forwards.poll_goes_on (goesOn : watched.observed.endReasonOf read = none)
    (finalizerEnded : Bool) : Forwards (watched.poll (some read, finalizerEnded)).1 := by
  rw [forwards.poll_eq read finalizerEnded]
  cases read with
  | chunk bytes =>
    cases observed : (watched.observed.observeChunk bytes).1 with
    | error error => simp [StreamProgress.endReasonOf, observed] at goesOn
    | ok =>
      have next : (StreamBody.afterRead ⟨watched.observed, false⟩ (.chunk bytes)
          finalizerEnded []).1 =
            ⟨.value (some ⟨(watched.observed.observeChunk bytes).2, false⟩), []⟩ := by
        simp [StreamBody.afterRead, observed]
      rw [next]
      exact .value _
  | readError => cases goesOn
  | eof => cases goesOn
  | idleTimeout => cases goesOn

theorem Forwards.poll_ends {reason : StreamEndReason}
    (ends : watched.observed.endReasonOf read = some reason) (finalizerEnded : Bool) :
    Ended (watched.poll (some read, finalizerEnded)).1
      ⟨.upstream, reason, (watched.observed.afterRead read).partialSent,
        (watched.observed.afterRead read).usage⟩ := by
  obtain ⟨item, finished⟩ := afterRead_of_ends ends finalizerEnded
  obtain ⟨started, notForwarding⟩ :=
    finish_of_free (watched.observed.afterRead read) reason item finalizerEnded
  rw [forwards.poll_eq read finalizerEnded]
  refine ⟨finalized_afterRead rfl read, ?_, ?_⟩
  · rw [finished, notForwarding]
  · rw [finished, started]

/-- Either the body still forwards, or its finalizer has what was observed, and the end
reason of a clean end or one that is not completed. -/
theorem Forwards.polled (polls : List (Option UpstreamRead × Bool)) :
    (Forwards (watched.polled polls) ∧ watched.observed.endsCleanly (upstreamReads polls) = false) ∨
      ∃ finalization, Ended (watched.polled polls) finalization ∧
        finalization.usage = (watched.polled polls).observed.usage ∧
        ((watched.observed.endsCleanly (upstreamReads polls) = true ∧
            finalization.endReason = streamEndReasonForTerminalKind
              (watched.polled polls).observed.terminalKind .upstreamEof) ∨
          (watched.observed.endsCleanly (upstreamReads polls) = false ∧
            finalization.endReason ≠ .completed)) := by
  induction polls generalizing watched with
  | nil => exact .inl ⟨forwards, rfl⟩
  | cons input later ih =>
    obtain ⟨read, finalizerEnded⟩ := input
    cases read with
    | none =>
      obtain ⟨next, same⟩ := forwards.poll_pending finalizerEnded
      have whole := ih next
      rw [same] at whole
      exact whole
    | some read =>
      have observedEq : (watched.poll (some read, finalizerEnded)).1.observed =
          watched.observed.afterRead read := by
        rw [forwards.poll_eq]
      have readsEq : upstreamReads ((some read, finalizerEnded) :: later) =
          read :: upstreamReads later := rfl
      rw [readsEq]
      cases ends : watched.observed.endReasonOf read with
      | none =>
        rw [StreamProgress.endsCleanly_of_goes_on ends, ← observedEq]
        exact ih (forwards.poll_goes_on ends finalizerEnded)
      | some reason =>
        obtain ⟨ended, unchanged⟩ := (forwards.poll_ends ends finalizerEnded).polled later
        have finalObserved : (watched.polled ((some read, finalizerEnded) :: later)).observed =
              watched.observed.afterRead read := unchanged.trans observedEq
        rw [finalObserved]
        exact .inr ⟨_, ended, rfl, StreamProgress.endsCleanly_of_ends ends _⟩

theorem Forwards.started_dropBody : watched.body.dropBody.started =
      [⟨.bodyDropped, .clientCancel, watched.observed.partialSent, watched.observed.usage⟩] := by
  cases forwards with
  | value progress => rfl
  | awaitingChunk progress => rfl

end WatchedBody

open WatchedBody

/-- One unit for each token of input. -/
def unitRate : I128 :=
  ⟨1000000, by decide, by decide⟩

def unitPriceVersion : ResolvedPriceVersion :=
  ⟨Uuid.nil, some (inputPricing unitRate)⟩

end FuboxApi
