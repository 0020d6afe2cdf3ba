import FuboxApi.SseDecoder
import FuboxApi.TransitionRuns
import FuboxApi.UsageRating

/-!
# The finalization of a forwarded stream

The body is polled by the server and may be dropped at any time; a poll runs until it has to wait.
Whoever wins the claim of the stream starts its finalizer: the polled future, or the destructor of
the forwarding state.
-/

namespace FuboxApi

open TransitionRuns

/-! ## Progress -/

inductive StreamEndSignal where
  | terminalEvent
  | upstreamEof
  | upstreamError
  | parserError
  | clientCancel
  | timeout
  | gatewayAbort

def TerminalEventKind.isTerminal (kind : TerminalEventKind) : Bool :=
  kind ≠ .none

def streamEndReason (terminalSeen : Bool) : StreamEndSignal → StreamEndReason
  | .terminalEvent => .completed
  | .upstreamEof => if terminalSeen then .completed else .upstreamEof
  | .upstreamError => .upstreamError
  | .parserError => .parserError
  | .clientCancel => .clientCancel
  | .timeout => .timeout
  | .gatewayAbort => .gatewayAbort

def streamEndReasonForTerminalKind (terminalKind : TerminalEventKind) :
    StreamEndSignal → StreamEndReason
  | .terminalEvent =>
    match terminalKind with
    | .failed => .upstreamError
    | .completed => .completed
    | .none => .upstreamEof
  | .upstreamEof =>
    if terminalKind = .failed then .upstreamError
    else streamEndReason terminalKind.isTerminal .upstreamEof
  | signal => streamEndReason terminalKind.isTerminal signal

structure StreamEventObservation where
  terminalKind : TerminalEventKind
  usage : Option RequestUsageUpdate

inductive StreamChunkError where
  | decode (error : SseDecodeError)
  | protocolParser (message : String)
  | chunkTooLarge (len max : Nat)
deriving DecidableEq

abbrev ChunkResult :=
  Except StreamChunkError

/-- What is known about a stream. The protocol is what it makes of an event. -/
structure StreamProgress where
  protocol : SseEvent → ChunkResult StreamEventObservation
  decoder : SseDecoder
  maxChunkBytes : Nat
  partialSent : Bool
  terminalKind : TerminalEventKind
  usage : RequestUsageUpdate

namespace StreamProgress

def new (protocol : SseEvent → ChunkResult StreamEventObservation)
    (maxEventBytes maxChunkBytes : Nat) : StreamProgress :=
  ⟨protocol, .new maxEventBytes, maxChunkBytes, false, .none, ⟨none, none⟩⟩

def observeEvent (progress : StreamProgress) (event : SseEvent) : ChunkResult StreamProgress := do
  let observation ← progress.protocol event
  let progress := { progress with usage := observation.usage.getD progress.usage }
  return if observation.terminalKind.isTerminal then
      { progress with terminalKind := observation.terminalKind }
    else { progress with partialSent := progress.partialSent || !event.data.isEmpty }

/-- The events up to the first that is refused. -/
def observeEvents (progress : StreamProgress) : List SseEvent → ChunkResult Unit × StreamProgress
  | [] => (.ok (), progress)
  | event :: later =>
    match progress.observeEvent event with
    | .error error => (.error error, progress)
    | .ok next => next.observeEvents later

def observeDecoded (progress : StreamProgress)
    (decoded : Except SseDecodeError (List SseEvent) × SseDecoder) :
    ChunkResult Unit × StreamProgress :=
  let progress := { progress with decoder := decoded.2 }
  match decoded.1 with
  | .error error => (.error (.decode error), progress)
  | .ok events => progress.observeEvents events

def observeChunk (progress : StreamProgress) (chunk : Bytes) : ChunkResult Unit × StreamProgress :=
  if progress.maxChunkBytes < chunk.length then
    (.error (.chunkTooLarge chunk.length progress.maxChunkBytes), progress)
  else progress.observeDecoded (progress.decoder.push chunk)

def observeEof (progress : StreamProgress) : ChunkResult StreamEndReason × StreamProgress :=
  let (observed, progress) := progress.observeDecoded progress.decoder.finish
  (observed.map fun _ => streamEndReasonForTerminalKind progress.terminalKind .upstreamEof,
    progress)

end StreamProgress

inductive StreamForwardFailureKind where
  | upstreamReadError
  | decodeError
  | chunkTooLarge
  | timeout

def StreamChunkError.failureKind : StreamChunkError → StreamForwardFailureKind
  | decode _ => .decodeError
  | protocolParser _ => .decodeError
  | chunkTooLarge _ _ => .chunkTooLarge

/-- The end reason of `stream_forward_failure_contract`. -/
def streamForwardFailureReason : StreamForwardFailureKind → StreamEndReason
  | .upstreamReadError => .upstreamError
  | .decodeError => .parserError
  | .chunkTooLarge => .parserError
  | .timeout => .timeout

/-- The end reason of `stream_downstream_close_contract`. -/
def streamDownstreamCloseReason : StreamEndReason := .clientCancel

/-! ## The body -/

/-- Who starts a finalizer. -/
inductive FinalizationTrigger where
  | upstream
  | bodyDropped
deriving DecidableEq

structure StartedFinalization where
  trigger : FinalizationTrigger
  endReason : StreamEndReason
  partialSent : Bool
  usage : RequestUsageUpdate
deriving DecidableEq

/-- The state that the polled future owns, with the flag of its claim. -/
structure ForwardStreamState where
  progress : StreamProgress
  claimed : Bool

namespace ForwardStreamState

/-- An atomic swap: whether the claim was won, and the state after it. -/
def tryClaim (state : ForwardStreamState) : Bool × ForwardStreamState :=
  (!state.claimed, { state with claimed := true })

def finalizationSnapshot (state : ForwardStreamState) (trigger : FinalizationTrigger)
    (endReason : StreamEndReason) : StartedFinalization :=
  ⟨trigger, endReason, state.progress.partialSent, state.progress.usage⟩

/-- The destructor, given the finalizers started so far. -/
def drop (state : ForwardStreamState) (started : List StartedFinalization) :
    List StartedFinalization :=
  let (won, state) := state.tryClaim
  if won then started ++ [state.finalizationSnapshot .bodyDropped streamDownstreamCloseReason]
  else started

end ForwardStreamState

/-- Where the body is: a state waits for the next poll, the future of a poll is
suspended, or everything is over. After a finalizer the future yields an error
or ends the stream. -/
inductive BodyPhase where
  | value (state : Option ForwardStreamState)
  | awaitingChunk (state : ForwardStreamState)
  | awaitingFinalizer (state : ForwardStreamState) (item : Option StreamEndReason)
  | empty
  | dropped

structure StreamBody where
  phase : BodyPhase
  started : List StartedFinalization

inductive UpstreamRead where
  | chunk (bytes : Bytes)
  | readError
  | eof
  | idleTimeout

/-- A poll meets an upstream that has something to read or not, and a finalizer
that has ended or not. -/
inductive BodyEvent where
  | poll (read : Option UpstreamRead) (finalizerEnded : Bool)
  | drop

inductive BodyPoll where
  | pending
  | chunk (bytes : Bytes)
  | failed (endReason : StreamEndReason)
  | ended

namespace StreamBody

def new (progress : StreamProgress) : StreamBody :=
  ⟨.value (some ⟨progress, false⟩), []⟩

/-- The future of a poll returns after its finalizer; its state is destroyed. -/
def complete (state : ForwardStreamState) (item : Option StreamEndReason)
    (started : List StartedFinalization) : StreamBody × BodyPoll :=
  match item with
  | some endReason => (⟨.value none, state.drop started⟩, .failed endReason)
  | none => (⟨.empty, state.drop started⟩, .ended)

/-- `ForwardStreamState::finish`, up to its suspension or the end of the poll. -/
def finish (state : ForwardStreamState) (endReason : StreamEndReason)
    (item : Option StreamEndReason) (finalizerEnded : Bool) (started : List StartedFinalization) :
    StreamBody × BodyPoll :=
  let snapshot := state.finalizationSnapshot .upstream endReason
  let (won, state) := state.tryClaim
  if !won then complete state item started
  else if finalizerEnded then complete state item (started ++ [snapshot])
  else (⟨.awaitingFinalizer state item, started ++ [snapshot]⟩, .pending)

/-- `finish` with a failure that the body then yields as an error. -/
def fail (state : ForwardStreamState) (failure : StreamForwardFailureKind) (finalizerEnded : Bool)
    (started : List StartedFinalization) : StreamBody × BodyPoll :=
  finish state (streamForwardFailureReason failure) (some (streamForwardFailureReason failure))
    finalizerEnded started

/-- Trailing bytes that cannot be parsed end the stream like bytes before them. -/
def eofEndReason : ChunkResult StreamEndReason → StreamEndReason
  | .ok endReason => endReason
  | .error _ => .parserError

/-- The future of a poll once the upstream has something to read. -/
def afterRead (state : ForwardStreamState) (read : UpstreamRead) (finalizerEnded : Bool)
    (started : List StartedFinalization) : StreamBody × BodyPoll :=
  match read with
  | .chunk bytes =>
    let (observed, progress) := state.progress.observeChunk bytes
    let state := { state with progress }
    match observed with
    | .ok _ => (⟨.value (some state), started⟩, .chunk bytes)
    | .error error => fail state error.failureKind finalizerEnded started
  | .readError => fail state .upstreamReadError finalizerEnded started
  | .eof =>
    let (observed, progress) := state.progress.observeEof
    let state := { state with progress }
    finish state (eofEndReason observed) none finalizerEnded started
  | .idleTimeout => fail state .timeout finalizerEnded started

/-- The future of a poll at its first suspension point. -/
def readUpstream (state : ForwardStreamState) (read : Option UpstreamRead) (finalizerEnded : Bool)
    (started : List StartedFinalization) : StreamBody × BodyPoll :=
  match read with
  | none => (⟨.awaitingChunk state, started⟩, .pending)
  | some read => afterRead state read finalizerEnded started

def poll (body : StreamBody) (read : Option UpstreamRead) (finalizerEnded : Bool) :
    StreamBody × BodyPoll :=
  match body.phase with
  | .value none => (⟨.empty, body.started⟩, .ended)
  | .value (some state) => readUpstream state read finalizerEnded body.started
  | .awaitingChunk state => readUpstream state read finalizerEnded body.started
  | .awaitingFinalizer state item =>
    if finalizerEnded then complete state item body.started else (body, .pending)
  | .empty => (body, .ended)
  | .dropped => (body, .ended)

/-- Dropping the body drops the state that it or its future owns. -/
def dropBody (body : StreamBody) : StreamBody :=
  match body.phase with
  | .value (some state) => ⟨.dropped, state.drop body.started⟩
  | .awaitingChunk state => ⟨.dropped, state.drop body.started⟩
  | .awaitingFinalizer state _ => ⟨.dropped, state.drop body.started⟩
  | _ => ⟨.dropped, body.started⟩

def step (body : StreamBody) : BodyEvent → StreamBody × BodyPoll
  | .poll read finalizerEnded => body.poll read finalizerEnded
  | .drop => (body.dropBody, .ended)

/-- The body still has something to forward. -/
def isForwarding (body : StreamBody) : Bool :=
  match body.phase with
  | .value (some _) => true
  | .awaitingChunk _ => true
  | _ => false

/-! ## Exactly once -/

/-- One finalizer, with client cancel exactly if the body was dropped. -/
def StartedOnce (started : List StartedFinalization) : Prop :=
  ∃ finalization, started = [finalization] ∧
    (finalization.trigger = .upstream ↔ finalization.endReason ≠ .clientCancel)

/-- While there is something to forward the claim is free and no finalizer is
started; from then on one is. -/
def Finalized (body : StreamBody) : Prop :=
  match body.phase with
  | .value (some state) => state.claimed = false ∧ body.started = []
  | .awaitingChunk state => state.claimed = false ∧ body.started = []
  | .awaitingFinalizer state _ => state.claimed = true ∧ StartedOnce body.started
  | _ => StartedOnce body.started

section

variable {state : ForwardStreamState} {started : List StartedFinalization} {body : StreamBody}
  {item : Option StreamEndReason} {endReason : StreamEndReason} {finalizerEnded : Bool}

theorem drop_of_claimed (claimed : state.claimed = true) : state.drop started = started := by
  simp [ForwardStreamState.drop, ForwardStreamState.tryClaim, claimed]

theorem startedOnce_drop (free : state.claimed = false) : StartedOnce (state.drop []) := by
  simp only [ForwardStreamState.drop, ForwardStreamState.tryClaim, free, Bool.not_false, if_true]
  refine ⟨_, rfl, iff_of_false (fun upstream => ?_) (not_not_intro rfl)⟩
  cases upstream

theorem finalized_complete (claimed : state.claimed = true) (once : StartedOnce started) :
    Finalized (complete state item started).1 := by
  have unchanged : state.drop started = started := drop_of_claimed claimed
  cases item with
  | some endReason | none =>
    rw [complete, unchanged]
    exact once

theorem startedOnce_upstream (notCancel : endReason ≠ .clientCancel) :
    StartedOnce ([] ++ [state.finalizationSnapshot .upstream endReason]) :=
  ⟨_, rfl, iff_of_true rfl notCancel⟩

theorem finalized_finish (free : state.claimed = false) (notCancel : endReason ≠ .clientCancel) :
    Finalized (finish state endReason item finalizerEnded []).1 := by
  simp only [finish, ForwardStreamState.tryClaim, free, Bool.not_false, Bool.not_true]
  cases finalizerEnded with
  | true => exact finalized_complete rfl (startedOnce_upstream notCancel)
  | false => exact ⟨rfl, startedOnce_upstream notCancel⟩

theorem streamForwardFailureReason_ne (failure : StreamForwardFailureKind) :
    streamForwardFailureReason failure ≠ .clientCancel := by
  cases failure <;> decide

theorem streamEndReason_eof_ne (terminalKind : TerminalEventKind) :
    streamEndReasonForTerminalKind terminalKind .upstreamEof ≠ .clientCancel := by
  cases terminalKind <;> decide

theorem eofEndReason_ne (progress : StreamProgress) :
    eofEndReason progress.observeEof.1 ≠ .clientCancel := by
  cases observed : progress.observeEof.1 with
  | error error => exact fun cancel => by cases cancel
  | ok endReason =>
    obtain ⟨_, _, rfl⟩ := CheckedFold.map_eq_ok.mp observed
    exact streamEndReason_eof_ne _

theorem finalized_afterRead (free : state.claimed = false) (read : UpstreamRead) :
    Finalized (afterRead state read finalizerEnded []).1 := by
  cases read with
  | chunk bytes =>
    unfold afterRead
    cases observed : (state.progress.observeChunk bytes).1 with
    | ok =>
      simp only [observed]
      exact ⟨free, rfl⟩
    | error error =>
      simp only [observed]
      exact finalized_finish free (streamForwardFailureReason_ne _)
  | readError | idleTimeout => exact finalized_finish free (streamForwardFailureReason_ne _)
  | eof => exact finalized_finish free (eofEndReason_ne _)

theorem finalized_readUpstream (free : state.claimed = false) (read : Option UpstreamRead) :
    Finalized (readUpstream state read finalizerEnded []).1 := by
  cases read with
  | none => exact ⟨free, rfl⟩
  | some read => exact finalized_afterRead free read

variable (finalized : Finalized body)

include finalized

theorem finalized_poll (read : Option UpstreamRead) :
    Finalized (body.poll read finalizerEnded).1 := by
  obtain ⟨phase, started⟩ := body
  rcases phase with (_ | state) | state | ⟨state, item⟩ | _ | _
  · exact finalized
  · obtain ⟨free, rfl⟩ := finalized
    exact finalized_readUpstream free read
  · obtain ⟨free, rfl⟩ := finalized
    exact finalized_readUpstream free read
  · cases finalizerEnded with
    | true => exact finalized_complete finalized.1 finalized.2
    | false => exact finalized
  · exact finalized
  · exact finalized

theorem finalized_drop : Finalized body.dropBody := by
  obtain ⟨phase, started⟩ := body
  rcases phase with (_ | state) | state | ⟨state, item⟩ | _ | _
  · exact finalized
  · obtain ⟨free, rfl⟩ := finalized
    exact startedOnce_drop free
  · obtain ⟨free, rfl⟩ := finalized
    exact startedOnce_drop free
  · have unchanged : state.drop started = started := drop_of_claimed finalized.1
    have once : StartedOnce (state.drop started) := by
      rw [unchanged]
      exact finalized.2
    exact once
  · exact finalized
  · exact finalized

theorem finalized_step (event : BodyEvent) : Finalized (body.step event).1 := by
  cases event with
  | poll read finalizerEnded => exact finalized_poll finalized read
  | drop => exact finalized_drop finalized

theorem Finalized.cases : body.isForwarding = true ∧ body.started = [] ∨
      body.isForwarding = false ∧ StartedOnce body.started := by
  obtain ⟨phase, started⟩ := body
  rcases phase with (_ | state) | state | ⟨state, item⟩ | _ | _
  · exact .inr ⟨rfl, finalized⟩
  · exact .inl ⟨rfl, finalized.2⟩
  · exact .inl ⟨rfl, finalized.2⟩
  · exact .inr ⟨rfl, finalized.2⟩
  · exact .inr ⟨rfl, finalized⟩
  · exact .inr ⟨rfl, finalized⟩

end

/-- Whatever the polls meet and wherever the body is dropped: no finalizer is
started while there is something to forward, and exactly one from then on, in
particular once the body is dropped; and never one for the upstream and one for
a cancelling client. -/
theorem finalization_exactly_once (progress : StreamProgress) (events : List BodyEvent) :
    (stateAfter step (new progress) events).started.length =
        (if (stateAfter step (new progress) events).isForwarding then 0 else 1) ∧
      (stateAfter step (new progress) (events ++ [.drop])).started.length = 1 ∧
      ¬ ((∃ finalization ∈ (stateAfter step (new progress) events).started,
          finalization.trigger = .upstream) ∧
        ∃ finalization ∈ (stateAfter step (new progress) events).started,
          finalization.endReason = .clientCancel) := by
  have invariant : ∀ reached, Finalized (stateAfter step (new progress) reached) :=
    stateAfter_invariant Finalized (fun _ event finalized => finalized_step finalized event)
      ⟨rfl, rfl⟩
  refine ⟨?_, ?_, ?_⟩
  · rcases (invariant events).cases with ⟨forwarding, none⟩ | ⟨ended, finalization, one, _⟩
    · rw [forwarding, none]
      rfl
    · rw [ended, one]
      rfl
  · have dropped := invariant (events ++ [.drop])
    rw [stateAfter_append] at dropped ⊢
    have notForwarding : ∀ body : StreamBody, body.dropBody.isForwarding = false := by
      rintro ⟨phase, started⟩
      rcases phase with (_ | _) | _ | _ | _ | _ <;> rfl
    rcases dropped.cases with ⟨forwarding, _⟩ | ⟨_, finalization, one, _⟩
    · exact absurd forwarding (by rw [stateAfter_cons]; exact notForwarding _ ▸ Bool.false_ne_true)
    · rw [one]
      rfl
  · rintro ⟨⟨first, firstMem, upstream⟩, second, secondMem, cancel⟩
    rcases (invariant events).cases with ⟨_, none⟩ | ⟨_, finalization, one, kind⟩
    · rw [none] at firstMem
      cases firstMem
    · rw [one, List.mem_singleton] at firstMem secondMem
      subst firstMem secondMem
      exact kind.mp upstream cancel

end StreamBody

end FuboxApi
