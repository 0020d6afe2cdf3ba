import FuboxApi.StreamBilling

/-!
# What a forwarded stream delivers

The client gets the chunks of the upstream in their order, each one after it has been observed.
-/

namespace FuboxApi.WatchedBody

open StreamBody

/-- The chunk that a poll delivers, if any. -/
def polledChunk : BodyPoll → List Bytes
  | .chunk bytes => [bytes]
  | _ => []

/-- The chunk that the upstream has for a poll, if any. -/
def offeredChunk : Option UpstreamRead × Bool → List Bytes
  | (some (.chunk bytes), _) => [bytes]
  | _ => []

/-- The chunks that polls deliver. -/
def delivered (watched : WatchedBody) : List (Option UpstreamRead × Bool) → List Bytes
  | [] => []
  | input :: later =>
    polledChunk (watched.poll input).2 ++ delivered (watched.poll input).1 later

/-- What is known of a stream after a chunk that is accepted. -/
def observeNext (progress : StreamProgress) (chunk : Bytes) : Option StreamProgress :=
  match progress.observeChunk chunk with
  | (.ok _, next) => some next
  | (.error _, _) => none

section

variable {watched : WatchedBody} {finalization : StartedFinalization}

theorem Ended.polledChunk_eq (ended : Ended watched finalization)
    (input : Option UpstreamRead × Bool) : polledChunk (watched.poll input).2 = [] := by
  obtain ⟨⟨phase, started⟩, observed⟩ := watched
  obtain ⟨read, finalizerEnded⟩ := input
  rcases phase with (_ | _) | _ | ⟨state, item⟩ | _ | _
  · rfl
  · cases ended.notForwarding
  · cases ended.notForwarding
  · cases finalizerEnded <;> cases item <;> rfl
  · rfl
  · rfl

theorem Ended.delivered_eq (ended : Ended watched finalization)
    (polls : List (Option UpstreamRead × Bool)) : watched.delivered polls = [] := by
  induction polls generalizing watched with
  | nil => rfl
  | cons input later ih => rw [delivered, ended.polledChunk_eq input, ih (ended.poll input).1]; rfl

theorem polledChunk_finish (progress : StreamProgress) (endReason : StreamEndReason)
    (item : Option StreamEndReason) (finalizerEnded : Bool) :
    polledChunk (finish ⟨progress, false⟩ endReason item finalizerEnded []).2 = [] := by
  cases finalizerEnded <;> cases item <;> rfl

theorem Forwards.poll_snd (forwards : Forwards watched) (read : UpstreamRead)
    (finalizerEnded : Bool) : (watched.poll (some read, finalizerEnded)).2 =
      (afterRead ⟨watched.observed, false⟩ read finalizerEnded []).2 := by
  cases forwards with
  | value progress => rfl
  | awaitingChunk progress => rfl

/-- A body that forwards delivers what the upstream has, once that is accepted, or it delivers
nothing and ends. -/
theorem Forwards.poll_cases (forwards : Forwards watched) (input : Option UpstreamRead × Bool) :
    (polledChunk (watched.poll input).2 = offeredChunk input ∧
        (offeredChunk input).foldlM observeNext watched.observed =
          some (watched.poll input).1.observed ∧ Forwards (watched.poll input).1) ∨
      polledChunk (watched.poll input).2 = [] ∧
        ∃ finalization, Ended (watched.poll input).1 finalization := by
  obtain ⟨_ | read, finalizerEnded⟩ := input
  · obtain ⟨next, same⟩ := forwards.poll_pending finalizerEnded
    refine .inl ⟨?_, congrArg some same.symm, next⟩
    cases forwards <;> rfl
  · cases ends : watched.observed.endReasonOf read with
    | some reason =>
      refine .inr ⟨?_, _, forwards.poll_ends ends finalizerEnded⟩
      obtain ⟨item, finished⟩ := afterRead_of_ends ends finalizerEnded
      rw [forwards.poll_snd, finished, polledChunk_finish]
    | none =>
      have next := forwards.poll_goes_on ends finalizerEnded
      cases read with
      | chunk bytes =>
        left
        rcases observes : watched.observed.observeChunk bytes with ⟨_ | _, after⟩
        · simp [StreamProgress.endReasonOf, observes] at ends
        · refine ⟨?_, ?_, next⟩
          · rw [forwards.poll_snd, afterRead, observes]
            rfl
          · rw [forwards.poll_eq]
            simp [offeredChunk, observeNext, observes, StreamProgress.afterRead]
      | readError => cases ends
      | eof => cases ends
      | idleTimeout => cases ends

/-- By induction on the polls: a poll goes on with what it has observed, or ends the stream for
good. -/
theorem Forwards.delivers (forwards : Forwards watched)
    (polls : List (Option UpstreamRead × Bool)) :
    ∃ observed, (watched.delivered polls).foldlM observeNext watched.observed = some observed ∧
      watched.delivered polls <+: polls.flatMap offeredChunk ∧
      ((watched.polled polls).body.isForwarding = true →
        watched.delivered polls = polls.flatMap offeredChunk ∧ Forwards (watched.polled polls) ∧
          (watched.polled polls).observed = observed) := by
  induction polls generalizing watched with
  | nil => exact ⟨_, rfl, List.prefix_refl _, fun _ => ⟨rfl, forwards, rfl⟩⟩
  | cons input later ih =>
    rw [delivered, List.flatMap_cons, List.foldlM_append]
    rcases forwards.poll_cases input with ⟨polledEq, accepted, next⟩ | ⟨nothing, _, ended⟩
    · obtain ⟨observed, observes, inOrder, complete⟩ := ih next
      rw [polledEq, accepted]
      refine ⟨observed, observes, (List.prefix_append_right_inj _).mpr inOrder, ?_⟩
      intro forwarding
      obtain ⟨all, stillForwards, same⟩ := complete forwarding
      exact ⟨by rw [all], stillForwards, same⟩
    · rw [nothing, ended.delivered_eq]
      refine ⟨watched.observed, rfl, List.nil_prefix, fun forwarding => ?_⟩
      cases forwarding.symm.trans (ended.polled later).1.notForwarding

end

/-- Whatever the upstream does and whenever the client leaves: the client gets a first part of the
chunks of the upstream, all of them while the stream is forwarded, and each of them has been
accepted before. The finalizer of a client that leaves has what these chunks reported. -/
theorem delivers_observed_chunks (progress : StreamProgress)
    (polls : List (Option UpstreamRead × Bool)) :
    ∃ observed, ((new progress).delivered polls).foldlM observeNext progress = some observed ∧
      (new progress).delivered polls <+: polls.flatMap offeredChunk ∧
      (((new progress).polled polls).body.isForwarding = true →
        (new progress).delivered polls = polls.flatMap offeredChunk ∧
          ((new progress).polled polls).body.dropBody.started =
            [⟨.bodyDropped, .clientCancel, observed.partialSent, observed.usage⟩]) := by
  obtain ⟨observed, observes, inOrder, complete⟩ := (forwards_new progress).delivers polls
  refine ⟨observed, observes, inOrder, fun forwarding => ?_⟩
  obtain ⟨all, forwards, rfl⟩ := complete forwarding
  exact ⟨all, forwards.started_dropBody⟩

end FuboxApi.WatchedBody
