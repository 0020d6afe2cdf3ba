import FuboxApi.RouteSelectionSpec

/-!
# Trace affinity

The channel that last answered a trace is to be selected again. The lookup looks at its first
candidate only: when that one is filtered, the affinity is given up.
-/

namespace FuboxApi

open WeightedTickets

namespace EvaluatedCandidate

def usesChannel (evaluated : EvaluatedCandidate) (channelId : String) : Bool :=
  evaluated.candidate.channelId == channelId

end EvaluatedCandidate

def ChannelSelectable (candidates : List EvaluatedCandidate) (channelId : String) : Prop :=
  ∃ evaluated ∈ candidates, evaluated.isSelectable = true ∧ evaluated.usesChannel channelId = true

def firstIsSelectable (candidates : List EvaluatedCandidate) (channelId : String) : Bool :=
  (candidates.find? (·.usesChannel channelId)).any (·.isSelectable)

/-- Every ticket of the best priority belongs to a candidate with the channel. The
tickets are those below the 64-bit sum of the weights. -/
def OwnsAllTickets (candidates : List EvaluatedCandidate) (channelId : String) : Prop :=
  ∃ priority, bestPriority candidates = some priority ∧
    totalWeight (priorityGroup candidates priority) ≠ 0 ∧
      ∀ ticket < (totalWeight (priorityGroup candidates priority)).toNat,
        ∀ owner ∈ pick evaluatedWeight (priorityGroup candidates priority) ticket,
          owner.usesChannel channelId = true

/-- The channel is selected if it can be, and otherwise the selection is the one
without affinity. -/
structure AffinityHonoured (request : RouteRequest) (candidates : List EvaluatedCandidate)
    (context : RouteSelectionContext) (channelId : String) : Prop where
  honoured : ChannelSelectable candidates channelId →
    (selectFromEvaluatedCandidates request candidates context).selectedChannelId = some channelId
  ignored : ¬ ChannelSelectable candidates channelId →
    (selectFromEvaluatedCandidates request candidates context).selected =
      (selectFromEvaluatedCandidates request candidates
        { context with traceAffinity := TraceAffinity.disabled }).selected

section

variable {candidates : List EvaluatedCandidate} {context : RouteSelectionContext}
  {channelId : String}

theorem channelSelectable_of_first (first : firstIsSelectable candidates channelId = true) :
    ChannelSelectable candidates channelId := by
  obtain ⟨evaluated, found, selectable⟩ := (Option.any_eq_true _ _).mp first
  have uses := List.find?_some found
  exact ⟨evaluated, List.mem_of_find?_eq_some found, selectable, uses⟩

section

variable (request : RouteRequest) (enabled : context.traceAffinity = ⟨true, some channelId⟩)

include enabled

theorem appliedChannelId_evaluateTraceAffinity :
    (evaluateTraceAffinity context candidates).appliedChannelId =
      if context.traceId.isSome = true ∧ firstIsSelectable candidates channelId = true then
        some channelId else none := by
  unfold evaluateTraceAffinity firstIsSelectable
  rw [enabled]
  cases context.traceId with
  | none => rfl
  | some traceId =>
    cases found : candidates.find? (·.usesChannel channelId) with
    | none =>
      simp only [EvaluatedCandidate.usesChannel] at found
      simp [found]
    | some evaluated =>
      simp only [EvaluatedCandidate.usesChannel] at found
      cases selectable : evaluated.isSelectable <;> simp [found, selectable]

theorem selectedChannelId_of_first (traced : context.traceId.isSome = true)
    (first : firstIsSelectable candidates channelId = true) :
    (selectFromEvaluatedCandidates request candidates context).selectedChannelId =
      some channelId := by
  have applied := (appliedChannelId_evaluateTraceAffinity enabled).trans (if_pos ⟨traced, first⟩)
  obtain ⟨member, memberMem, selectable, uses⟩ := channelSelectable_of_first first
  have lookup : ∃ evaluated, candidates.find? (fun evaluated =>
      evaluated.isSelectable && evaluated.candidate.channelId == channelId) = some evaluated := by
    refine Option.isSome_iff_exists.mp (List.find?_isSome.mpr ⟨member, memberMem, ?_⟩)
    exact Bool.and_eq_true_iff.mpr ⟨selectable, uses⟩
  obtain ⟨evaluated, found⟩ := lookup
  have passes := List.find?_some found
  have usesFound := (Bool.and_eq_true_iff.mp passes).2
  have picked : pickByTraceAffinity candidates (evaluateTraceAffinity context candidates) =
      some (selectedRouteFromCandidate evaluated) := by
    simp [pickByTraceAffinity, applied, found]
  simp only [selectFromEvaluatedCandidates, picked, Option.some_or, Option.map_some]
  exact congrArg some (beq_iff_eq.mp usesFound)

theorem selected_of_not_first
    (notFound : ¬ (context.traceId.isSome = true ∧ firstIsSelectable candidates channelId = true)) :
    (selectFromEvaluatedCandidates request candidates context).selected =
      pickByPriorityThenWeight candidates request.policy.seed := by
  have applied := (appliedChannelId_evaluateTraceAffinity enabled).trans (if_neg notFound)
  simp [selectFromEvaluatedCandidates, pickByTraceAffinity, applied]

end

theorem selected_of_disabled (request : RouteRequest) :
    (selectFromEvaluatedCandidates request candidates
      { context with traceAffinity := TraceAffinity.disabled }).selected =
        pickByPriorityThenWeight candidates request.policy.seed := by
  rfl

end

theorem forall_pick_channelId_iff {candidates : List EvaluatedCandidate} {channelId : String} :
    (∀ seed, (pickByPriorityThenWeight candidates seed).map SelectedRoute.channelId =
        some channelId) ↔ OwnsAllTickets candidates channelId := by
  constructor
  · intro everySeed
    obtain ⟨route, picked, _⟩ := Option.map_eq_some_iff.mp (everySeed 0)
    obtain ⟨priority, best, _⟩ := pickByPriorityThenWeight_eq_some picked
    have weightNe : totalWeight (priorityGroup candidates priority) ≠ 0 := by
      intro weightZero
      simp [pickByPriorityThenWeight, best, weightZero] at picked
    refine ⟨priority, best, weightNe, fun ticket ticketLt owner owns => ?_⟩
    have own := everySeed (UInt64.ofNat ticket)
    rw [pickByPriorityThenWeight_of_best best weightNe,
      UInt64.toNat_ofNat_of_lt' (ticketLt.trans (UInt64.toNat_lt _)), Nat.mod_eq_of_lt ticketLt,
      Option.mem_def.mp owns] at own
    exact beq_iff_eq.mpr (Option.some.inj own)
  · rintro ⟨priority, best, weightNe, owned⟩ seed
    have weightPos : 0 < (totalWeight (priorityGroup candidates priority)).toNat := by
      rw [Nat.pos_iff_ne_zero, Ne, ← UInt64.toNat_zero, UInt64.toNat_inj]
      exact weightNe
    have ticketLt := Nat.mod_lt seed.toNat weightPos
    have weightLe : (totalWeight (priorityGroup candidates priority)).toNat ≤
        total evaluatedWeight (priorityGroup candidates priority) := by
      rw [toNat_totalWeight]
      exact Nat.mod_le _ _
    obtain ⟨owner, owns⟩ := Option.isSome_iff_exists.mp
      ((isSome_pick_iff evaluatedWeight).mpr (ticketLt.trans_le weightLe))
    rw [pickByPriorityThenWeight_of_best best weightNe, owns]
    exact congrArg some (beq_iff_eq.mp (owned _ ticketLt owner owns))

/-- Enabled affinity to a channel is honoured by every seed exactly if no candidate
with the channel can be selected, or there is a trace and the first candidate with
the channel can be selected, or the channel owns all tickets anyway. -/
theorem trace_affinity_honoured_iff (candidates : List EvaluatedCandidate)
    (context : RouteSelectionContext) (channelId : String)
    (enabled : context.traceAffinity = ⟨true, some channelId⟩) :
    (∀ request, AffinityHonoured request candidates context channelId) ↔
      ¬ ChannelSelectable candidates channelId ∨
        (context.traceId.isSome = true ∧ firstIsSelectable candidates channelId = true) ∨
        OwnsAllTickets candidates channelId := by
  by_cases found : context.traceId.isSome = true ∧ firstIsSelectable candidates channelId = true
  · refine iff_of_true (fun request => ?_) (.inr (.inl found))
    exact ⟨fun _ => selectedChannelId_of_first request enabled found.1 found.2,
      fun unselectable => absurd (channelSelectable_of_first found.2) unselectable⟩
  · rw [or_iff_right found]
    by_cases selectable : ChannelSelectable candidates channelId
    · rw [or_iff_right (not_not_intro selectable)]
      rw [← forall_pick_channelId_iff]
      have selectedEq : ∀ request : RouteRequest,
          (selectFromEvaluatedCandidates request candidates context).selectedChannelId =
            (pickByPriorityThenWeight candidates request.policy.seed).map
              SelectedRoute.channelId := by
        intro request
        rw [← selected_of_not_first request enabled found]
        rfl
      constructor
      · intro everyRequest seed
        have honoured := (everyRequest ⟨"", none, ⟨seed⟩⟩).honoured selectable
        rwa [selectedEq] at honoured
      · intro everySeed request
        refine ⟨fun _ => ?_, fun unselectable => absurd selectable unselectable⟩
        rw [selectedEq]
        exact everySeed request.policy.seed
    · refine iff_of_true (fun request => ⟨fun yes => absurd yes selectable, fun _ => ?_⟩)
        (.inl selectable)
      rw [selected_of_not_first request enabled found, selected_of_disabled]

/-! A channel with two candidates: the one of the better association is filtered. -/

def filteredFirst : List EvaluatedCandidate :=
  [⟨⟨"a", "p", "m", 0, 1, .enabled, .healthy, true⟩, some .associationDisabled⟩,
    ⟨⟨"b", "p", "m", 1, 1, .enabled, .healthy, true⟩, none⟩,
    ⟨⟨"a", "p", "m", 2, 1, .enabled, .healthy, true⟩, none⟩]

def tracedTo (channelId : String) : RouteSelectionContext :=
  ⟨some "trace", ⟨true, some channelId⟩⟩

/-- Without the filtered candidate, channel `a` goes before the better priority. -/
theorem trace_affinity_honoured_unfiltered :
    (selectRouteFromEvaluated sampleRequest filteredFirst.tail
        (tracedTo "a")).selectedChannelId = some "a" ∧
      AffinityHonoured sampleRequest filteredFirst.tail (tracedTo "a") "a" :=
  ⟨by decide +kernel, (trace_affinity_honoured_iff filteredFirst.tail (tracedTo "a") "a" rfl).mpr
      (.inr (.inl (by decide +kernel))) sampleRequest⟩

/-- Channel `a` answered the trace and can be selected, but channel `b` is. -/
theorem trace_affinity_lost_filteredFirst : ChannelSelectable filteredFirst "a" ∧
      (selectRouteFromEvaluated sampleRequest filteredFirst
        (tracedTo "a")).selectedChannelId = some "b" :=
  ⟨⟨⟨⟨"a", "p", "m", 2, 1, .enabled, .healthy, true⟩, none⟩, by decide +kernel, by decide +kernel,
    by decide +kernel⟩, by decide +kernel⟩

end FuboxApi
