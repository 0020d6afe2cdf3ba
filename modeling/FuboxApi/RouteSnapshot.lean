import FuboxApi.RouteSelectionSpec

/-!
# Snapshots of route decisions

A decision is logged as a snapshot of its candidates, which finds the selected one again by its
channel and so marks several when they share it.
-/

namespace FuboxApi

structure RouteCandidateScore where
  priority : Int32
  weight : UInt32
  traceAffinityBonus : UInt32
  total : Int64

structure RouteDecisionSnapshotCandidate where
  channelId : String
  providerId : String
  providerModel : String
  priority : Int32
  weight : UInt32
  status : ChannelStatus
  health : ChannelHealth
  rateLimitAvailable : Bool
  filtered : Bool
  filterReason : Option CandidateFilterReason
  score : Option RouteCandidateScore
  selected : Bool
  traceAffinityMatch : Bool

structure RouteDecisionSnapshot where
  version : UInt16
  requestedModel : String
  canonicalModel : Option String
  policy : SelectionPolicy
  traceId : Option String
  traceAffinity : TraceAffinityDecision
  selectedChannelId : Option String
  selected : Option SelectedRoute
  candidates : List RouteDecisionSnapshotCandidate

structure RouteDecisionSnapshotSummary where
  version : UInt16
  requestedModel : String
  canonicalModel : Option String
  selectedChannelId : Option String
  selectedProviderModel : Option String
  candidateCount : Nat
  filteredCount : Nat
  filterReasons : List CandidateFilterReason
  selectedScoreTotal : Option Int64
  traceAffinityStatus : TraceAffinityStatus

def routeDecisionSnapshotVersion : UInt16 := 1

/-- The sum stays far within 64 bits. -/
def scoreCandidate (candidate : RouteCandidate) (traceAffinityMatch : Bool) : RouteCandidateScore :=
  let traceAffinityBonus : UInt32 := if traceAffinityMatch then 1 else 0
  { priority := candidate.priority
    weight := candidate.weight
    traceAffinityBonus
    total := (Int32.maxValue.toInt64 - candidate.priority.toInt64) +
      candidate.weight.toUInt64.toInt64 + traceAffinityBonus.toUInt64.toInt64 }

namespace RouteDecisionSnapshot

def snapshotCandidate (decision : RouteDecision) (evaluated : EvaluatedCandidate) :
    RouteDecisionSnapshotCandidate :=
  let candidate := evaluated.candidate
  let traceAffinityMatch :=
    decision.traceAffinity.previousSuccessfulChannelId.any (· == candidate.channelId)
  { channelId := candidate.channelId
    providerId := candidate.providerId
    providerModel := candidate.providerModel
    priority := candidate.priority
    weight := candidate.weight
    status := candidate.status
    health := candidate.health
    rateLimitAvailable := candidate.rateLimitAvailable
    filtered := !evaluated.isSelectable
    filterReason := evaluated.filterReason
    score := if evaluated.isSelectable then some (scoreCandidate candidate traceAffinityMatch)
      else none
    selected := decision.selectedChannelId.any (· == candidate.channelId)
    traceAffinityMatch }

def fromDecision (decision : RouteDecision) : RouteDecisionSnapshot where
  version := routeDecisionSnapshotVersion
  requestedModel := decision.requestedModel
  canonicalModel := decision.canonicalModel
  policy := decision.policy
  traceId := decision.traceId
  traceAffinity := decision.traceAffinity
  selectedChannelId := decision.selectedChannelId
  selected := decision.selected
  candidates := decision.candidates.map (snapshotCandidate decision)

def summary (snapshot : RouteDecisionSnapshot) : RouteDecisionSnapshotSummary where
  version := snapshot.version
  requestedModel := snapshot.requestedModel
  canonicalModel := snapshot.canonicalModel
  selectedChannelId := snapshot.selectedChannelId
  selectedProviderModel := snapshot.selected.map SelectedRoute.providerModel
  candidateCount := snapshot.candidates.length
  filteredCount := (snapshot.candidates.filter (·.filtered)).length
  filterReasons := snapshot.candidates.filterMap (·.filterReason)
  selectedScoreTotal :=
    ((snapshot.candidates.find? (·.selected)).bind (·.score)).map RouteCandidateScore.total
  traceAffinityStatus := snapshot.traceAffinity.status

end RouteDecisionSnapshot

/-! ## The truth of a snapshot -/

/-- The candidates that a snapshot marks as selected. -/
def RouteDecisionSnapshot.marked (snapshot : RouteDecisionSnapshot) :
    List RouteDecisionSnapshotCandidate :=
  snapshot.candidates.filter (·.selected)

/-- What a snapshot has to say about its decision. -/
structure TellsTheTruth (decision : RouteDecision) (snapshot : RouteDecisionSnapshot) : Prop where
  markedOnce : snapshot.marked.length = if decision.selected.isSome then 1 else 0
  markedSelected : ∀ candidate ∈ snapshot.marked, ∀ route, decision.selected = some route →
    candidate.channelId = route.channelId ∧ candidate.providerModel = route.providerModel ∧
      candidate.filterReason = none
  filteredReason : snapshot.candidates.map (fun candidate =>
      (candidate.filtered, candidate.filterReason)) =
    decision.candidates.map fun evaluated =>
      (evaluated.filterReason.isSome, evaluated.filterReason)
  counted : snapshot.summary.candidateCount = decision.candidates.length ∧
    snapshot.summary.filteredCount =
      decision.candidates.countP (fun evaluated => evaluated.filterReason.isSome) ∧
    snapshot.summary.filterReasons = decision.candidates.filterMap EvaluatedCandidate.filterReason

def RouteDecision.withChannel (decision : RouteDecision) (channelId : String) :
    List EvaluatedCandidate :=
  decision.candidates.filter fun evaluated => channelId == evaluated.candidate.channelId

open RouteDecisionSnapshot

section

variable {request : RouteRequest} {candidates : List EvaluatedCandidate}
  {context : RouteSelectionContext} {decision : RouteDecision} {route : SelectedRoute}

theorem exists_of_selected
    (selected : (selectFromEvaluatedCandidates request candidates context).selected = some route) :
    ∃ evaluated ∈ candidates, evaluated.isSelectable = true ∧
      selectedRouteFromCandidate evaluated = route := by
  rcases Option.or_eq_some_iff.mp selected with byAffinity | ⟨_, byPriority⟩
  · obtain ⟨channelId, _, byAffinity⟩ := Option.bind_eq_some_iff.mp byAffinity
    obtain ⟨evaluated, found, routeEq⟩ := Option.bind_eq_some_iff.mp byAffinity
    have passes := List.find?_some found
    exact ⟨evaluated, List.mem_of_find?_eq_some found, (Bool.and_eq_true_iff.mp passes).1,
      Option.some.inj routeEq⟩
  · obtain ⟨_, _, evaluated, inGroup, routeEq⟩ := pickByPriorityThenWeight_eq_some byPriority
    obtain ⟨inList, selectable, _⟩ := mem_priorityGroup.mp inGroup
    exact ⟨evaluated, inList, selectable, routeEq⟩

theorem marked_fromDecision {channelId : String}
    (selectedEq : decision.selectedChannelId = some channelId) :
    (fromDecision decision).marked =
      (decision.withChannel channelId).map (snapshotCandidate decision) := by
  rw [marked, fromDecision, List.filter_map, RouteDecision.withChannel]
  congr 2
  funext evaluated
  simp [snapshotCandidate, selectedEq]

theorem marked_fromDecision_of_none (nothing : decision.selectedChannelId = none) :
    (fromDecision decision).marked = [] := by
  refine List.filter_eq_nil_iff.mpr fun candidate member => ?_
  obtain ⟨evaluated, _, rfl⟩ := List.mem_map.mp member
  simp [snapshotCandidate, nothing]

theorem filtered_snapshotCandidate (evaluated : EvaluatedCandidate) :
    (snapshotCandidate decision evaluated).filtered = evaluated.filterReason.isSome := by
  rw [snapshotCandidate, EvaluatedCandidate.isSelectable]
  cases evaluated.filterReason <;> rfl

theorem tellsTheTruth_of_marked (markedOnce : (fromDecision decision).marked.length =
      if decision.selected.isSome then 1 else 0)
    (markedSelected : ∀ candidate ∈ (fromDecision decision).marked,
      ∀ route, decision.selected = some route →
        candidate.channelId = route.channelId ∧ candidate.providerModel = route.providerModel ∧
          candidate.filterReason = none) :
    TellsTheTruth decision (fromDecision decision) where
  markedOnce := markedOnce
  markedSelected := markedSelected
  filteredReason := by
    rw [fromDecision, List.map_map]
    refine List.map_congr_left fun evaluated _ => ?_
    exact congrArg (·, evaluated.filterReason) (filtered_snapshotCandidate evaluated)
  counted := by
    refine ⟨List.length_map _, ?_, ?_⟩
    · rw [summary, ← List.countP_eq_length_filter, fromDecision, List.countP_map]
      refine List.countP_congr fun evaluated _ => ?_
      rw [Function.comp_apply, filtered_snapshotCandidate]
    · rw [summary, fromDecision, List.filterMap_map]
      rfl

end

/-- The snapshot of a decision tells the truth exactly if no route is selected, or
only one candidate has the channel of the selected route. -/
theorem snapshot_tells_the_truth_iff (request : RouteRequest) (candidates : List EvaluatedCandidate)
    (context : RouteSelectionContext) (decision : RouteDecision)
    (decided : decision = selectFromEvaluatedCandidates request candidates context) :
    TellsTheTruth decision (fromDecision decision) ↔ ∀ route, decision.selected = some route →
        (decision.withChannel route.channelId).length = 1 := by
  have channelEq : decision.selectedChannelId = decision.selected.map SelectedRoute.channelId := by
    rw [decided]
    rfl
  cases selected : decision.selected with
  | none =>
    rw [selected, Option.map_none] at channelEq
    refine iff_of_true (tellsTheTruth_of_marked ?_ ?_) (by simp)
    · rw [marked_fromDecision_of_none channelEq, selected]
      rfl
    · simp [marked_fromDecision_of_none channelEq]
  | some route =>
    rw [selected, Option.map_some] at channelEq
    have marks := marked_fromDecision channelEq
    constructor
    · intro truth other otherEq
      have once := truth.markedOnce
      rw [marks, List.length_map, selected] at once
      rw [← Option.some.inj otherEq]
      exact once
    · intro single
      have once := single route rfl
      obtain ⟨evaluated, inList, selectable, routeEq⟩ := exists_of_selected (decided ▸ selected)
      have own : evaluated ∈ decision.withChannel route.channelId := by
        refine List.mem_filter.mpr ⟨decided ▸ inList, beq_iff_eq.mpr ?_⟩
        rw [← routeEq]
        rfl
      obtain ⟨only, onlyEq⟩ := List.length_eq_one_iff.mp once
      rw [onlyEq, List.mem_singleton] at own
      rw [onlyEq, ← own] at marks
      refine tellsTheTruth_of_marked ?_ ?_
      · rw [marks, selected]
        rfl
      · intro candidate member other otherEq
        rw [marks, List.map_singleton, List.mem_singleton] at member
        rw [selected] at otherEq
        rw [member, ← Option.some.inj otherEq, ← routeEq]
        exact ⟨rfl, rfl, Option.isNone_iff_eq_none.mp selectable⟩

/-- The sample routes have different channels. -/
theorem snapshot_tells_the_truth_sampleCandidates :
    (selectRoute sampleRequest sampleCandidates).selectedChannelId = some "a" ∧
      TellsTheTruth (selectRoute sampleRequest sampleCandidates)
        (fromDecision (selectRoute sampleRequest sampleCandidates)) := by
  refine ⟨by decide +kernel, (snapshot_tells_the_truth_iff sampleRequest
    (evaluateCandidates sampleCandidates) RouteSelectionContext.default _ rfl).mpr ?_⟩
  intro route selected
  have routeEq : (selectRoute sampleRequest sampleCandidates).selected =
      some ⟨"a", "p", "m", 1, 2⟩ := by decide +kernel
  rw [← Option.some.inj (routeEq.symm.trans selected)]
  decide +kernel

/-- One channel with two upstream models, of which the second one is filtered. -/
def sharedChannel : List EvaluatedCandidate :=
  [⟨⟨"a", "p", "m", 1, 1, .enabled, .healthy, true⟩, none⟩,
    ⟨⟨"a", "p", "n", 2, 1, .enabled, .healthy, true⟩, some .associationDisabled⟩]

/-- Both are marked as selected. -/
theorem snapshot_marks_sharedChannel :
    ((fromDecision (selectRouteFromEvaluated sampleRequest sharedChannel
        RouteSelectionContext.default)).marked.map fun candidate =>
          (candidate.providerModel, candidate.filterReason)) =
      [("m", none), ("n", some .associationDisabled)] := by
  decide +kernel

end FuboxApi
