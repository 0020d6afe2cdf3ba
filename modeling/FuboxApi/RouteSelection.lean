import FuboxApi.ComparatorSort
import FuboxApi.Uuid
import FuboxApi.WeightedTickets

/-!
# Route selection

Selection filters the candidates, sorts them, prefers the channel that last answered the trace, and
otherwise picks among those of the best priority by weight. Weights are added as 64-bit numbers,
which wrap around.
-/

namespace FuboxApi

open ComparatorSort

inductive ChannelStatus where
  | enabled
  | degraded
  | disabled
  | coolingDown
  | recoveryProbe
  | authFailed
  | quotaExhausted
  | manualDisabled
  | deleted
deriving DecidableEq

inductive ChannelHealth where
  | healthy
  | degraded
  | unhealthy
deriving DecidableEq

inductive CandidateFilterReason where
  | canonicalModelDisabled
  | canonicalModelDeleted
  | modelVisibilityDenied
  | profileModelDenied
  | associationDisabled
  | associationDeleted
  | profileChannelTagDenied
  | profileProviderDenied
  | disabled
  | coolingDown
  | recoveryProbe
  | authFailed
  | quotaExhausted
  | manualDisabled
  | deleted
  | rateLimitExceeded
  | unhealthy
  | zeroWeight
deriving DecidableEq

structure RouteCandidate where
  channelId : String
  providerId : String
  providerModel : String
  priority : Int32
  weight : UInt32
  status : ChannelStatus
  health : ChannelHealth
  rateLimitAvailable : Bool
deriving DecidableEq

structure EvaluatedCandidate where
  candidate : RouteCandidate
  filterReason : Option CandidateFilterReason
deriving DecidableEq

def EvaluatedCandidate.isSelectable (evaluated : EvaluatedCandidate) : Bool :=
  evaluated.filterReason.isNone

structure SelectionPolicy where
  seed : UInt64

structure TraceAffinity where
  enabled : Bool
  previousSuccessfulChannelId : Option String

def TraceAffinity.disabled : TraceAffinity :=
  ⟨false, none⟩

structure RouteSelectionContext where
  traceId : Option String
  traceAffinity : TraceAffinity

def RouteSelectionContext.default : RouteSelectionContext :=
  ⟨none, TraceAffinity.disabled⟩

inductive TraceAffinityStatus where
  | disabled
  | noTraceId
  | noPreviousSuccess
  | previousChannelNotCandidate
  | previousChannelFiltered
  | applied

structure TraceAffinityDecision where
  status : TraceAffinityStatus
  traceId : Option String
  previousSuccessfulChannelId : Option String
  appliedChannelId : Option String

structure RouteRequest where
  requestedModel : String
  canonicalModel : Option String
  policy : SelectionPolicy

structure SelectedRoute where
  channelId : String
  providerId : String
  providerModel : String
  priority : Int32
  weight : UInt32
deriving DecidableEq

structure RouteDecision where
  requestedModel : String
  canonicalModel : Option String
  policy : SelectionPolicy
  traceId : Option String
  traceAffinity : TraceAffinityDecision
  selectedChannelId : Option String
  selected : Option SelectedRoute
  candidates : List EvaluatedCandidate

def selectionFilterReasonFor (candidate : RouteCandidate) : Option CandidateFilterReason :=
  match candidate.status with
  | .disabled => some .disabled
  | .coolingDown => some .coolingDown
  | .recoveryProbe => some .recoveryProbe
  | .authFailed => some .authFailed
  | .quotaExhausted => some .quotaExhausted
  | .manualDisabled => some .manualDisabled
  | .deleted => some .deleted
  | .enabled | .degraded =>
    if !candidate.rateLimitAvailable then some .rateLimitExceeded
    else if candidate.health = .unhealthy then some .unhealthy
    else if candidate.weight = 0 then some .zeroWeight
    else none

def compareEvaluatedCandidates (left right : EvaluatedCandidate) : Ordering :=
  (compare left.candidate.priority right.candidate.priority).then <|
    (compare right.candidate.weight left.candidate.weight).then <|
      compare left.candidate.channelId right.candidate.channelId

def evaluateCandidates (candidates : List RouteCandidate) : List EvaluatedCandidate :=
  sortBy compareEvaluatedCandidates
    (candidates.map fun candidate => ⟨candidate, selectionFilterReasonFor candidate⟩)

def selectedRouteFromCandidate (evaluated : EvaluatedCandidate) : SelectedRoute where
  channelId := evaluated.candidate.channelId
  providerId := evaluated.candidate.providerId
  providerModel := evaluated.candidate.providerModel
  priority := evaluated.candidate.priority
  weight := evaluated.candidate.weight

/-- The loop of `pickByPriorityThenWeight` over the group. -/
def walkPriorityGroup : List EvaluatedCandidate → UInt64 → Option SelectedRoute
  | [], _ => none
  | evaluated :: later, ticket =>
    let weight := evaluated.candidate.weight.toUInt64
    if ticket < weight then some (selectedRouteFromCandidate evaluated)
    else walkPriorityGroup later (ticket - weight)

variable (request : RouteRequest) (candidates : List EvaluatedCandidate)

def bestPriority : Option Int32 :=
  ((candidates.filter (·.isSelectable)).map (·.candidate.priority)).min?

def priorityGroup (priority : Int32) : List EvaluatedCandidate :=
  candidates.filter fun evaluated =>
    evaluated.isSelectable && evaluated.candidate.priority == priority

def totalWeight (group : List EvaluatedCandidate) : UInt64 :=
  (group.map (·.candidate.weight.toUInt64)).sum

def pickByPriorityThenWeight (seed : UInt64) : Option SelectedRoute :=
  match bestPriority candidates with
  | none => none
  | some priority =>
    let group := priorityGroup candidates priority
    if totalWeight group = 0 then none
    else walkPriorityGroup group (seed % totalWeight group)

def evaluateTraceAffinity (context : RouteSelectionContext) (candidates : List EvaluatedCandidate) :
    TraceAffinityDecision :=
  let previous := context.traceAffinity.previousSuccessfulChannelId
  if !context.traceAffinity.enabled then ⟨.disabled, context.traceId, previous, none⟩
  else if context.traceId.isNone then ⟨.noTraceId, none, previous, none⟩
  else
    match previous with
    | none => ⟨.noPreviousSuccess, context.traceId, none, none⟩
    | some channelId =>
      match candidates.find? fun evaluated => evaluated.candidate.channelId == channelId with
      | none =>
        ⟨.previousChannelNotCandidate, context.traceId, some channelId, none⟩
      | some evaluated =>
        if !evaluated.isSelectable then
          ⟨.previousChannelFiltered, context.traceId, some channelId, none⟩
        else ⟨.applied, context.traceId, some channelId, some channelId⟩

def pickByTraceAffinity (traceAffinity : TraceAffinityDecision) : Option SelectedRoute := do
  let channelId ← traceAffinity.appliedChannelId
  let evaluated ← candidates.find? fun evaluated =>
    evaluated.isSelectable && evaluated.candidate.channelId == channelId
  return selectedRouteFromCandidate evaluated

def selectFromEvaluatedCandidates (evaluated : List EvaluatedCandidate)
    (context : RouteSelectionContext) : RouteDecision :=
  let traceAffinity := evaluateTraceAffinity context evaluated
  let selected := (pickByTraceAffinity evaluated traceAffinity).or
    (pickByPriorityThenWeight evaluated request.policy.seed)
  { requestedModel := request.requestedModel
    canonicalModel := request.canonicalModel
    policy := request.policy
    traceId := context.traceId
    traceAffinity
    selectedChannelId := selected.map (·.channelId)
    selected
    candidates := evaluated }

def selectRouteWithContext (candidates : List RouteCandidate) (context : RouteSelectionContext) :
    RouteDecision :=
  selectFromEvaluatedCandidates request (evaluateCandidates candidates) context

def selectRoute (candidates : List RouteCandidate) : RouteDecision :=
  selectRouteWithContext request candidates RouteSelectionContext.default

def selectRouteFromEvaluated (context : RouteSelectionContext) : RouteDecision :=
  selectFromEvaluatedCandidates request (sortBy compareEvaluatedCandidates candidates) context

end FuboxApi
