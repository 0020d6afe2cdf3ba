import FuboxApi.RouteSelection
import FuboxApi.RustText

/-!
# Route candidates of a model

Every association of the requested model is paired with the channels it matches; each pair is a
candidate with the reason why it is filtered, if any. The library for regular expressions enters as
the function `regexIsMatch`.
-/

namespace FuboxApi

open ComparatorSort

def trimText (text : String) : String :=
  String.ofList (RustText.trim text.toList)

inductive ModelNameCasePolicy where
  | preserve
  | lower
  | upper

def ModelNameCasePolicy.apply (policy : ModelNameCasePolicy) (value : String) : String :=
  match policy with
  | .preserve => value
  | .lower => String.ofList (value.toList.map Char.toLower)
  | .upper => String.ofList (value.toList.map Char.toUpper)

structure ExplicitModelMapping where
  requestedModel : String
  upstreamModel : String

structure ChannelModelMappingPolicy where
  explicitMappings : List ExplicitModelMapping
  trimPrefixes : List String
  casePolicy : ModelNameCasePolicy

def normalizedTrimPrefix (model leading : String) : Option String := do
  let leading := trimText leading
  if leading.isEmpty then none
  else
    let withSeparator := if leading.endsWith "/" then leading else leading ++ "/"
    let trimmed ← model.toList.dropPrefix? withSeparator.toList
    if trimmed.isEmpty then none else return String.ofList trimmed

/-- The last of the entries with the largest key. -/
def maxByKey {Item : Type} (key : Item → Nat) : List Item → Option Item
  | [] => none
  | item :: later =>
    some (later.foldl (fun best next => if key best ≤ key next then next else best) item)

def trimModelPrefix (model : String) (leadings : List String) : String :=
  (maxByKey (fun candidate => model.utf8ByteSize - candidate.utf8ByteSize)
    (leadings.filterMap (normalizedTrimPrefix model))).getD model

def mapUpstreamModelName (requestedModel : String) (policy : ChannelModelMappingPolicy) : String :=
  let mapped := policy.casePolicy.apply (trimModelPrefix requestedModel policy.trimPrefixes)
  match policy.explicitMappings.find? (·.requestedModel == requestedModel) with
  | some mapping => if mapping.upstreamModel.isEmpty then mapped else mapping.upstreamModel
  | none => mapped

inductive CanonicalModelStatus where
  | active
  | deprecated
  | disabled
  | deleted

inductive CanonicalModelVisibility where
  | «public»
  | internal
  | hidden
deriving DecidableEq

structure CanonicalModelRouteInput where
  id : String
  modelKey : String
  status : CanonicalModelStatus
  visibility : CanonicalModelVisibility

inductive ModelAssociationStatus where
  | enabled
  | disabled
  | deleted

inductive ModelAssociationType where
  | explicitChannel
  | channelTag
  | modelPattern
  | global
deriving DecidableEq

inductive ModelAssociationTarget where
  | explicitChannel (channelId : String)
  | channelTag (tag : String)
  | modelPattern (pattern : String)
  | global

def ModelAssociationTarget.associationType : ModelAssociationTarget → ModelAssociationType
  | .explicitChannel _ => .explicitChannel
  | .channelTag _ => .channelTag
  | .modelPattern _ => .modelPattern
  | .global => .global

structure ModelAssociationRouteInput where
  id : String
  canonicalModelId : String
  target : ModelAssociationTarget
  upstreamModelName : Option String
  priority : Int32
  fallbackAllowed : Bool
  status : ModelAssociationStatus

structure ChannelRouteInput where
  id : String
  providerId : String
  tags : List String
  modelMappingPolicy : ChannelModelMappingPolicy
  priority : Int32
  weight : UInt32
  status : ChannelStatus
  health : ChannelHealth
  rateLimitAvailable : Bool

structure ProfileRouteConstraints where
  visibleModelVisibilities : List CanonicalModelVisibility
  allowedModels : List String
  deniedModels : List String
  allowedChannelTags : List String
  deniedChannelTags : List String
  blockedProviderIds : List String

structure RouteCandidateGenerationInput where
  requestedModel : String
  canonicalModel : CanonicalModelRouteInput
  associations : List ModelAssociationRouteInput
  channels : List ChannelRouteInput
  profile : ProfileRouteConstraints

structure GeneratedRouteCandidate where
  associationId : String
  associationType : ModelAssociationType
  associationPriority : Int32
  channelPriority : Int32
  fallbackAllowed : Bool
  candidate : RouteCandidate
  filterReason : Option CandidateFilterReason
deriving DecidableEq

namespace GeneratedRouteCandidate

def isSelectable (generated : GeneratedRouteCandidate) : Bool :=
  generated.filterReason.isNone

def evaluatedCandidate (generated : GeneratedRouteCandidate) : EvaluatedCandidate :=
  ⟨generated.candidate, generated.filterReason⟩

end GeneratedRouteCandidate

structure RouteCandidateGenerationResult where
  requestedModel : String
  canonicalModel : CanonicalModelRouteInput
  candidates : List GeneratedRouteCandidate

namespace RouteCandidateGenerationResult

def evaluatedCandidates (result : RouteCandidateGenerationResult) : List EvaluatedCandidate :=
  result.candidates.map (·.evaluatedCandidate)

def selectableRouteCandidates (result : RouteCandidateGenerationResult) : List RouteCandidate :=
  (result.candidates.filter (·.isSelectable)).map (·.candidate)

end RouteCandidateGenerationResult

/-- `association * 1_000_000 + channel`, saturating at both ends of `i32`. -/
def routePriorityForGeneration (associationPriority channelPriority : Int32) : Int32 :=
  let scaled := Int32.ofIntClamp (associationPriority.toInt * 1000000)
  Int32.ofIntClamp (scaled.toInt + channelPriority.toInt)

def stringListContains (values : List String) (expected : String) : Bool :=
  values.any (· == expected)

variable (regexIsMatch : String → String → Bool) (input : RouteCandidateGenerationInput)
  (association : ModelAssociationRouteInput) (channel : ChannelRouteInput)

def channelHasTag (tag : String) : Bool :=
  channel.tags.any (· == tag)

def hasAnyTag (tags : List String) : Bool :=
  tags.any (channelHasTag channel)

def modelFilterReason (canonicalModel : CanonicalModelRouteInput)
    (profile : ProfileRouteConstraints) : Option CandidateFilterReason :=
  match canonicalModel.status with
  | .disabled => some .canonicalModelDisabled
  | .deleted => some .canonicalModelDeleted
  | .active | .deprecated =>
    if stringListContains profile.deniedModels canonicalModel.modelKey ||
        (!profile.allowedModels.isEmpty &&
          !stringListContains profile.allowedModels canonicalModel.modelKey) then
      some .profileModelDenied
    else if !profile.visibleModelVisibilities.isEmpty &&
        !profile.visibleModelVisibilities.contains canonicalModel.visibility then
      some .modelVisibilityDenied
    else none

def associationFilterReason : Option CandidateFilterReason :=
  match association.status with
  | .enabled => none
  | .disabled => some .associationDisabled
  | .deleted => some .associationDeleted

def profileChannelFilterReason (profile : ProfileRouteConstraints) : Option CandidateFilterReason :=
  if hasAnyTag channel profile.deniedChannelTags ||
      (!profile.allowedChannelTags.isEmpty && !hasAnyTag channel profile.allowedChannelTags) then
    some .profileChannelTagDenied
  else if stringListContains profile.blockedProviderIds channel.providerId then
    some .profileProviderDenied
  else none

def modelPatternMatches (model pattern : String) : Bool :=
  let pattern := trimText pattern
  !pattern.isEmpty && regexIsMatch pattern model

def associationMatchesChannel (canonicalModelKey : String) : Bool :=
  match association.target with
  | .explicitChannel channelId => channel.id == channelId
  | .channelTag tag => channelHasTag channel tag
  | .modelPattern pattern => modelPatternMatches regexIsMatch canonicalModelKey pattern
  | .global => true

def upstreamModelName (canonicalModel : CanonicalModelRouteInput) : String :=
  match (association.upstreamModelName.map trimText).filter (!·.isEmpty) with
  | some name => name
  | none => mapUpstreamModelName canonicalModel.modelKey channel.modelMappingPolicy

def associationTypeRank : ModelAssociationType → Nat
  | .explicitChannel => 0
  | .channelTag => 1
  | .modelPattern => 2
  | .global => 3

def compareGeneratedRouteCandidates (left right : GeneratedRouteCandidate) : Ordering :=
  (compare left.candidate.priority right.candidate.priority).then <|
    (compare right.candidate.weight left.candidate.weight).then <|
      (compare left.candidate.channelId right.candidate.channelId).then <|
        (compare left.candidate.providerId right.candidate.providerId).then <|
          (compare left.candidate.providerModel right.candidate.providerModel).then <|
            (compare left.associationId right.associationId).then <|
              compare (associationTypeRank left.associationType)
                (associationTypeRank right.associationType)

/-- The candidate of an association and a channel that it matches. -/
def generatedCandidate : GeneratedRouteCandidate :=
  let routeCandidate : RouteCandidate :=
    { channelId := channel.id
      providerId := channel.providerId
      providerModel := upstreamModelName association channel input.canonicalModel
      priority := routePriorityForGeneration association.priority channel.priority
      weight := channel.weight
      status := channel.status
      health := channel.health
      rateLimitAvailable := channel.rateLimitAvailable }
  { associationId := association.id
    associationType := association.target.associationType
    associationPriority := association.priority
    channelPriority := channel.priority
    fallbackAllowed := association.fallbackAllowed
    candidate := routeCandidate
    filterReason := (modelFilterReason input.canonicalModel input.profile).or <|
      (associationFilterReason association).or <|
        (profileChannelFilterReason channel input.profile).or <|
          selectionFilterReasonFor routeCandidate }

/-- The nested loop over associations and channels. -/
def pairedCandidates : List GeneratedRouteCandidate :=
  (input.associations.filter (·.canonicalModelId == input.canonicalModel.id)).flatMap
    fun association =>
      (input.channels.filter fun channel =>
        associationMatchesChannel regexIsMatch association channel
          input.canonicalModel.modelKey).map (generatedCandidate input association)

def generateRouteCandidates : RouteCandidateGenerationResult where
  requestedModel := input.requestedModel
  canonicalModel := input.canonicalModel
  candidates := sortBy compareGeneratedRouteCandidates (pairedCandidates regexIsMatch input)

end FuboxApi
