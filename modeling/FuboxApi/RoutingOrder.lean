import FuboxApi.CandidateGeneration

/-!
# Routing does not depend on the load order

The associations and the channels come out of the database in some order. The comparator tells two
pairs apart whenever the identifiers do, so sorting forgets the order.
-/

namespace FuboxApi

open ComparatorSort

/-- The heavier candidate first. -/
def compareByWeight (left right : GeneratedRouteCandidate) : Ordering :=
  compare right.candidate.weight left.candidate.weight

instance compareByWeight_trans : Std.TransCmp compareByWeight :=
  @Std.TransCmp.opposite _ (compareOn fun generated : GeneratedRouteCandidate =>
    generated.candidate.weight) inferInstance

instance compareGenerated_trans : Std.TransCmp compareGeneratedRouteCandidates :=
  inferInstanceAs <| Std.TransCmp <|
    compareLex (compareOn (·.candidate.priority)) <|
      compareLex compareByWeight <|
        compareLex (compareOn (·.candidate.channelId)) <|
          compareLex (compareOn (·.candidate.providerId)) <|
            compareLex (compareOn (·.candidate.providerModel)) <|
              compareLex (compareOn (·.associationId))
                (compareOn fun generated => associationTypeRank generated.associationType)

theorem ids_eq_of_compareGenerated {left right : GeneratedRouteCandidate}
    (same : compareGeneratedRouteCandidates left right = .eq) :
    left.candidate.channelId = right.candidate.channelId ∧
      left.associationId = right.associationId := by
  unfold compareGeneratedRouteCandidates at same
  simp only [Ordering.then_eq_eq, Std.compare_eq_iff_eq] at same
  obtain ⟨_, _, channelEq, _, _, associationEq, _⟩ := same
  exact ⟨channelEq, associationEq⟩

section

variable (regexIsMatch : String → String → Bool) {input : RouteCandidateGenerationInput}
  {associations : List ModelAssociationRouteInput} {channels : List ChannelRouteInput}

theorem mem_pairedCandidates {generated : GeneratedRouteCandidate}
    (member : generated ∈ pairedCandidates regexIsMatch input) :
    ∃ association ∈ input.associations, ∃ channel ∈ input.channels,
      generated = generatedCandidate input association channel := by
  obtain ⟨association, associationMem, generatedMem⟩ := List.mem_flatMap.mp member
  obtain ⟨channel, channelMem, rfl⟩ := List.mem_map.mp generatedMem
  exact ⟨association, (List.mem_filter.mp associationMem).1,
    channel, (List.mem_filter.mp channelMem).1, rfl⟩

theorem pairedCandidates_perm (associationsPerm : associations.Perm input.associations)
    (channelsPerm : channels.Perm input.channels) :
    (pairedCandidates regexIsMatch { input with associations, channels }).Perm
      (pairedCandidates regexIsMatch input) := by
  apply List.Perm.flatMap (associationsPerm.filter _)
  intro association _
  exact (channelsPerm.filter _).map _

theorem eq_of_compareGenerated (associationIds : (input.associations.map (·.id)).Nodup)
    (channelIds : (input.channels.map (·.id)).Nodup) {left right : GeneratedRouteCandidate}
    (leftMem : left ∈ pairedCandidates regexIsMatch input)
    (rightMem : right ∈ pairedCandidates regexIsMatch input)
    (same : compareGeneratedRouteCandidates left right = .eq) : left = right := by
  obtain ⟨leftAssociation, leftAssociationMem, leftChannel, leftChannelMem, rfl⟩ :=
    mem_pairedCandidates regexIsMatch leftMem
  obtain ⟨rightAssociation, rightAssociationMem, rightChannel, rightChannelMem, rfl⟩ :=
    mem_pairedCandidates regexIsMatch rightMem
  obtain ⟨channelIdEq, associationIdEq⟩ := ids_eq_of_compareGenerated same
  have channelEq : leftChannel = rightChannel :=
    List.inj_on_of_nodup_map channelIds leftChannelMem rightChannelMem channelIdEq
  have associationEq : leftAssociation = rightAssociation :=
    List.inj_on_of_nodup_map associationIds leftAssociationMem rightAssociationMem associationIdEq
  rw [channelEq, associationEq]

theorem generateRouteCandidates_eq_of_perm (associationIds : (input.associations.map (·.id)).Nodup)
    (channelIds : (input.channels.map (·.id)).Nodup)
    (associationsPerm : associations.Perm input.associations)
    (channelsPerm : channels.Perm input.channels) :
    generateRouteCandidates regexIsMatch { input with associations, channels } =
      generateRouteCandidates regexIsMatch input := by
  have sorted := sortBy_eq_of_perm compareGeneratedRouteCandidates
    (pairedCandidates_perm regexIsMatch associationsPerm channelsPerm).symm
    fun left leftMem right rightMem =>
      eq_of_compareGenerated regexIsMatch associationIds channelIds leftMem rightMem
  exact congrArg (RouteCandidateGenerationResult.mk input.requestedModel input.canonicalModel)
    sorted.symm

/-- The generated candidates, and every selection made from them, are the same
whatever order the associations and the channels were loaded in. -/
theorem routing_independent_of_load_order (associationIds : (input.associations.map (·.id)).Nodup)
    (channelIds : (input.channels.map (·.id)).Nodup)
    (associationsPerm : associations.Perm input.associations)
    (channelsPerm : channels.Perm input.channels) (request : RouteRequest)
    (context : RouteSelectionContext) :
    let generated := generateRouteCandidates regexIsMatch input
    let reordered := generateRouteCandidates regexIsMatch { input with associations, channels }
    reordered.candidates = generated.candidates ∧
      selectRouteFromEvaluated request reordered.evaluatedCandidates context =
        selectRouteFromEvaluated request generated.evaluatedCandidates context ∧
      selectRouteWithContext request reordered.selectableRouteCandidates context =
        selectRouteWithContext request generated.selectableRouteCandidates context := by
  intro generated reordered
  have same : reordered = generated :=
    generateRouteCandidates_eq_of_perm regexIsMatch associationIds channelIds
      associationsPerm channelsPerm
  rw [same]
  exact ⟨rfl, rfl, rfl⟩

end

/-- A model with a pattern and a global association, and two channels. -/
def sampleInput : RouteCandidateGenerationInput where
  requestedModel := "m"
  canonicalModel := ⟨"model", "m", .active, .public⟩
  associations :=
    [⟨"first", "model", .modelPattern "m", none, 1, true, .enabled⟩,
      ⟨"second", "model", .global, none, 1, true, .enabled⟩]
  channels :=
    [⟨"a", "p", [], ⟨[], [], .preserve⟩, 0, 1, .enabled, .healthy, true⟩,
      ⟨"b", "p", [], ⟨[], [], .preserve⟩, 0, 1, .enabled, .healthy, true⟩]
  profile := ⟨[], [], [], [], [], []⟩

theorem routing_independent_of_load_order_sampleInput : (generateRouteCandidates (fun _ _ => true)
        { sampleInput with
          associations := sampleInput.associations.reverse
          channels := sampleInput.channels.reverse }).candidates =
      (generateRouteCandidates (fun _ _ => true) sampleInput).candidates :=
  (routing_independent_of_load_order (fun _ _ => true) (by decide +kernel) (by decide +kernel)
    (List.reverse_perm _) (List.reverse_perm _) ⟨"m", none, ⟨0⟩⟩ RouteSelectionContext.default).1

end FuboxApi
