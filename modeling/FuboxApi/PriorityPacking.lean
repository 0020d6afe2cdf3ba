import FuboxApi.RouteSelectionSpec
import FuboxApi.RoutingOrder

/-!
# Association and channel priorities in one number

The association priority times a million plus the channel priority, saturating at 32 bits. The order
is the intended one as long as no channel priority reaches over a million and nothing saturates.
-/

namespace FuboxApi

open ComparatorSort WeightedTickets

namespace GeneratedRouteCandidate

def route (generated : GeneratedRouteCandidate) : SelectedRoute :=
  selectedRouteFromCandidate generated.evaluatedCandidate

/-- The order that is intended: by association, then by channel. -/
def HasSmallerPriorities (first second : GeneratedRouteCandidate) : Prop :=
  first.associationPriority < second.associationPriority ∨
    first.associationPriority = second.associationPriority ∧
      first.channelPriority < second.channelPriority

/-- The packed number without saturation. -/
def unboundedPriority (generated : GeneratedRouteCandidate) : Int :=
  generated.associationPriority.toInt * 1000000 + generated.channelPriority.toInt

/-- The channel priority of the first candidate does not make up for its smaller
association priority, and its packed number does not saturate. -/
def PacksBelow (first second : GeneratedRouteCandidate) : Prop :=
  (first.associationPriority < second.associationPriority →
      first.channelPriority.toInt < second.channelPriority.toInt +
        (second.associationPriority.toInt - first.associationPriority.toInt) * 1000000) ∧
    first.unboundedPriority < 2 ^ 31 - 1

/-- The first candidate stands before the second one, is selected of the two by
every seed, and keeps the second one from being selected among others. -/
structure OrderedAndSelectedBefore (first second : GeneratedRouteCandidate) : Prop where
  ordered : compareGeneratedRouteCandidates first second = .lt
  selected : ∀ request,
    (selectRouteFromEvaluated request [first.evaluatedCandidate, second.evaluatedCandidate]
      RouteSelectionContext.default).selected = some first.route
  preferred : ∀ candidates : List EvaluatedCandidate, first.evaluatedCandidate ∈ candidates →
    ∀ request, (selectRouteFromEvaluated request candidates
      RouteSelectionContext.default).selected ≠ some second.route

end GeneratedRouteCandidate

open GeneratedRouteCandidate

/-! ## The packed number -/

theorem toInt_routePriorityForGeneration {associationPriority channelPriority : Int32}
    (associationNonneg : 0 ≤ associationPriority) (channelNonneg : 0 ≤ channelPriority) :
    (routePriorityForGeneration associationPriority channelPriority).toInt =
      min (associationPriority.toInt * 1000000 + channelPriority.toInt) (2 ^ 31 - 1) := by
  have clampEq : ∀ value : Int, 0 ≤ value →
      (Int32.ofIntClamp value).toInt = min value (2 ^ 31 - 1) := by
    intro value nonneg
    have minEq : Int32.minValue.toInt = -2 ^ 31 := by decide
    have maxEq : Int32.maxValue.toInt = 2 ^ 31 - 1 := by decide
    by_cases fits : value ≤ 2 ^ 31 - 1
    · rw [Int32.toInt_ofIntClamp (by omega) (by omega), min_eq_left fits]
    · rw [min_eq_right (by omega), Int32.ofIntClamp, dif_pos (by omega), dif_neg (by omega), maxEq]
  rw [Int32.le_iff_toInt_le, Int32.toInt_zero] at associationNonneg channelNonneg
  rw [routePriorityForGeneration, clampEq (associationPriority.toInt * 1000000) (by omega),
    clampEq _ (by omega)]
  omega

section

variable (regexIsMatch : String → String → Bool) {input : RouteCandidateGenerationInput}
  {generated first second : GeneratedRouteCandidate}

theorem toInt_priority_of_mem
    (associationsNonneg : ∀ association ∈ input.associations, 0 ≤ association.priority)
    (channelsNonneg : ∀ channel ∈ input.channels, 0 ≤ channel.priority)
    (member : generated ∈ (generateRouteCandidates regexIsMatch input).candidates) :
    generated.candidate.priority.toInt = min generated.unboundedPriority (2 ^ 31 - 1) := by
  obtain ⟨association, associationMem, channel, channelMem, rfl⟩ :=
    mem_pairedCandidates regexIsMatch (mem_sortBy.mp member)
  exact toInt_routePriorityForGeneration (associationsNonneg association associationMem)
    (channelsNonneg channel channelMem)

theorem weight_pos_of_mem
    (member : generated ∈ (generateRouteCandidates regexIsMatch input).candidates)
    (selectable : generated.isSelectable = true) :
    0 < evaluatedWeight generated.evaluatedCandidate := by
  obtain ⟨association, _, channel, _, rfl⟩ :=
    mem_pairedCandidates regexIsMatch (mem_sortBy.mp member)
  have reasonNone := Option.isNone_iff_eq_none.mp selectable
  simp only [generatedCandidate, Option.or_eq_none_iff] at reasonNone
  exact RouteCandidate.weight_pos_of_selectable (Option.isNone_iff_eq_none.mpr reasonNone.2.2.2)

end

/-! ## Order and selection -/

section

variable {first second : GeneratedRouteCandidate}

theorem compareGenerated_lt_of_priority
    (smaller : first.candidate.priority < second.candidate.priority) :
    compareGeneratedRouteCandidates first second = .lt := by
  have priorities : compare first.candidate.priority second.candidate.priority = .lt :=
    Std.compare_eq_lt.mpr smaller
  rw [compareGeneratedRouteCandidates, priorities]
  rfl

theorem selected_fromEvaluated (request : RouteRequest) (candidates : List EvaluatedCandidate) :
    (selectRouteFromEvaluated request candidates RouteSelectionContext.default).selected =
      pickByPriorityThenWeight (sortBy compareEvaluatedCandidates candidates) request.policy.seed :=
  rfl

variable {candidates : List EvaluatedCandidate} {member : EvaluatedCandidate}

theorem priority_le_of_selected {request : RouteRequest} {route : SelectedRoute}
    (inList : member ∈ candidates) (selectable : member.isSelectable = true)
    (selected : (selectRouteFromEvaluated request candidates
      RouteSelectionContext.default).selected = some route) :
    route.priority ≤ member.candidate.priority ∧
      ∃ evaluated ∈ candidates, selectedRouteFromCandidate evaluated = route := by
  obtain ⟨priority, best, evaluated, inGroup, rfl⟩ := pickByPriorityThenWeight_eq_some selected
  obtain ⟨evaluatedMem, _, priorityEq⟩ := mem_priorityGroup.mp inGroup
  have lowest := bestPriority_le best (mem_sortBy.mpr inList) selectable
  exact ⟨priorityEq.trans_le lowest, evaluated, mem_sortBy.mp evaluatedMem, rfl⟩

theorem total_priorityGroup_lt {first second : EvaluatedCandidate}
    (pair : candidates.Perm [first, second]) (priority : Int32) :
    total evaluatedWeight (priorityGroup candidates priority) < 2 ^ 64 := by
  have filtered : total evaluatedWeight (priorityGroup candidates priority) ≤
      total evaluatedWeight candidates :=
    (List.filter_sublist.map evaluatedWeight).sum_le_sum fun _ _ => Nat.zero_le _
  have added : total evaluatedWeight candidates =
      evaluatedWeight first + (evaluatedWeight second + 0) :=
    total_perm evaluatedWeight pair
  have firstLt : evaluatedWeight first < 2 ^ 32 := first.candidate.weight.toNat_lt
  have secondLt : evaluatedWeight second < 2 ^ 32 := second.candidate.weight.toNat_lt
  omega

theorem picks_of_pair {other : EvaluatedCandidate} (pair : candidates.Perm [member, other])
    (selectable : member.isSelectable = true) (weightPos : 0 < evaluatedWeight member)
    (lowest : member.candidate.priority ≤ other.candidate.priority) :
    (∃ request, (selectRouteFromEvaluated request candidates
        RouteSelectionContext.default).selected = some (selectedRouteFromCandidate member)) ∧
      ∀ request, (selectRouteFromEvaluated request candidates
        RouteSelectionContext.default).selected.isSome := by
  have sortedPair : (sortBy compareEvaluatedCandidates candidates).Perm [member, other] :=
    (sortBy_perm _ _).trans pair
  have inList : member ∈ sortBy compareEvaluatedCandidates candidates :=
    sortedPair.mem_iff.mpr List.mem_cons_self
  have best := bestPriority_eq_of_lowest inList selectable fun candidate candidateMem _ => by
    rcases List.mem_pair.mp (sortedPair.mem_iff.mp candidateMem) with rfl | rfl
    · exact Int32.le_refl _
    · exact lowest
  have inGroup := mem_priorityGroup.mpr ⟨inList, selectable, rfl⟩
  have fits := total_priorityGroup_lt sortedPair member.candidate.priority
  obtain ⟨ticket, ticketLt, owns⟩ := exists_ticket_of_mem evaluatedWeight inGroup weightPos
  have picks := pickByPriorityThenWeight_eq_pick best (Nat.zero_lt_of_lt ticketLt) fits
  constructor
  · refine ⟨⟨"", none, ⟨UInt64.ofNat ticket⟩⟩, ?_⟩
    rw [selected_fromEvaluated, picks, UInt64.toNat_ofNat_of_lt' (ticketLt.trans fits),
      Nat.mod_eq_of_lt ticketLt, owns]
    rfl
  · intro request
    rw [selected_fromEvaluated, picks, Option.isSome_map, isSome_pick_iff]
    exact Nat.mod_lt _ (Nat.zero_lt_of_lt ticketLt)

theorem orderedAndSelectedBefore_iff
    (firstSelectable : first.evaluatedCandidate.isSelectable = true)
    (secondSelectable : second.evaluatedCandidate.isSelectable = true)
    (firstWeight : 0 < evaluatedWeight first.evaluatedCandidate)
    (secondWeight : 0 < evaluatedWeight second.evaluatedCandidate) :
    first.OrderedAndSelectedBefore second ↔
      first.candidate.priority < second.candidate.priority := by
  constructor
  · intro before
    by_contra notSmaller
    have swapped : [first.evaluatedCandidate, second.evaluatedCandidate].Perm
        [second.evaluatedCandidate, first.evaluatedCandidate] := .swap _ _ []
    obtain ⟨request, selected⟩ := (picks_of_pair swapped secondSelectable secondWeight
      (Int32.not_lt.mp notSmaller)).1
    exact before.preferred [first.evaluatedCandidate, second.evaluatedCandidate]
      List.mem_cons_self request selected
  · intro smaller
    refine ⟨compareGenerated_lt_of_priority smaller, fun request => ?_, ?_⟩
    · have pair := List.Perm.refl [first.evaluatedCandidate, second.evaluatedCandidate]
      obtain ⟨route, selected⟩ := Option.isSome_iff_exists.mp
        ((picks_of_pair pair firstSelectable firstWeight (Int32.le_of_lt smaller)).2 request)
      obtain ⟨lowest, evaluated, evaluatedMem, rfl⟩ :=
        priority_le_of_selected List.mem_cons_self firstSelectable selected
      rw [selected]
      rcases List.mem_pair.mp evaluatedMem with rfl | rfl
      · rfl
      · exact absurd smaller (Int32.not_lt.mpr lowest)
    · intro candidates inList request selected
      obtain ⟨lowest, _⟩ := priority_le_of_selected inList firstSelectable selected
      exact absurd smaller (Int32.not_lt.mpr lowest)

end

/-- Of two generated candidates with non-negative priorities the one with the smaller
association priority, or the same and the smaller channel priority, is ordered
and selected before the other exactly if its packed number is the smaller one and
does not saturate. -/
theorem association_priority_dominates_iff (regexIsMatch : String → String → Bool)
    (input : RouteCandidateGenerationInput)
    (associationsNonneg : ∀ association ∈ input.associations, 0 ≤ association.priority)
    (channelsNonneg : ∀ channel ∈ input.channels, 0 ≤ channel.priority)
    (first second : GeneratedRouteCandidate)
    (firstMem : first ∈ (generateRouteCandidates regexIsMatch input).candidates)
    (secondMem : second ∈ (generateRouteCandidates regexIsMatch input).candidates)
    (smaller : first.HasSmallerPriorities second) :
    (first.PacksBelow second → compareGeneratedRouteCandidates first second = .lt) ∧
      (first.isSelectable = true → second.isSelectable = true →
        (first.OrderedAndSelectedBefore second ↔ first.PacksBelow second)) := by
  have firstPacked := toInt_priority_of_mem regexIsMatch associationsNonneg channelsNonneg firstMem
  have secondPacked :=
    toInt_priority_of_mem regexIsMatch associationsNonneg channelsNonneg secondMem
  have packedIff : first.candidate.priority < second.candidate.priority ↔
      first.PacksBelow second := by
    rw [Int32.lt_iff_toInt_lt, firstPacked, secondPacked]
    simp only [PacksBelow, unboundedPriority, HasSmallerPriorities, Int32.lt_iff_toInt_lt,
      ← Int32.toInt_inj] at smaller ⊢
    omega
  refine ⟨fun below => compareGenerated_lt_of_priority (packedIff.mpr below), ?_⟩
  intro firstSelectable secondSelectable
  rw [← packedIff]
  exact orderedAndSelectedBefore_iff firstSelectable secondSelectable
    (weight_pos_of_mem regexIsMatch firstMem firstSelectable)
    (weight_pos_of_mem regexIsMatch secondMem secondSelectable)

/-! Associations to two channels, in a model that everybody may use. -/

def openModel : CanonicalModelRouteInput :=
  ⟨"m", "m", .active, .public⟩

def explicitAssociation (channelId : String) (priority : Int32) : ModelAssociationRouteInput :=
  ⟨"to-" ++ channelId, "m", .explicitChannel channelId, some "m", priority, true, .enabled⟩

def healthyChannel (channelId : String) (priority : Int32) : ChannelRouteInput :=
  ⟨channelId, "p", [], ⟨[], [], .preserve⟩, priority, 1, .enabled, .healthy, true⟩

/-- Channel `a` with the first pair of priorities, channel `b` with the second one. -/
def twoChannels (first second : Int32 × Int32) : RouteCandidateGenerationInput :=
  ⟨"m", openModel, [explicitAssociation "a" first.1, explicitAssociation "b" second.1],
    [healthyChannel "a" first.2, healthyChannel "b" second.2], ⟨[], [], [], [], [], []⟩⟩

def firstOfTwo (first second : Int32 × Int32) : GeneratedRouteCandidate :=
  generatedCandidate (twoChannels first second) (explicitAssociation "a" first.1)
    (healthyChannel "a" first.2)

def secondOfTwo (first second : Int32 × Int32) : GeneratedRouteCandidate :=
  generatedCandidate (twoChannels first second) (explicitAssociation "b" second.1)
    (healthyChannel "b" second.2)

theorem association_priority_dominates_smallChannel :
    (firstOfTwo (1, 900000) (2, 0)).OrderedAndSelectedBefore (secondOfTwo (1, 900000) (2, 0)) :=
  ((association_priority_dominates_iff (fun _ _ => false) (twoChannels (1, 900000) (2, 0))
    (by decide +kernel) (by decide +kernel) (firstOfTwo (1, 900000) (2, 0))
    (secondOfTwo (1, 900000) (2, 0)) (by decide +kernel) (by decide +kernel)
    (.inl (by decide +kernel))).2 (by decide +kernel) (by decide +kernel)).mpr
      ⟨fun _ => by decide +kernel, by decide +kernel⟩

/-- The channel that the candidates of an input lead to, by some seed. -/
def selectedChannel (input : RouteCandidateGenerationInput) (seed : UInt64) : Option String :=
  (selectRouteFromEvaluated ⟨"m", none, ⟨seed⟩⟩
    (generateRouteCandidates (fun _ _ => false) input).evaluatedCandidates
    RouteSelectionContext.default).selectedChannelId

/-- A channel priority of more than a million outweighs the association priority,
and from 2148 on all association priorities are packed into the same number. -/
theorem channel_priority_outweighs_association :
    (firstOfTwo (1, 1000001) (2, 0)).HasSmallerPriorities (secondOfTwo (1, 1000001) (2, 0)) ∧
      selectedChannel (twoChannels (1, 1000001) (2, 0)) 0 = some "b" ∧
      (firstOfTwo (2148, 0) (9999, 0)).HasSmallerPriorities (secondOfTwo (2148, 0) (9999, 0)) ∧
      selectedChannel (twoChannels (2148, 0) (9999, 0)) 1 = some "b" :=
  ⟨.inl (by decide +kernel), by decide +kernel, .inl (by decide +kernel), by decide +kernel⟩

end FuboxApi
