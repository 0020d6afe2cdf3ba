import FuboxApi.RouteSelection

/-!
# Selection is proportional to the weights

Without trace affinity a run of as many seeds as the best group weighs gives each candidate as many
seeds as it weighs. This needs a group that weighs less than `2 ^ 64`.
-/

namespace FuboxApi

open ComparatorSort WeightedTickets

namespace RouteCandidate

def evaluated (candidate : RouteCandidate) : EvaluatedCandidate :=
  ⟨candidate, selectionFilterReasonFor candidate⟩

def selectable (candidate : RouteCandidate) : Bool :=
  candidate.evaluated.isSelectable

def route (candidate : RouteCandidate) : SelectedRoute :=
  selectedRouteFromCandidate candidate.evaluated

variable {candidate : RouteCandidate}

theorem selectable_iff : candidate.selectable = true ↔
      (candidate.status = .enabled ∨ candidate.status = .degraded) ∧
        candidate.rateLimitAvailable = true ∧ candidate.health ≠ .unhealthy ∧
          candidate.weight ≠ 0 := by
  unfold RouteCandidate.selectable evaluated EvaluatedCandidate.isSelectable
    selectionFilterReasonFor
  cases candidate.status <;> simp [apply_ite Option.isNone]

theorem weight_pos_of_selectable (selectable : candidate.selectable = true) :
    0 < candidate.weight.toNat := by
  have weightNe : candidate.weight ≠ 0 := (selectable_iff.mp selectable).2.2.2
  rw [Nat.pos_iff_ne_zero, Ne, ← UInt32.toNat_zero, UInt32.toNat_inj]
  exact weightNe

end RouteCandidate

/-- The priority of some selectable candidate that no other goes below. -/
def IsBestPriority (candidates : List RouteCandidate) (priority : Int32) : Prop :=
  (∃ candidate ∈ candidates, candidate.selectable = true ∧ candidate.priority = priority) ∧
    ∀ candidate ∈ candidates, candidate.selectable = true → priority ≤ candidate.priority

def candidateGroup (candidates : List RouteCandidate) (priority : Int32) : List RouteCandidate :=
  candidates.filter fun candidate =>
    candidate.selectable && candidate.priority == priority

def candidateWeight (candidate : RouteCandidate) : Nat :=
  candidate.weight.toNat

def groupWeight (candidates : List RouteCandidate) (priority : Int32) : Nat :=
  total candidateWeight (candidateGroup candidates priority)

variable {candidates : List RouteCandidate} {priority : Int32}

section

theorem evaluateCandidates_perm (candidates : List RouteCandidate) :
    (evaluateCandidates candidates).Perm (candidates.map RouteCandidate.evaluated) :=
  sortBy_perm _ _

theorem priorityGroup_perm (candidates : List RouteCandidate) (priority : Int32) :
    (priorityGroup (evaluateCandidates candidates) priority).Perm
      ((candidateGroup candidates priority).map RouteCandidate.evaluated) := by
  have perm := (evaluateCandidates_perm candidates).filter fun evaluated =>
    evaluated.isSelectable && evaluated.candidate.priority == priority
  rw [List.filter_map] at perm
  exact perm

theorem bestPriority_eq_some_iff : bestPriority (evaluateCandidates candidates) = some priority ↔
      IsBestPriority candidates priority := by
  unfold bestPriority IsBestPriority
  rw [List.min?_eq_some_iff]
  simp only [List.mem_map, List.mem_filter, (evaluateCandidates_perm candidates).mem_iff]
  constructor
  · rintro ⟨⟨evaluated, ⟨⟨candidate, member, rfl⟩, selectable⟩, rfl⟩, lowest⟩
    refine ⟨⟨candidate, member, selectable, rfl⟩, ?_⟩
    intro other otherMember otherSelectable
    exact lowest _ ⟨other.evaluated, ⟨⟨other, otherMember, rfl⟩, otherSelectable⟩, rfl⟩
  · rintro ⟨⟨candidate, member, selectable, rfl⟩, lowest⟩
    refine ⟨⟨candidate.evaluated, ⟨⟨candidate, member, rfl⟩, selectable⟩, rfl⟩, ?_⟩
    rintro _ ⟨evaluated, ⟨⟨other, otherMember, rfl⟩, otherSelectable⟩, rfl⟩
    exact lowest other otherMember otherSelectable

theorem none_selectable (best : bestPriority (evaluateCandidates candidates) = none) :
    ∀ candidate ∈ candidates, candidate.selectable = false := by
  rw [bestPriority, List.min?_eq_none_iff, List.map_eq_nil_iff, List.filter_eq_nil_iff] at best
  simp only [(evaluateCandidates_perm candidates).mem_iff, List.mem_map] at best
  intro candidate member
  exact Bool.eq_false_of_not_eq_true (best candidate.evaluated ⟨candidate, member, rfl⟩)

variable {evaluated : List EvaluatedCandidate} {member : EvaluatedCandidate}

theorem mem_priorityGroup : member ∈ priorityGroup evaluated priority ↔
      member ∈ evaluated ∧ member.isSelectable = true ∧ member.candidate.priority = priority := by
  simp [priorityGroup]

theorem bestPriority_le (best : bestPriority evaluated = some priority)
    (inList : member ∈ evaluated) (selectable : member.isSelectable = true) :
    priority ≤ member.candidate.priority :=
  (List.min?_eq_some_iff.mp best).2 _
    (List.mem_map_of_mem (List.mem_filter.mpr ⟨inList, selectable⟩))

theorem bestPriority_eq_of_lowest (inList : member ∈ evaluated)
    (selectable : member.isSelectable = true)
    (lowest : ∀ other ∈ evaluated, other.isSelectable = true →
      member.candidate.priority ≤ other.candidate.priority) :
    bestPriority evaluated = some member.candidate.priority := by
  refine List.min?_eq_some_iff.mpr
    ⟨List.mem_map_of_mem (List.mem_filter.mpr ⟨inList, selectable⟩), fun priority inMap => ?_⟩
  obtain ⟨other, otherMem, rfl⟩ := List.mem_map.mp inMap
  exact lowest other (List.mem_filter.mp otherMem).1 (List.mem_filter.mp otherMem).2

end

section

def evaluatedWeight (evaluated : EvaluatedCandidate) : Nat :=
  evaluated.candidate.weight.toNat

theorem toNat_totalWeight (group : List EvaluatedCandidate) :
    (totalWeight group).toNat = total evaluatedWeight group % 2 ^ 64 := by
  induction group with
  | nil => rfl
  | cons evaluated later ih =>
    have unfolded : totalWeight (evaluated :: later) =
        evaluated.candidate.weight.toUInt64 + totalWeight later :=
      List.sum_cons
    rw [unfolded, UInt64.toNat_add, ih, UInt32.toNat_toUInt64, total_cons, Nat.add_mod_mod]
    rfl

theorem walkPriorityGroup_eq_pick (group : List EvaluatedCandidate) (ticket : UInt64) :
    walkPriorityGroup group ticket =
      (pick evaluatedWeight group ticket.toNat).map selectedRouteFromCandidate := by
  induction group generalizing ticket with
  | nil => rfl
  | cons evaluated later ih =>
    have weightEq : evaluated.candidate.weight.toUInt64.toNat = evaluatedWeight evaluated :=
      UInt32.toNat_toUInt64 _
    simp only [walkPriorityGroup, pick, UInt64.lt_iff_toNat_lt, weightEq]
    split
    · rfl
    · next weightLe =>
      have toNatSub : (ticket - evaluated.candidate.weight.toUInt64).toNat =
          ticket.toNat - evaluatedWeight evaluated := by
        rw [UInt64.toNat_sub_of_le, weightEq]
        rw [UInt64.le_iff_toNat_le, weightEq]
        omega
      rw [ih, toNatSub]

variable {candidates : List EvaluatedCandidate}

theorem pickByPriorityThenWeight_of_best (best : bestPriority candidates = some priority)
    (weightNe : totalWeight (priorityGroup candidates priority) ≠ 0) (seed : UInt64) :
    pickByPriorityThenWeight candidates seed =
      (pick evaluatedWeight (priorityGroup candidates priority)
        (seed.toNat % (totalWeight (priorityGroup candidates priority)).toNat)).map
          selectedRouteFromCandidate := by
  unfold pickByPriorityThenWeight
  rw [best]
  simp only [if_neg weightNe]
  rw [walkPriorityGroup_eq_pick, UInt64.toNat_mod]

theorem pickByPriorityThenWeight_eq_pick (best : bestPriority candidates = some priority)
    (weightPos : 0 < total evaluatedWeight (priorityGroup candidates priority))
    (weightFits : total evaluatedWeight (priorityGroup candidates priority) < 2 ^ 64)
    (seed : UInt64) : pickByPriorityThenWeight candidates seed =
      (pick evaluatedWeight (priorityGroup candidates priority)
        (seed.toNat % total evaluatedWeight (priorityGroup candidates priority))).map
          selectedRouteFromCandidate := by
  have totalEq : (totalWeight (priorityGroup candidates priority)).toNat =
      total evaluatedWeight (priorityGroup candidates priority) := by
    rw [toNat_totalWeight, Nat.mod_eq_of_lt weightFits]
  have totalNe : totalWeight (priorityGroup candidates priority) ≠ 0 := by
    intro totalZero
    rw [totalZero] at totalEq
    exact weightPos.ne totalEq
  rw [pickByPriorityThenWeight_of_best best totalNe, totalEq]

theorem pickByPriorityThenWeight_eq_some {seed : UInt64} {route : SelectedRoute}
    (picked : pickByPriorityThenWeight candidates seed = some route) :
    ∃ priority, bestPriority candidates = some priority ∧
      ∃ evaluated ∈ priorityGroup candidates priority,
        selectedRouteFromCandidate evaluated = route := by
  cases best : bestPriority candidates with
  | none => simp [pickByPriorityThenWeight, best] at picked
  | some priority =>
    by_cases weightZero : totalWeight (priorityGroup candidates priority) = 0
    · simp [pickByPriorityThenWeight, best, weightZero] at picked
    · rw [pickByPriorityThenWeight_of_best best weightZero, Option.map_eq_some_iff] at picked
      obtain ⟨evaluated, owns, routeEq⟩ := picked
      exact ⟨priority, rfl, evaluated, mem_of_pick evaluatedWeight owns, routeEq⟩

end

section

theorem total_priorityGroup (candidates : List RouteCandidate) (priority : Int32) :
    total evaluatedWeight (priorityGroup (evaluateCandidates candidates) priority) =
      groupWeight candidates priority := by
  rw [total_perm _ (priorityGroup_perm candidates priority), total, List.map_map]
  rfl

theorem groupWeight_pos (best : IsBestPriority candidates priority) :
    0 < groupWeight candidates priority := by
  obtain ⟨⟨candidate, member, selectable, rfl⟩, _⟩ := best
  have inGroup : candidate ∈ candidateGroup candidates candidate.priority := by
    simp [candidateGroup, member, selectable]
  have weightLe : candidateWeight candidate ≤ groupWeight candidates candidate.priority :=
    List.single_le_sum (fun _ _ => Nat.zero_le _) _ (List.mem_map_of_mem inGroup)
  exact (RouteCandidate.weight_pos_of_selectable selectable).trans_le weightLe

theorem pick_of_isBestPriority (best : IsBestPriority candidates priority)
    (fits : groupWeight candidates priority < 2 ^ 64) (seed : UInt64) :
    pickByPriorityThenWeight (evaluateCandidates candidates) seed =
      (pick evaluatedWeight (priorityGroup (evaluateCandidates candidates) priority)
        (seed.toNat % groupWeight candidates priority)).map selectedRouteFromCandidate := by
  have weightPos := groupWeight_pos best
  rw [← total_priorityGroup] at weightPos fits ⊢
  exact pickByPriorityThenWeight_eq_pick (bestPriority_eq_some_iff.mpr best) weightPos fits seed

theorem selected_of_noAffinity {request : RouteRequest} {context : RouteSelectionContext}
    (noAffinity : context.traceAffinity.enabled = false) :
    (selectRouteWithContext request candidates context).selected =
      pickByPriorityThenWeight (evaluateCandidates candidates) request.policy.seed := by
  simp [selectRouteWithContext, selectFromEvaluatedCandidates, evaluateTraceAffinity,
    pickByTraceAffinity, noAffinity]

theorem isSome_pickByPriorityThenWeight_iff (fits : ∀ priority, IsBestPriority candidates priority →
      groupWeight candidates priority < 2 ^ 64) (seed : UInt64) :
    (pickByPriorityThenWeight (evaluateCandidates candidates) seed).isSome ↔
      ∃ candidate ∈ candidates, candidate.selectable = true := by
  cases best : bestPriority (evaluateCandidates candidates) with
  | none =>
    have unselectable := none_selectable best
    simp only [pickByPriorityThenWeight, best, Option.isSome_none, Bool.false_eq_true, false_iff,
      not_exists, not_and, Bool.not_eq_true]
    exact unselectable
  | some priority =>
    have isBest := bestPriority_eq_some_iff.mp best
    obtain ⟨candidate, member, selectable, _⟩ := isBest.1
    rw [pick_of_isBestPriority isBest (fits priority isBest), Option.isSome_map,
      isSome_pick_iff, total_priorityGroup]
    have ticketLt := Nat.mod_lt seed.toNat (groupWeight_pos isBest)
    exact iff_of_true ticketLt ⟨candidate, member, selectable⟩

theorem exists_candidate_of_pick {seed : UInt64} {route : SelectedRoute}
    (picked : pickByPriorityThenWeight (evaluateCandidates candidates) seed = some route) :
    ∃ candidate ∈ candidates, candidate.selectable = true ∧
      IsBestPriority candidates candidate.priority ∧ candidate.route = route := by
  obtain ⟨priority, best, evaluated, inGroup, routeEq⟩ := pickByPriorityThenWeight_eq_some picked
  rw [(priorityGroup_perm candidates priority).mem_iff, List.mem_map] at inGroup
  obtain ⟨candidate, candidateMem, rfl⟩ := inGroup
  simp only [candidateGroup, List.mem_filter, Bool.and_eq_true, beq_iff_eq] at candidateMem
  obtain ⟨member, selectable, rfl⟩ := candidateMem
  exact ⟨candidate, member, selectable, bestPriority_eq_some_iff.mp best, routeEq⟩

theorem total_filter_route (group : List RouteCandidate) (candidate : RouteCandidate) :
    total candidateWeight (group.filter fun other => other.route = candidate.route) =
      group.countP (fun other => other.route = candidate.route) * candidate.weight.toNat := by
  have sameWeight : ∀ weight ∈
      (group.filter fun other => other.route = candidate.route).map candidateWeight,
      weight = candidate.weight.toNat := by
    intro weight weightMem
    obtain ⟨other, otherMem, rfl⟩ := List.mem_map.mp weightMem
    have routeEq : other.route = candidate.route := by
      simpa using (List.mem_filter.mp otherMem).2
    exact congrArg (fun route : SelectedRoute => route.weight.toNat) routeEq
  rw [total, List.sum_eq_card_nsmul _ _ sameWeight, List.length_map, smul_eq_mul,
    ← List.countP_eq_length_filter]

theorem count_pick_route (priority : Int32) (route : SelectedRoute) : Nat.count (fun ticket =>
        ((pick evaluatedWeight (priorityGroup (evaluateCandidates candidates) priority)
          ticket).any fun evaluated => selectedRouteFromCandidate evaluated = route) = true)
        (groupWeight candidates priority) = total candidateWeight
        ((candidateGroup candidates priority).filter fun other => other.route = route) := by
  have perm := (priorityGroup_perm candidates priority).filter fun evaluated =>
    decide (selectedRouteFromCandidate evaluated = route)
  rw [← total_priorityGroup, count_pick, total_perm _ perm, List.filter_map, total, List.map_map]
  rfl

end

def RouteRequest.withSeed (request : RouteRequest) (seed : Nat) : RouteRequest :=
  { request with policy := ⟨UInt64.ofNat seed⟩ }

/-- How many seeds of a block of consecutive seeds select a route. The block
starts at a multiple of its width. -/
def seedsSelecting (request : RouteRequest) (candidates : List RouteCandidate)
    (context : RouteSelectionContext) (route : SelectedRoute) (block width : Nat) : Nat :=
  ((Finset.Ico (block * width) (block * width + width)).filter fun seed =>
    (selectRouteWithContext (request.withSeed seed) candidates context).selected = some route).card

variable {candidates : List RouteCandidate} {context : RouteSelectionContext} {priority : Int32}
  {request : RouteRequest}

theorem selected_withSeed_iff (noAffinity : context.traceAffinity.enabled = false)
    (best : IsBestPriority candidates priority) (fits : groupWeight candidates priority < 2 ^ 64)
    (route : SelectedRoute) {seed : Nat} (seedLt : seed < 2 ^ 64) :
    (selectRouteWithContext (request.withSeed seed) candidates context).selected = some route ↔
      ((pick evaluatedWeight (priorityGroup (evaluateCandidates candidates) priority)
        (seed % groupWeight candidates priority)).any fun evaluated =>
          selectedRouteFromCandidate evaluated = route) = true := by
  have toNatSeed : (request.withSeed seed).policy.seed.toNat = seed :=
    UInt64.toNat_ofNat_of_lt' seedLt
  rw [selected_of_noAffinity noAffinity, pick_of_isBestPriority best fits, toNatSeed]
  simp [Option.any_eq_true]

theorem seedsSelecting_eq (noAffinity : context.traceAffinity.enabled = false)
    (best : IsBestPriority candidates priority) (fits : groupWeight candidates priority < 2 ^ 64)
    (route : SelectedRoute) {block : Nat}
    (blockFits : (block + 1) * groupWeight candidates priority ≤ 2 ^ 64) :
    seedsSelecting request candidates context route block (groupWeight candidates priority) =
      total candidateWeight
        ((candidateGroup candidates priority).filter fun other => other.route = route) := by
  let weight := groupWeight candidates priority
  let owns : Nat → Prop := fun ticket =>
    ((pick evaluatedWeight (priorityGroup (evaluateCandidates candidates) priority)
      ticket).any fun evaluated => selectedRouteFromCandidate evaluated = route) = true
  have selects : ∀ seed ∈ Finset.Ico (block * weight) (block * weight + weight),
      ((selectRouteWithContext (request.withSeed seed) candidates context).selected =
        some route ↔ owns (seed % weight)) := by
    intro seed seedMem
    rw [Finset.mem_Ico] at seedMem
    have seedLt : seed < 2 ^ 64 := by
      rw [Nat.add_mul, Nat.one_mul] at blockFits
      exact seedMem.2.trans_le blockFits
    exact selected_withSeed_iff noAffinity best fits route seedLt
  have periodic : Function.Periodic (fun seed => owns (seed % weight)) weight := by
    intro seed
    simp
  calc
    seedsSelecting request candidates context route block weight
        = ((Finset.Ico (block * weight) (block * weight + weight)).filter fun seed =>
            owns (seed % weight)).card := by
          rw [seedsSelecting, Finset.filter_congr selects]
    _ = Nat.count (fun seed => owns (seed % weight)) weight :=
          Nat.filter_Ico_card_eq_of_periodic _ _ _ periodic
    _ = Nat.count owns weight := by
          rw [Nat.count_eq_card_filter_range, Nat.count_eq_card_filter_range]
          congr 1
          apply Finset.filter_congr
          intro seed seedMem
          rw [Nat.mod_eq_of_lt (Finset.mem_range.mp seedMem)]
    _ = _ := count_pick_route priority route

/-- Without trace affinity a route is selected exactly when some candidate is
selectable, it has the best priority, and every block of as many seeds as the
group weighs selects a member of the group with as many seeds as the member
weighs, once for each copy of it. -/
theorem selectRoute_proportional (request : RouteRequest) (candidates : List RouteCandidate)
    (context : RouteSelectionContext) (noAffinity : context.traceAffinity.enabled = false)
    (fits : ∀ priority, IsBestPriority candidates priority →
      groupWeight candidates priority < 2 ^ 64) :
    ((selectRouteWithContext request candidates context).selected.isSome ↔
        ∃ candidate ∈ candidates, candidate.selectable = true) ∧
      (∀ route, (selectRouteWithContext request candidates context).selected = some route →
        ∃ candidate ∈ candidates, candidate.selectable = true ∧
          IsBestPriority candidates candidate.priority ∧ candidate.route = route) ∧
      ∀ priority, IsBestPriority candidates priority →
        ∀ candidate ∈ candidateGroup candidates priority, ∀ block,
          (block + 1) * groupWeight candidates priority ≤ 2 ^ 64 →
            seedsSelecting request candidates context candidate.route block
                (groupWeight candidates priority) = (candidateGroup candidates priority).countP
                  (fun other => other.route = candidate.route) * candidate.weight.toNat := by
  rw [selected_of_noAffinity noAffinity]
  refine ⟨isSome_pickByPriorityThenWeight_iff fits _, fun route => exists_candidate_of_pick, ?_⟩
  intro priority best candidate _ block blockFits
  rw [seedsSelecting_eq noAffinity best (fits priority best) candidate.route blockFits,
    total_filter_route]

/-- A route of weight two and one of weight one, with the same priority. -/
def sampleCandidates : List RouteCandidate :=
  [⟨"a", "p", "m", 1, 2, .enabled, .healthy, true⟩, ⟨"b", "p", "m", 1, 1, .enabled, .healthy, true⟩]

def sampleRequest : RouteRequest :=
  ⟨"m", none, ⟨0⟩⟩

theorem isBestPriority_sampleCandidates : IsBestPriority sampleCandidates 1 :=
  bestPriority_eq_some_iff.mp (by decide +kernel)

theorem selectRoute_proportional_sampleCandidates :
    seedsSelecting sampleRequest sampleCandidates RouteSelectionContext.default
      ⟨"a", "p", "m", 1, 2⟩ 5 3 = 2 := by
  have weightEq : groupWeight sampleCandidates 1 = 3 := by decide +kernel
  have fits : ∀ priority, IsBestPriority sampleCandidates priority →
      groupWeight sampleCandidates priority < 2 ^ 64 := by
    intro priority best
    have priorityEq : priority = 1 := Option.some.inj
      ((bestPriority_eq_some_iff.mpr best).symm.trans
        (bestPriority_eq_some_iff.mpr isBestPriority_sampleCandidates))
    rw [priorityEq, weightEq]
    decide
  have proportional := (selectRoute_proportional sampleRequest sampleCandidates
    RouteSelectionContext.default rfl fits).2.2 1 isBestPriority_sampleCandidates
    ⟨"a", "p", "m", 1, 2, .enabled, .healthy, true⟩ (by decide +kernel) 5
    (by rw [weightEq]; decide)
  exact proportional.trans (by decide +kernel)

theorem pick_replicate_of_overflow {count : Nat} {candidate : RouteCandidate}
    (overflow : count * candidate.weight.toNat % 2 ^ 64 = 0) (seed : UInt64) :
    pickByPriorityThenWeight (evaluateCandidates (List.replicate count candidate)) seed = none := by
  have evaluatedEq : evaluateCandidates (List.replicate count candidate) =
      List.replicate count candidate.evaluated := by
    rw [evaluateCandidates, List.map_replicate, sortBy_replicate]
    rfl
  unfold pickByPriorityThenWeight
  rw [evaluatedEq]
  split
  · rfl
  · next priority best =>
    apply if_pos
    rw [← UInt64.toNat_inj, toNat_totalWeight, priorityGroup, List.filter_replicate]
    split
    · rw [total, List.map_replicate, List.sum_replicate, smul_eq_mul]
      exact overflow
    · rfl

/-- An available route with half the largest weight. -/
def heavyCandidate : RouteCandidate :=
  ⟨"a", "p", "m", 1, 2 ^ 31, .enabled, .healthy, true⟩

/-- So many heavy routes that their weights add up to `2 ^ 64`: the 64-bit sum
is zero, and none of them is selected. -/
theorem selectRoute_heavyCandidates : heavyCandidate ∈ List.replicate (2 ^ 33) heavyCandidate ∧
      heavyCandidate.selectable = true ∧
      (selectRoute sampleRequest (List.replicate (2 ^ 33) heavyCandidate)).selected = none := by
  have overflow : 2 ^ 33 * heavyCandidate.weight.toNat % 2 ^ 64 = 0 := by decide +kernel
  refine ⟨List.mem_replicate.mpr ⟨by decide, rfl⟩, by decide, ?_⟩
  rw [selectRoute, selected_of_noAffinity rfl]
  exact pick_replicate_of_overflow overflow _

end FuboxApi
