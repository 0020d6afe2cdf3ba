import FuboxApi.ProviderKeySql

/-!
# The plan and the SQL statements

The plan and the statements apply the same rule to a request, but the plan knows several places for
each counter and the statements only the first.
-/

namespace FuboxApi

open CheckedFold PerDimension

/-- Whether a dimension with a limit has room for the request, given its
counter. -/
def HasRoom (operation : ProviderKeyRateLimitReservationOperation) (limit : Int32) (used : Int)
    (required : Int64) : Prop :=
  0 < limit.toInt ∧ 0 ≤ used ∧ (operation = .acquire → used + required.toInt ≤ limit.toInt)

variable {operation : ProviderKeyRateLimitReservationOperation} {limit : Option Int32}
  {required : Int64} {value : Int}

section

theorem addBigint_eq_ok {left right sum : Int} :
    addBigint left right = .ok sum ↔ FitsBigint (left + right) ∧ left + right = sum := by
  unfold addBigint
  split
  · next fits => simp [fits]
  · next fitsNot => simp [fitsNot]

theorem eligibleDimension_eq_true_iff {used : Option Int} :
    eligibleDimension operation limit used required = .ok true ↔ ∀ bound, limit = some bound →
        ∃ value, used = some value ∧ HasRoom operation bound value required := by
  cases limit with
  | none => simp [eligibleDimension]
  | some bound =>
    cases used with
    | none => simp [eligibleDimension]
    | some value =>
      have boundLt := Int32.toInt_lt bound
      have requiredGe := Int64.le_toInt required
      simp only [eligibleDimension, HasRoom, Option.some.injEq, exists_eq_left', forall_eq']
      split
      · next positive =>
        cases operation with
        | release => simp [positive]
        | acquire =>
          simp only [map_eq_ok, addBigint_eq_ok, positive, true_and, true_implies,
            decide_eq_true_eq]
          constructor
          · rintro ⟨sum, ⟨_, rfl⟩, within⟩
            exact within
          · intro within
            exact ⟨_, ⟨⟨by omega, by omega⟩, rfl⟩, within⟩
      · next notPositive =>
        simp only [Except.ok.injEq, Bool.false_eq_true, false_iff]
        rintro ⟨boundPos, valueNonneg, _⟩
        exact notPositive ⟨boundPos, valueNonneg⟩

variable {row : ProviderKeyRow}

theorem readIfFits_eq_iff {Result : Type} {wrap : Int → Result} {otherwise : Result}
    (injective : Function.Injective wrap) (differs : ∀ value, otherwise ≠ wrap value) {number : Int}
    : (if FitsBigint number then wrap number else otherwise) = wrap value ↔
      number = value ∧ FitsBigint value := by
  split
  · next fits =>
    constructor
    · intro same
      obtain rfl := injective same
      exact ⟨rfl, fits⟩
    · rintro ⟨rfl, _⟩
      rfl
  · next fitsNot =>
    constructor
    · intro same
      exact absurd same (differs value)
    · rintro ⟨rfl, fits⟩
      exact absurd fits fitsNot

theorem castBigint_eq_ok {document : JsonDocument} :
    castBigint document = .ok value ↔ document = .integer value ∧ FitsBigint value := by
  cases document with
  | integer number =>
    rw [castBigint, JsonDocument.integer.injEq]
    exact readIfFits_eq_iff (fun _ _ => Except.ok.inj) (by simp)
  | _ => simp [castBigint]

/-- The counter that the statements find for a dimension. -/
def PrimaryCounter (row : ProviderKeyRow) (dimension : RateLimitDimension) (used : Int) : Prop :=
  row.currentWindowState.valueAt [windowField dimension, "used"] = some (.integer used) ∧
    FitsBigint used

theorem windowValue_eq_some_iff {dimension : RateLimitDimension} {used : Int} :
    windowValue row dimension = .ok (some used) ↔
      (row.limits.get dimension).isSome = true ∧ PrimaryCounter row dimension used := by
  unfold windowValue PrimaryCounter
  cases row.limits.get dimension with
  | none => simp
  | some limit =>
    cases row.currentWindowState.valueAt [windowField dimension, "used"] with
    | none => simp
    | some document =>
      cases document with
      | integer number => simp [JsonDocument.isNumber, map_eq_ok, castBigint_eq_ok]
      | _ => simp [JsonDocument.isNumber, map_eq_ok, castBigint_eq_ok]

theorem reservationSql_eq_updated_iff {binds : ReservationBinds} {updated : ProviderKeyRow} :
    reservationSql operation binds row = .ok (some updated) ↔
      scopedProviderKey operation binds row = true ∧
        requestEligible row.limits binds.required = true ∧ ∃ used : PerDimension (Option Int),
            (∀ dimension, windowValue row dimension = .ok (used.get dimension)) ∧
            (∀ dimension, eligibleDimension operation (row.limits.get dimension)
              (used.get dimension) (binds.required.get dimension) = .ok true) ∧ updated = { row with
              currentWindowState :=
                writeCounters operation used binds.required row.currentWindowState } := by
  unfold reservationSql
  split
  · next inScope =>
    simp only [inScope, true_and]
    constructor
    · intro computed
      obtain ⟨used, usedEq, computed⟩ := bind_eq_ok.mp computed
      obtain ⟨eligible, eligibleEq, returned⟩ := bind_eq_ok.mp computed
      rw [ofFnM_eq_ok] at usedEq eligibleEq
      have chosen := Except.ok.inj returned
      split at chosen
      · next accepted =>
        rw [Bool.and_eq_true, all_toList] at accepted
        refine ⟨accepted.1, used, usedEq, ?_, (Option.some.inj chosen).symm⟩
        intro dimension
        rw [eligibleEq dimension]
        exact congrArg Except.ok (accepted.2 dimension)
      · simp at chosen
    · rintro ⟨requestOk, used, usedEq, eligibleEq, rfl⟩
      have eligibleAll : ofFnM (fun dimension =>
          eligibleDimension operation (row.limits.get dimension) (used.get dimension)
            (binds.required.get dimension)) = .ok (.ofFn fun _ => true) := by
        rw [ofFnM_eq_ok]
        intro dimension
        rw [eligibleEq dimension, get_ofFn]
      rw [ofFnM_eq_ok.mpr usedEq]
      simp only [bind, Except.bind, eligibleAll, requestOk]
      rfl
  · next outOfScope => simp [outOfScope]

end

variable {used : Int}

section

variable {counter : CounterRead}

/-- An evaluation that does not stand in the way of a reservation. -/
def DimensionEvaluation.Ready (evaluation : DimensionEvaluation) : Prop :=
  evaluation.status = .unlimited ∨ evaluation.status = .windowReady

/-- Whether a dimension lets a request through, given its counter. -/
def Admits (operation : ProviderKeyRateLimitReservationOperation) (limit : Option Int32)
    (counter : CounterRead) (required : Int64) : Prop :=
  0 ≤ required ∧ ∀ bound, limit = some bound →
    ∃ used, counter = .value used ∧ HasRoom operation bound used required

theorem evaluateDimension_ready_iff : (evaluateDimension limit counter required operation).Ready ↔
      Admits operation limit counter required := by
  unfold evaluateDimension Admits DimensionEvaluation.Ready
  by_cases negative : required < 0
  · have notNonneg : ¬ 0 ≤ required := Int64.not_le.mpr negative
    simp [negative, notNonneg]
  · have nonneg : 0 ≤ required := Int64.not_lt.mp negative
    cases limit with
    | none => simp [negative, nonneg]
    | some bound =>
      by_cases nonpositive : bound ≤ 0
      · have notPositive : ¬ 0 < bound.toInt := by
          rw [Int32.le_iff_toInt_le, Int32.toInt_zero] at nonpositive
          omega
        simp [negative, nonpositive, HasRoom, notPositive]
      · have positive : 0 < bound.toInt := by
          rw [Int32.le_iff_toInt_le, Int32.toInt_zero] at nonpositive
          omega
        cases counter with
        | missing | invalid => simp [negative, nonpositive]
        | value used =>
          by_cases negativeUsed : used < 0
          · simp [negative, nonpositive, negativeUsed, HasRoom, Int.not_le.mpr negativeUsed]
          · have nonnegUsed : 0 ≤ used := Int.not_lt.mp negativeUsed
            have overLimit : saturatingAddU64 used.toNat (clampToU64 required) >
                bound.toInt.toNat ↔ ¬ used + required.toInt ≤ bound.toInt := by
              have boundLt := Int32.toInt_lt bound
              rw [Int64.le_iff_toInt_le, Int64.toInt_zero] at nonneg
              unfold saturatingAddU64 clampToU64
              omega
            simp only [if_neg negative, if_neg nonpositive, if_neg negativeUsed, overLimit]
            cases operation <;>
              simp [HasRoom, nonneg, positive, nonnegUsed, ite_eq_iff]

theorem evaluateDimension_unlimited :
    (evaluateDimension none counter required operation).used = none := by
  unfold evaluateDimension
  split <;> rfl

variable {bound : Int32}

theorem evaluateDimension_of_admits (admits : Admits operation (some bound) (.value used) required)
    : evaluateDimension (some bound) (.value used) required operation =
      ⟨.windowReady, some bound.toInt.toNat, some used.toNat, clampToU64 required, true⟩ := by
  have ready := evaluateDimension_ready_iff.mpr admits
  obtain ⟨nonneg, room⟩ := admits
  obtain ⟨_, usedEq, positive, nonnegUsed, _⟩ := room bound rfl
  obtain rfl := CounterRead.value.inj usedEq
  have notNegative : ¬ required < 0 := Int64.not_lt.mpr nonneg
  have notNonpositive : ¬ bound ≤ 0 := by
    rw [Int32.le_iff_toInt_le, Int32.toInt_zero]
    omega
  unfold evaluateDimension DimensionEvaluation.Ready at *
  simp only [if_neg notNegative, if_neg notNonpositive, if_neg (Int.not_lt.mpr nonnegUsed)]
    at ready ⊢
  split at ready
  · simp at ready
  · next notOver => rw [if_neg notOver]

theorem evaluateDimension_release_ne_overLimit :
    (evaluateDimension limit counter required .release).status ≠ .overLimit := by
  unfold evaluateDimension
  repeat' split
  all_goals simp

section

variable {reservationAcquired : Bool} {evaluations : PerDimension DimensionEvaluation}

theorem anyStatus_iff (status : ProviderKeyRateLimitDimensionStatus) :
    (evaluations.toList.any fun evaluation => decide (evaluation.status = status)) = true ↔
      ∃ dimension, (evaluations.get dimension).status = status := by
  simp only [any_toList, decide_eq_true_eq]

theorem ready_of_persistenceStatus (onlyAcquire : operation = .release →
      ∀ dimension, (evaluations.get dimension).status ≠ .overLimit)
    (ready : (persistenceStatus operation reservationAcquired evaluations).1 = .sqlReady) :
    (operation = .release → reservationAcquired = true) ∧
      ∀ dimension, (evaluations.get dimension).Ready := by
  dsimp only [persistenceStatus] at ready
  repeat' split at ready
  all_goals first | contradiction | skip
  next notNoop notRequired notLimit notMissing notInvalid notOver =>
    refine ⟨?_, ?_⟩
    · rintro rfl
      simpa using notNoop
    · intro dimension
      unfold DimensionEvaluation.Ready
      cases statusEq : (evaluations.get dimension).status with
      | unlimited => exact .inl rfl
      | windowReady => exact .inr rfl
      | invalidRequired => exact absurd ((anyStatus_iff _).mpr ⟨dimension, statusEq⟩) notRequired
      | invalidLimit => exact absurd ((anyStatus_iff _).mpr ⟨dimension, statusEq⟩) notLimit
      | missingWindow => exact absurd ((anyStatus_iff _).mpr ⟨dimension, statusEq⟩) notMissing
      | invalidWindow => exact absurd ((anyStatus_iff _).mpr ⟨dimension, statusEq⟩) notInvalid
      | overLimit =>
        have exceeded := (anyStatus_iff _).mpr ⟨dimension, statusEq⟩
        cases operation with
        | acquire => simp [exceeded] at notOver
        | release => exact absurd statusEq (onlyAcquire rfl dimension)

theorem persistenceStatus_of_ready (mayProceed : operation = .release → reservationAcquired = true)
    (ready : ∀ dimension, (evaluations.get dimension).Ready) :
    (persistenceStatus operation reservationAcquired evaluations).1 = .sqlReady := by
  have never : ∀ status, status ≠ .unlimited → status ≠ .windowReady →
      ¬ (evaluations.toList.any fun evaluation => decide (evaluation.status = status)) = true := by
    intro status notUnlimited notReady some
    obtain ⟨dimension, rfl⟩ := (anyStatus_iff status).mp some
    exact (ready dimension).elim notUnlimited notReady
  have notNoop : ¬ (decide (operation = .release) && !reservationAcquired) = true := by
    cases operation <;> simp [mayProceed]
  have notRequired := never .invalidRequired (by simp) (by simp)
  have notLimit := never .invalidLimit (by simp) (by simp)
  have notMissing := never .missingWindow (by simp) (by simp)
  have notInvalid := never .invalidWindow (by simp) (by simp)
  have notOver := Bool.eq_false_of_not_eq_true (never .overLimit (by simp) (by simp))
  simp only [persistenceStatus, if_neg notNoop, if_neg notRequired, if_neg notLimit,
    if_neg notMissing, if_neg notInvalid, notOver, Bool.and_false, Bool.false_eq_true, if_false]

theorem persistenceStatus_eq_ready_iff (onlyAcquire : operation = .release →
      ∀ dimension, (evaluations.get dimension).status ≠ .overLimit) :
    (persistenceStatus operation reservationAcquired evaluations).1 = .sqlReady ↔
      (operation = .release → reservationAcquired = true) ∧
        ∀ dimension, (evaluations.get dimension).Ready :=
  ⟨ready_of_persistenceStatus onlyAcquire, fun may => persistenceStatus_of_ready may.1 may.2⟩

end

theorem persistenceCounterUpdate_ne_none_iff (admits : Admits operation limit counter required) :
    persistenceCounterUpdate operation .sqlReady
        (evaluateDimension limit counter required operation) ≠ .none ↔
      limit.isSome = true ∧ 0 < required := by
  cases limit with
  | none => simp [persistenceCounterUpdate, evaluateDimension_unlimited]
  | some bound =>
    obtain ⟨used, rfl, _⟩ := admits.2 bound rfl
    have requiredPos : 0 < required ↔ clampToU64 required ≠ 0 := by
      rw [Int64.lt_iff_toInt_lt, Int64.toInt_zero, clampToU64]
      omega
    rw [evaluateDimension_of_admits admits, requiredPos]
    cases operation <;> simp [persistenceCounterUpdate]

theorem persistenceDimensionPlan_usedAfter
    (admits : Admits operation (some bound) (.value used) required) :
    (persistenceDimensionPlan operation .sqlReady
        (evaluateDimension (some bound) (.value used) required operation)).usedAfter =
      some (writtenCounter operation used required).toNat := by
  have nonneg := admits.1
  rw [Int64.le_iff_toInt_le, Int64.toInt_zero] at nonneg
  obtain ⟨_, usedEq, _, nonnegUsed, within⟩ := admits.2 bound rfl
  obtain rfl := CounterRead.value.inj usedEq
  have boundLt := Int32.toInt_lt bound
  rw [evaluateDimension_of_admits admits]
  by_cases zero : clampToU64 required = 0
  · have requiredZero : required.toInt = 0 := by
      unfold clampToU64 at zero
      omega
    cases operation <;>
      simp [persistenceDimensionPlan, persistenceCounterUpdate, zero, writtenCounter,
        requiredZero, nonnegUsed]
  · cases operation with
    | acquire =>
      have increments : persistenceCounterUpdate .acquire .sqlReady
          ⟨.windowReady, some bound.toInt.toNat, some used.toNat, clampToU64 required, true⟩ =
            .increment := by
        simp [persistenceCounterUpdate, zero]
      have sum := within rfl
      simp only [persistenceDimensionPlan, increments, writtenCounter, Option.map_some,
        Option.some.injEq]
      unfold saturatingAddU64 clampToU64
      omega
    | release =>
      have decrements : persistenceCounterUpdate .release .sqlReady
          ⟨.windowReady, some bound.toInt.toNat, some used.toNat, clampToU64 required, true⟩ =
            .decrement := by
        simp [persistenceCounterUpdate, zero]
      simp only [persistenceDimensionPlan, decrements, writtenCounter, Option.map_some,
        Option.some.injEq]
      unfold clampToU64
      omega

end

variable {dimension : RateLimitDimension}

section

variable {used : PerDimension (Option Int)} {required : PerDimension Int64}

theorem writtenCounter_nonneg {amount : Int64} (amountNonneg : 0 ≤ amount) (valueNonneg : 0 ≤ value)
    : 0 ≤ writtenCounter operation value amount := by
  rw [Int64.le_iff_toInt_le, Int64.toInt_zero] at amountNonneg
  cases operation <;> simp only [writtenCounter] <;> omega

theorem windowField_injective {left right : RateLimitDimension}
    (same : windowField left = windowField right) : left = right := by
  cases left <;> cases right <;> simp_all [windowField]

theorem valueAt_foldl_writeCounter {dimensions : List RateLimitDimension}
    (kept : dimension ∉ dimensions ∨ used.get dimension = none) (state : JsonDocument) :
    (dimensions.foldl (writeCounter operation used required) state).valueAt
        [windowField dimension, "used"] = state.valueAt [windowField dimension, "used"] := by
  induction dimensions generalizing state with
  | nil => rfl
  | cons head later ih =>
    have keptLater : dimension ∉ later ∨ used.get dimension = none :=
      kept.imp_left fun notMem => mt (List.mem_cons_of_mem head) notMem
    rw [List.foldl_cons, ih keptLater]
    unfold writeCounter
    split
    · next value usedEq =>
      apply JsonDocument.valueAt_setInner_ne
      intro same
      rcases kept with notMem | unused
      · exact notMem (windowField_injective same ▸ List.mem_cons_self)
      · rw [windowField_injective same, usedEq] at unused
        contradiction
    · rfl

theorem valueAt_writeCounters_none (usedEq : used.get dimension = none) (state : JsonDocument) :
    (writeCounters operation used required state).valueAt [windowField dimension, "used"] =
      state.valueAt [windowField dimension, "used"] :=
  valueAt_foldl_writeCounter (.inr usedEq) state

theorem valueAt_writeCounters_some (usedEq : used.get dimension = some value) {state : JsonDocument}
    (present : (state.valueAt [windowField dimension, "used"]).isSome = true) :
    (writeCounters operation used required state).valueAt [windowField dimension, "used"] =
      some (.integer (writtenCounter operation value (required.get dimension))) := by
  obtain ⟨before, after, allEq, notBefore, notAfter⟩ : ∃ before after,
      RateLimitDimension.all = before ++ dimension :: after ∧
        dimension ∉ before ∧ dimension ∉ after := by
    cases dimension
    · exact ⟨[], _, rfl, by decide, by decide⟩
    · exact ⟨[_], _, rfl, by decide, by decide⟩
    · exact ⟨[_, _], _, rfl, by decide, by decide⟩
  rw [writeCounters, allEq, List.foldl_append, List.foldl_cons,
    valueAt_foldl_writeCounter (.inl notAfter), writeCounter, usedEq]
  apply JsonDocument.valueAt_setInner_self
  rw [valueAt_foldl_writeCounter (.inl notBefore)]
  exact present

end

section

variable {state : JsonDocument} {document : JsonDocument}

theorem parseCounterValue_eq_value_iff :
    parseCounterValue document = .value used ↔ document = .integer used ∧ FitsBigint used := by
  cases document with
  | integer number =>
    rw [parseCounterValue, JsonDocument.integer.injEq]
    exact readIfFits_eq_iff (fun _ _ => CounterRead.value.inj) (by simp)
  | _ => simp [parseCounterValue]

theorem readWindowCounter_of_primary
    (primary : state.valueAt [windowField dimension, "used"] = some document) :
    readWindowCounter state (counterPaths dimension) = parseCounterValue document := by
  cases dimension <;>
    simp only [readWindowCounter, counterPaths, List.findSome?_cons, windowField] at primary ⊢ <;>
    rw [primary]

end

section

variable {input : ProviderKeyRateLimitReservationPersistenceInput}

/-- Whether the common rule lets a request through, given the counters that the
plan reads. -/
def Admissible (input : ProviderKeyRateLimitReservationPersistenceInput) : Prop :=
  (input.operation = .release → input.reservationAcquired = true) ∧
    (∀ dimension, Admits input.operation (input.limits.get dimension)
      (readWindowCounter input.currentWindowState (counterPaths dimension))
      (input.required.get dimension)) ∧
    ∃ dimension, (input.limits.get dimension).isSome = true ∧ 0 < input.required.get dimension

theorem persistenceStatus_ready_iff_admits :
    (persistenceStatus input.operation input.reservationAcquired
        (persistenceEvaluations input)).1 = .sqlReady ↔
      (input.operation = .release → input.reservationAcquired = true) ∧
        ∀ dimension, Admits input.operation (input.limits.get dimension)
          (readWindowCounter input.currentWindowState (counterPaths dimension))
          (input.required.get dimension) := by
  rw [persistenceStatus_eq_ready_iff]
  · simp only [persistenceEvaluations, get_ofFn, evaluateDimension_ready_iff]
  · intro released dimension
    rw [persistenceEvaluations, get_ofFn, released]
    exact evaluateDimension_release_ne_overLimit

theorem plan_status_eq_ready_iff :
    (buildProviderKeyRateLimitReservationPersistencePlan input).status = .sqlReady ↔
      (persistenceStatus input.operation input.reservationAcquired
          (persistenceEvaluations input)).1 = .sqlReady ∧
        ∃ dimension, persistenceCounterUpdate input.operation .sqlReady
          ((persistenceEvaluations input).get dimension) ≠ .none := by
  have idleIff : ((ofFn fun dimension =>
      persistenceDimensionPlan input.operation .sqlReady
        ((persistenceEvaluations input).get dimension)).toList.filter fun plan =>
          plan.counterUpdate ≠ .none).length = 0 ↔
      ∀ dimension, persistenceCounterUpdate input.operation .sqlReady
        ((persistenceEvaluations input).get dimension) = .none := by
    rw [List.length_eq_zero_iff, List.filter_eq_nil_iff, forall_mem_toList]
    simp [persistenceDimensionPlan]
  dsimp only [buildProviderKeyRateLimitReservationPersistencePlan]
  by_cases ready : (persistenceStatus input.operation input.reservationAcquired
      (persistenceEvaluations input)).1 = .sqlReady
  · rw [ready, ← not_forall_not]
    by_cases idle : ∀ dimension, persistenceCounterUpdate input.operation .sqlReady
        ((persistenceEvaluations input).get dimension) = .none
    · rw [if_pos ⟨rfl, idleIff.mpr idle⟩]
      simp [idle]
    · rw [if_neg fun both => idle (idleIff.mp both.2)]
      simpa using idle
  · simp [ready]

theorem plan_ready_iff_admissible :
    (buildProviderKeyRateLimitReservationPersistencePlan input).status = .sqlReady ↔
      Admissible input := by
  rw [plan_status_eq_ready_iff, persistenceStatus_ready_iff_admits, and_assoc, Admissible]
  refine and_congr_right fun _ => and_congr_right fun admits => exists_congr fun dimension => ?_
  rw [persistenceEvaluations, get_ofFn]
  exact persistenceCounterUpdate_ne_none_iff (admits dimension)

/-- The row that a plan is computed from. -/
def rowOf (input : ProviderKeyRateLimitReservationPersistenceInput) (status : ProviderKeyStatus) :
    ProviderKeyRow where
  tenantId := input.tenantId
  id := input.providerKeyId
  channelId := input.channelId
  status
  deletedAt := none
  limits := input.limits
  currentWindowState := input.currentWindowState

def bindsOf (input : ProviderKeyRateLimitReservationPersistenceInput) : ReservationBinds where
  tenantId := input.tenantId
  providerKeyId := input.providerKeyId
  channelId := input.channelId
  required := input.required
  reservationAcquired := input.reservationAcquired

/-- Every counter of a limited dimension stands where the statements read it. -/
def CountersAtPrimaryPaths (input : ProviderKeyRateLimitReservationPersistenceInput) : Prop :=
  ∀ dimension, (input.limits.get dimension).isSome = true →
    (input.currentWindowState.valueAt [windowField dimension, "used"]).isSome = true

variable {status : ProviderKeyStatus}

theorem statement_dimension_iff (nonneg : 0 ≤ input.required.get dimension) :
    (∃ used, windowValue (rowOf input status) dimension = .ok used ∧
        eligibleDimension input.operation (input.limits.get dimension) used
          (input.required.get dimension) = .ok true) ↔
      Admits input.operation (input.limits.get dimension)
          (readWindowCounter input.currentWindowState (counterPaths dimension))
          (input.required.get dimension) ∧ ((input.limits.get dimension).isSome = true →
          (input.currentWindowState.valueAt [windowField dimension, "used"]).isSome = true) := by
  constructor
  · rintro ⟨used, usedEq, eligible⟩
    rw [eligibleDimension_eq_true_iff] at eligible
    refine ⟨⟨nonneg, ?_⟩, ?_⟩
    · intro bound boundEq
      obtain ⟨value, rfl, room⟩ := eligible bound boundEq
      obtain ⟨_, primary, fits⟩ := windowValue_eq_some_iff.mp usedEq
      refine ⟨value, ?_, room⟩
      exact (readWindowCounter_of_primary primary).trans
        (parseCounterValue_eq_value_iff.mpr ⟨rfl, fits⟩)
    · intro limited
      obtain ⟨bound, boundEq⟩ := Option.isSome_iff_exists.mp limited
      obtain ⟨value, rfl, _⟩ := eligible bound boundEq
      obtain ⟨_, primary, _⟩ := windowValue_eq_some_iff.mp usedEq
      exact Option.isSome_of_eq_some primary
  · rintro ⟨admits, primary⟩
    cases limitEq : input.limits.get dimension with
    | none =>
      refine ⟨none, ?_, rfl⟩
      simp [windowValue, rowOf, limitEq]
    | some bound =>
      obtain ⟨value, counterEq, room⟩ := admits.2 bound limitEq
      have limited : (input.limits.get dimension).isSome = true := by simp [limitEq]
      obtain ⟨document, documentEq⟩ := Option.isSome_iff_exists.mp (primary limited)
      rw [readWindowCounter_of_primary documentEq, parseCounterValue_eq_value_iff] at counterEq
      obtain ⟨rfl, fits⟩ := counterEq
      refine ⟨some value, ?_, ?_⟩
      · exact windowValue_eq_some_iff.mpr ⟨limited, documentEq, fits⟩
      · rw [eligibleDimension_eq_true_iff]
        rintro _ ⟨⟩
        exact ⟨value, rfl, room⟩

theorem requestEligible_iff {limits : PerDimension (Option Int32)} {required : PerDimension Int64} :
    requestEligible limits required = true ↔ (∀ dimension, 0 ≤ required.get dimension) ∧
      ∃ dimension, (limits.get dimension).isSome = true ∧ 0 < required.get dimension := by
  have anyLimited : (RateLimitDimension.all.any fun dimension =>
      (limits.get dimension).isSome && decide (0 < required.get dimension)) = true ↔
        ∃ dimension, (limits.get dimension).isSome = true ∧ 0 < required.get dimension := by
    simp only [List.any_eq_true, Bool.and_eq_true, decide_eq_true_eq]
    refine exists_congr fun dimension => and_iff_right ?_
    cases dimension <;> simp [RateLimitDimension.all]
  rw [requestEligible, Bool.and_eq_true, anyLimited, all_toList]
  simp

theorem scopedProviderKey_rowOf_iff (active : status ≠ .manualDisabled ∧ status ≠ .deleted) :
    scopedProviderKey input.operation (bindsOf input) (rowOf input status) = true ↔
      (input.operation = .release → input.reservationAcquired = true) := by
  cases operationEq : input.operation <;>
    simp [scopedProviderKey, bindsOf, rowOf, active]

theorem statement_updates_iff (active : status ≠ .manualDisabled ∧ status ≠ .deleted) :
    (∃ updated, reservationSql input.operation (bindsOf input) (rowOf input status) =
        .ok (some updated)) ↔ Admissible input ∧ CountersAtPrimaryPaths input := by
  simp only [reservationSql_eq_updated_iff, scopedProviderKey_rowOf_iff active]
  constructor
  · rintro ⟨_, mayProceed, requestOk, used, usedEq, eligible, _⟩
    obtain ⟨nonneg, someLimited⟩ := requestEligible_iff.mp requestOk
    have both := fun dimension =>
      (statement_dimension_iff (nonneg dimension)).mp
        ⟨used.get dimension, usedEq dimension, eligible dimension⟩
    exact ⟨⟨mayProceed, fun dimension => (both dimension).1, someLimited⟩,
      fun dimension => (both dimension).2⟩
  · rintro ⟨⟨mayProceed, admits, someLimited⟩, primary⟩
    have both : ∀ dimension, ∃ used, windowValue (rowOf input status) dimension = .ok used ∧
        eligibleDimension input.operation (input.limits.get dimension) used
          (input.required.get dimension) = .ok true := fun dimension =>
      (statement_dimension_iff (admits dimension).1).mpr ⟨admits dimension, primary dimension⟩
    choose used usedEq eligible using both
    refine ⟨_, mayProceed, requestEligible_iff.mpr ⟨fun dimension => (admits dimension).1,
      someLimited⟩, .ofFn used, ?_, ?_, rfl⟩
    · intro dimension
      rw [get_ofFn, usedEq]
    · intro dimension
      rw [get_ofFn]
      exact eligible dimension

theorem plan_dimensions_of_ready
    (ready : (buildProviderKeyRateLimitReservationPersistencePlan input).status = .sqlReady)
    (dimension : RateLimitDimension) :
    (buildProviderKeyRateLimitReservationPersistencePlan input).dimensions.get dimension =
      persistenceDimensionPlan input.operation .sqlReady
        (evaluateDimension (input.limits.get dimension)
          (readWindowCounter input.currentWindowState (counterPaths dimension))
          (input.required.get dimension) input.operation) := by
  have dimensionsEq : (buildProviderKeyRateLimitReservationPersistencePlan input).dimensions =
      .ofFn fun dimension => persistenceDimensionPlan input.operation
        (buildProviderKeyRateLimitReservationPersistencePlan input).status
        ((persistenceEvaluations input).get dimension) := rfl
  rw [dimensionsEq, ready, get_ofFn, persistenceEvaluations, get_ofFn]

/-- What a plan and a row say about one counter after a reservation. -/
def WrittenAsPredicted (input : ProviderKeyRateLimitReservationPersistenceInput)
    (updated : ProviderKeyRow) (dimension : RateLimitDimension) : Prop :=
  let usedAfter :=
    ((buildProviderKeyRateLimitReservationPersistencePlan input).dimensions.get dimension).usedAfter
  usedAfter.isSome = (input.limits.get dimension).isSome ∧
    updated.currentWindowState.valueAt [windowField dimension, "used"] =
      (usedAfter.map fun used : Nat => JsonDocument.integer used).or
        (input.currentWindowState.valueAt [windowField dimension, "used"])

theorem writtenAsPredicted_of_updated {updated : ProviderKeyRow}
    (active : status ≠ .manualDisabled ∧ status ≠ .deleted)
    (updates : reservationSql input.operation (bindsOf input) (rowOf input status) =
      .ok (some updated)) (dimension : RateLimitDimension) :
    WrittenAsPredicted input updated dimension := by
  obtain ⟨admissible, primary⟩ := (statement_updates_iff active).mp ⟨updated, updates⟩
  obtain ⟨_, _, used, usedEq, eligible, rfl⟩ := reservationSql_eq_updated_iff.mp updates
  have admits := admissible.2.1 dimension
  unfold WrittenAsPredicted
  rw [plan_dimensions_of_ready (plan_ready_iff_admissible.mpr admissible)]
  cases limitEq : input.limits.get dimension with
  | none =>
    have unused : used.get dimension = none := by
      have windowEq := usedEq dimension
      simpa [windowValue, rowOf, limitEq] using windowEq.symm
    simp [persistenceDimensionPlan, evaluateDimension_unlimited,
      valueAt_writeCounters_none unused, rowOf]
  | some bound =>
    have limited : (input.limits.get dimension).isSome = true := by simp [limitEq]
    obtain ⟨value, valueEq, room⟩ :=
      eligibleDimension_eq_true_iff.mp (eligible dimension) bound limitEq
    have windowEq := usedEq dimension
    rw [valueEq] at windowEq
    obtain ⟨_, primaryEq, fits⟩ := windowValue_eq_some_iff.mp windowEq
    have counterEq : readWindowCounter input.currentWindowState (counterPaths dimension) =
        .value value :=
      (readWindowCounter_of_primary primaryEq).trans
        (parseCounterValue_eq_value_iff.mpr ⟨rfl, fits⟩)
    rw [counterEq, limitEq] at admits
    rw [counterEq, persistenceDimensionPlan_usedAfter admits]
    refine ⟨rfl, ?_⟩
    rw [Option.map_some, Option.some_or,
      Int.toNat_of_nonneg (writtenCounter_nonneg admits.1 room.2.1)]
    exact valueAt_writeCounters_some valueEq (primary dimension limited)

/-- The plan is ready exactly when the statement updates the row, and then the
counters in the row are the predicted ones. -/
def PlanAgreesWithStatement (input : ProviderKeyRateLimitReservationPersistenceInput)
    (status : ProviderKeyStatus) : Prop :=
  ((buildProviderKeyRateLimitReservationPersistencePlan input).status = .sqlReady ↔
      ∃ updated, reservationSql input.operation (bindsOf input) (rowOf input status) =
        .ok (some updated)) ∧
    ∀ updated, reservationSql input.operation (bindsOf input) (rowOf input status) =
      .ok (some updated) → ∀ dimension, WrittenAsPredicted input updated dimension

/-- A plan and its statement agree, unless an admissible request has a counter
that only the plan finds. -/
theorem planAgreesWithStatement_iff (input : ProviderKeyRateLimitReservationPersistenceInput)
    (status : ProviderKeyStatus) (active : status ≠ .manualDisabled ∧ status ≠ .deleted) :
    PlanAgreesWithStatement input status ↔ (Admissible input → CountersAtPrimaryPaths input) := by
  unfold PlanAgreesWithStatement
  rw [plan_ready_iff_admissible, statement_updates_iff active]
  constructor
  · rintro ⟨sameDecision, _⟩ admissible
    exact (sameDecision.mp admissible).2
  · intro primary
    refine ⟨⟨fun admissible => ⟨admissible, primary admissible⟩, And.left⟩, ?_⟩
    intro updated updates dimension
    exact writtenAsPredicted_of_updated active updates dimension

end

/-- A request that counts against ten requests a minute. -/
def sampleReservation (window : JsonDocument) :
    ProviderKeyRateLimitReservationPersistenceInput where
  tenantId := .nil
  providerKeyId := .nil
  channelId := .nil
  operation := .acquire
  reservationAcquired := false
  limits := ⟨some 10, none, none⟩
  currentWindowState := window
  required := ⟨1, 0, 0⟩

theorem planAgreesWithStatement_sampleReservation : PlanAgreesWithStatement
      (sampleReservation (.object [("rpm", .object [("used", .integer 3)])])) .enabled := by
  apply (planAgreesWithStatement_iff _ .enabled (by decide)).mpr
  intro _ dimension limited
  cases dimension with
  | requestsPerMinute => rfl
  | _ => exact absurd limited (by decide)

/-- The plan finds the counter under another name and predicts four; the
statement finds none and leaves the row. -/
theorem aliasedCounter_refused_by_statement : (buildProviderKeyRateLimitReservationPersistencePlan
        (sampleReservation (.object [("rpm_used", .integer 3)]))).status = .sqlReady ∧
      ((buildProviderKeyRateLimitReservationPersistencePlan
        (sampleReservation (.object [("rpm_used", .integer 3)]))).dimensions.get
          .requestsPerMinute).usedAfter = some 4 ∧
      reservationSql .acquire (bindsOf (sampleReservation (.object [("rpm_used", .integer 3)])))
        (rowOf (sampleReservation (.object [("rpm_used", .integer 3)])) .enabled) = .ok none := by
  refine ⟨by decide, by decide, rfl⟩

end FuboxApi
