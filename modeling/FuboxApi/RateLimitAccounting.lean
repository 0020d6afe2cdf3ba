import FuboxApi.RateLimitPlanner
import FuboxApi.TransitionRuns

/-!
# Accounting of rate-limit reservations

A negative counter is read as zero. In a dimension with a limit the counters always count the
initial use and the outstanding reservations; a dimension without a limit is not counted.
-/

namespace FuboxApi

open TransitionRuns

/-- The use that the planner reads off a window. -/
def RateLimitCounterWindow.counted (window : RateLimitCounterWindow) : Nat :=
  clampToU64 (window.used.getD 0)

theorem clampToU64_lt (value : Int64) : clampToU64 value < 2 ^ 63 := by
  have valueLt := Int64.toInt_lt value
  unfold clampToU64
  omega

theorem clampToU64_ofNat {number : Nat} (fits : number < 2 ^ 63) :
    clampToU64 (Int64.ofNat number) = number := by
  unfold clampToU64
  rw [Int64.toInt_ofNat_of_lt fits, Int.toNat_natCast]

/-- Whether an amount can be reserved in a window. -/
def RateLimitCounterWindow.Accepts (window : RateLimitCounterWindow) (required : Int64) : Prop :=
  0 ≤ required ∧ ∀ limit, window.limit = some limit →
    0 ≤ limit ∧ window.used.isSome ∧ window.counted + clampToU64 required ≤ clampToU64 limit

theorem selectable_iff_accepts {dimension : RateLimitDimension} {window : RateLimitCounterWindow}
    {required : Int64} :
    (evaluateRateLimitDimension dimension (reservationWindow window required)).selectable = true ↔
      window.Accepts required := by
  obtain ⟨limit, used⟩ := window
  unfold evaluateRateLimitDimension RateLimitCounterWindow.Accepts RateLimitCounterWindow.counted
    reservationWindow
  by_cases negative : required < 0
  · have notNonneg : ¬ 0 ≤ required := Int64.not_le.mpr negative
    simp [negative, notNonneg]
  · have nonneg : 0 ≤ required := Int64.not_lt.mp negative
    cases limit with
    | none => simp [negative, nonneg]
    | some limit =>
      by_cases negativeLimit : limit < 0
      · have notNonneg : ¬ 0 ≤ limit := Int64.not_le.mpr negativeLimit
        simp [negative, negativeLimit, notNonneg]
      · have nonnegLimit : 0 ≤ limit := Int64.not_lt.mp negativeLimit
        cases used with
        | none => simp [negative, negativeLimit, nonneg]
        | some used =>
          simp [negative, negativeLimit, nonneg, nonnegLimit]
          omega

theorem availability_selectable_iff {input : RateLimitReservationInput} :
    (evaluateRateLimitAvailability (reservationAvailabilityInput input)).selectable = true ↔
      ∀ dimension, (input.windows.get dimension).Accepts (input.required.get dimension) := by
  have noneBlocking : ∀ summaries : List RateLimitDimensionSummary,
      ((summaries.filter fun summary => !summary.selectable).map (·.dimension)).isEmpty = true ↔
        summaries.all (·.selectable) = true := by
    intro summaries
    simp
  simp only [evaluateRateLimitAvailability, noneBlocking, PerDimension.all_toList,
    PerDimension.get_ofFn, reservationAvailabilityInput, selectable_iff_accepts]

variable {windows : PerDimension RateLimitCounterWindow} {required : RateLimitRequiredCapacity}

section

def acquirePlan (windows : PerDimension RateLimitCounterWindow)
    (required : RateLimitRequiredCapacity) : RateLimitReservationPlan :=
  planRateLimitReservation ⟨windows, required, .acquire, false⟩

def releasePlan (windows : PerDimension RateLimitCounterWindow)
    (required : RateLimitRequiredCapacity) : RateLimitReservationPlan :=
  planRateLimitReservation ⟨windows, required, .release, true⟩

theorem acquirePlan_status : (acquirePlan windows required).status =
      if (evaluateRateLimitAvailability
          (reservationAvailabilityInput ⟨windows, required, .acquire, false⟩)).selectable then
        .acquired else .rejected :=
  rfl

theorem acquirePlan_status_of_accepts
    (accepts : ∀ dimension, (windows.get dimension).Accepts (required.get dimension)) :
    (acquirePlan windows required).status = .acquired := by
  rw [acquirePlan_status, if_pos]
  exact availability_selectable_iff.mpr accepts

theorem acquirePlan_status_of_not_accepts
    (refuses : ¬ ∀ dimension, (windows.get dimension).Accepts (required.get dimension)) :
    (acquirePlan windows required).status = .rejected := by
  rw [acquirePlan_status, if_neg]
  exact mt availability_selectable_iff.mp refuses

end

section

variable (dimension : RateLimitDimension) (window : RateLimitCounterWindow) (required : Int64)

def dimensionSummary : RateLimitDimensionSummary :=
  evaluateRateLimitDimension dimension (reservationWindow window required)

@[simp]
theorem dimensionSummary_required :
    (dimensionSummary dimension window required).required = clampToU64 required := by
  unfold dimensionSummary evaluateRateLimitDimension reservationWindow
  split
  · rfl
  · repeat' split
    all_goals rfl

@[simp]
theorem dimensionSummary_used :
    (dimensionSummary dimension window required).used = window.counted := by
  unfold dimensionSummary evaluateRateLimitDimension reservationWindow
    RateLimitCounterWindow.counted
  split
  · rfl
  · repeat' split
    all_goals simp_all [clampToU64]

@[simp]
theorem dimensionSummary_windowPresent :
    (dimensionSummary dimension window required).windowPresent = window.used.isSome := by
  unfold dimensionSummary evaluateRateLimitDimension reservationWindow
  split
  · rfl
  · repeat' split
    all_goals simp_all

theorem dimensionSummary_limit_of_none (unlimited : window.limit = none) :
    (dimensionSummary dimension window required).limit = none := by
  simp only [dimensionSummary, evaluateRateLimitDimension, reservationWindow, unlimited]
  split <;> rfl

theorem dimensionSummary_limit_of_some {limit : Int64} (limited : window.limit = some limit)
    (nonneg : 0 ≤ required) (nonnegLimit : 0 ≤ limit) :
    (dimensionSummary dimension window required).limit = some (clampToU64 limit) := by
  have notNegative : ¬ required < 0 := Int64.not_lt.mpr nonneg
  have notNegativeLimit : ¬ limit < 0 := Int64.not_lt.mpr nonnegLimit
  simp only [dimensionSummary, evaluateRateLimitDimension, reservationWindow, limited,
    if_neg notNegative, if_neg notNegativeLimit]
  split <;> rfl

end

variable {dimension : RateLimitDimension}

section

/-- The window that a dimension plan leaves behind. -/
def threadedWindow (window : RateLimitCounterWindow) (plan : RateLimitReservationDimensionPlan) :
    RateLimitCounterWindow :=
  if plan.counterUpdate = .none then window
  else { window with used := some (Int64.ofNat plan.usedAfter) }

/-- The windows that a plan leaves behind. -/
def threadedWindows (windows : PerDimension RateLimitCounterWindow)
    (plan : RateLimitReservationPlan) : PerDimension RateLimitCounterWindow :=
  .ofFn fun dimension => threadedWindow (windows.get dimension) (plan.dimensions.get dimension)

variable {window : RateLimitCounterWindow} {required : Int64}
  {operation : RateLimitReservationOperation} {status : RateLimitReservationStatus}

theorem threadedWindow_eq : threadedWindow window (reservationDimensionPlan operation status
        (dimensionSummary dimension window required)) =
      match counterUpdateForDimension operation status
          (dimensionSummary dimension window required) with
      | .none => window
      | .increment => { window with used := some (Int64.ofNat
          (saturatingAddU64 window.counted (clampToU64 required))) }
      | .decrement => { window with used := some (Int64.ofNat
          (window.counted - clampToU64 required)) } := by
  unfold threadedWindow reservationDimensionPlan
  cases counterUpdateForDimension operation status
    (dimensionSummary dimension window required) <;> simp

theorem threadedWindow_of_unlimited (unlimited : window.limit = none) :
    threadedWindow window (reservationDimensionPlan operation status
      (dimensionSummary dimension window required)) = window := by
  rw [threadedWindow_eq]
  simp [counterUpdateForDimension, dimensionSummary_limit_of_none _ _ _ unlimited]

theorem threadedWindow_of_rejected :
    threadedWindow window (reservationDimensionPlan operation .rejected
      (dimensionSummary dimension window required)) = window := by
  rw [threadedWindow_eq]
  cases operation <;> simp [counterUpdateForDimension]

theorem threadedWindow_of_zero (zero : clampToU64 required = 0) :
    threadedWindow window (reservationDimensionPlan operation status
      (dimensionSummary dimension window required)) = window := by
  rw [threadedWindow_eq]
  simp [counterUpdateForDimension, zero]

variable {limit : Int64}

theorem threadedWindow_acquired (limited : window.limit = some limit)
    (accepts : window.Accepts required) (positive : clampToU64 required ≠ 0) :
    threadedWindow window (reservationDimensionPlan .acquire .acquired
        (dimensionSummary dimension window required)) =
      { window with used := some (Int64.ofNat (window.counted + clampToU64 required)) } := by
  obtain ⟨nonneg, room⟩ := accepts
  obtain ⟨nonnegLimit, present, fits⟩ := room limit limited
  have limitEq := dimensionSummary_limit_of_some dimension window required limited nonneg
    nonnegLimit
  have limitLt := clampToU64_lt limit
  have sumEq : saturatingAddU64 window.counted (clampToU64 required) =
      window.counted + clampToU64 required := by
    unfold saturatingAddU64
    omega
  rw [threadedWindow_eq]
  simp [counterUpdateForDimension, limitEq, present, positive, sumEq]

theorem threadedWindow_released (limited : window.limit = some limit) (nonneg : 0 ≤ required)
    (nonnegLimit : 0 ≤ limit) (present : window.used.isSome = true)
    (positive : clampToU64 required ≠ 0) :
    threadedWindow window (reservationDimensionPlan .release .released
        (dimensionSummary dimension window required)) =
      { window with used := some (Int64.ofNat (window.counted - clampToU64 required)) } := by
  have limitEq := dimensionSummary_limit_of_some dimension window required limited nonneg
    nonnegLimit
  rw [threadedWindow_eq]
  simp [counterUpdateForDimension, limitEq, present, positive]

end

section

theorem threadedWindows_acquirePlan (dimension : RateLimitDimension) :
    (threadedWindows windows (acquirePlan windows required)).get dimension =
      threadedWindow (windows.get dimension)
        (reservationDimensionPlan .acquire (acquirePlan windows required).status
          (dimensionSummary dimension (windows.get dimension) (required.get dimension))) := by
  cases dimension <;> rfl

theorem threadedWindows_releasePlan (dimension : RateLimitDimension) :
    (threadedWindows windows (releasePlan windows required)).get dimension =
      threadedWindow (windows.get dimension)
        (reservationDimensionPlan .release (releasePlan windows required).status
          (dimensionSummary dimension (windows.get dimension) (required.get dimension))) := by
  cases dimension <;> rfl

theorem threadedWindows_of_rejected (rejected : (acquirePlan windows required).status = .rejected) :
    threadedWindows windows (acquirePlan windows required) = windows := by
  apply PerDimension.ext_get
  intro dimension
  rw [threadedWindows_acquirePlan, rejected, threadedWindow_of_rejected]

theorem dimensionSummary_status_ne_invalidRequired (dimension : RateLimitDimension)
    (window : RateLimitCounterWindow) {amount : Int64} (nonneg : 0 ≤ amount) :
    (dimensionSummary dimension window amount).status ≠ .invalidRequired := by
  unfold dimensionSummary evaluateRateLimitDimension reservationWindow
  split
  · next negative => exact absurd nonneg (Int64.not_le.mpr negative)
  · repeat' split
    all_goals simp [ite_eq_iff]

theorem releasePlan_status (nonneg : ∀ dimension, 0 ≤ required.get dimension) :
    (releasePlan windows required).status = .released := by
  let availability := evaluateRateLimitAvailability
    (reservationAvailabilityInput ⟨windows, required, .release, true⟩)
  have noneInvalid : (availability.dimensions.toList.any fun summary =>
      decide (summary.status = .invalidRequired)) = false := by
    rw [← Bool.not_eq_true, PerDimension.any_toList]
    rintro ⟨dimension, invalid⟩
    apply dimensionSummary_status_ne_invalidRequired dimension (windows.get dimension)
      (nonneg dimension)
    simpa [availability, evaluateRateLimitAvailability, reservationAvailabilityInput,
      dimensionSummary] using invalid
  simp [releasePlan, planRateLimitReservation, reservationStatus, availability, noneInvalid]

end

/-- How a window follows its start while some amount is reserved in it. -/
structure WindowFollows (start current : RateLimitCounterWindow) (reserved : Nat) : Prop where
  limit : current.limit = start.limit
  unlimited : start.limit = none → current = start
  counted : start.limit ≠ none → current.counted = start.counted + reserved
  present : current.used.isSome = start.used.isSome
  nonneg : (∀ used, start.used = some used → 0 ≤ used) → ∀ used, current.used = some used → 0 ≤ used
  within : ∀ limit, start.limit = some limit → start.counted ≤ clampToU64 limit →
    current.counted ≤ clampToU64 limit

namespace WindowFollows

variable {start current : RateLimitCounterWindow} {reserved : Nat} {required : Int64}

theorem refl (window : RateLimitCounterWindow) : WindowFollows window window 0 where
  limit := rfl
  unlimited _ := rfl
  counted _ := rfl
  present := rfl
  nonneg initially := initially
  within _ _ initially := initially

section

variable (follows : WindowFollows start current reserved)

include follows

theorem store {limit : Int64} (limited : start.limit = some limit)
    (present : current.used.isSome = true) {number later : Nat}
    (numberEq : number = start.counted + later) (fits : number < 2 ^ 63)
    (within : start.counted ≤ clampToU64 limit → number ≤ clampToU64 limit) :
    WindowFollows start { current with used := some (Int64.ofNat number) } later where
  limit := follows.limit
  unlimited unlimited := by simp [limited] at unlimited
  counted _ := (clampToU64_ofNat fits).trans numberEq
  present := present.symm.trans follows.present
  nonneg _ used usedEq := by
    rw [← Option.some.inj usedEq, Int64.le_iff_toInt_le, Int64.toInt_ofNat_of_lt fits]
    exact Int.natCast_nonneg number
  within other otherLimited initially := by
    obtain rfl : limit = other := Option.some.inj (limited.symm.trans otherLimited)
    exact (clampToU64_ofNat fits).trans_le (within initially)

/-- What is not limited, or not asked for, leaves the window as it is. -/
theorem threaded {operation : RateLimitReservationOperation} {status : RateLimitReservationStatus}
    {later : Nat} (nothing : clampToU64 required = 0 → later = reserved)
    (limited : ∀ limit, start.limit = some limit → current.limit = some limit →
      clampToU64 required ≠ 0 → WindowFollows start (threadedWindow current
        (reservationDimensionPlan operation status (dimensionSummary dimension current required)))
        later) :
    WindowFollows start (threadedWindow current (reservationDimensionPlan operation status
      (dimensionSummary dimension current required))) later := by
  by_cases zero : clampToU64 required = 0
  · rw [threadedWindow_of_zero zero, nothing zero]
    exact follows
  · cases startLimit : start.limit with
    | none =>
      rw [threadedWindow_of_unlimited (follows.limit.trans startLimit)]
      exact { follows with counted := fun limitNe => absurd startLimit limitNe }
    | some limit => exact limited limit startLimit (follows.limit.trans startLimit) zero

theorem acquire (accepts : current.Accepts required) :
    WindowFollows start (threadedWindow current (reservationDimensionPlan .acquire .acquired
      (dimensionSummary dimension current required))) (reserved + clampToU64 required) := by
  refine follows.threaded (by omega) fun limit limited currentLimited nonzero => ?_
  obtain ⟨_, present, fits⟩ := accepts.2 limit currentLimited
  have countedEq := follows.counted (by simp [limited])
  have limitLt := clampToU64_lt limit
  rw [threadedWindow_acquired currentLimited accepts nonzero]
  exact follows.store limited present (by omega) (by omega) (by omega)

theorem release (nonneg : 0 ≤ required) (reservedLe : clampToU64 required ≤ reserved)
    (valid : ∀ limit, start.limit = some limit → 0 ≤ limit ∧ start.used.isSome = true) :
    WindowFollows start (threadedWindow current (reservationDimensionPlan .release .released
      (dimensionSummary dimension current required))) (reserved - clampToU64 required) := by
  refine follows.threaded (by omega) fun limit limited currentLimited nonzero => ?_
  obtain ⟨nonnegLimit, startPresent⟩ := valid limit limited
  have present := follows.present.trans startPresent
  have countedEq := follows.counted (by simp [limited])
  have countedLt : current.counted < 2 ^ 63 := clampToU64_lt _
  have withinLimit := follows.within limit limited
  rw [threadedWindow_released currentLimited nonneg nonnegLimit present nonzero]
  exact follows.store limited present (by omega) (by omega) (by omega)

end

theorem eq_start (follows : WindowFollows start current 0)
    (nonneg : ∀ used, start.used = some used → 0 ≤ used) : current = start := by
  cases limited : start.limit with
  | none => exact follows.unlimited limited
  | some limit =>
    have countedEq := follows.counted (by simp [limited])
    have present := follows.present
    apply RateLimitCounterWindow.ext follows.limit
    cases startUsed : start.used with
    | none => simpa [startUsed] using present
    | some used =>
      obtain ⟨currentUsed, currentEq⟩ := Option.isSome_iff_exists.mp
        (present.trans (by simp [startUsed]))
      have usedNonneg := nonneg used startUsed
      have currentNonneg := follows.nonneg nonneg currentUsed currentEq
      rw [Int64.le_iff_toInt_le, Int64.toInt_zero] at usedNonneg currentNonneg
      simp only [RateLimitCounterWindow.counted, startUsed, currentEq, Option.getD_some,
        clampToU64] at countedEq
      rw [currentEq, Option.some.injEq, ← Int64.toInt_inj]
      omega

end WindowFollows

/-- The windows of a key together with the reservations not yet released. -/
structure ReservationLedger where
  windows : PerDimension RateLimitCounterWindow
  outstanding : List RateLimitRequiredCapacity

inductive ReservationRequest where
  | acquire (required : RateLimitRequiredCapacity)
  | release (required : RateLimitRequiredCapacity)

namespace ReservationLedger

/-- One request, with the windows threaded through the plan. -/
def step (ledger : ReservationLedger) :
    ReservationRequest → ReservationLedger × RateLimitReservationStatus
  | .acquire required =>
    let plan := acquirePlan ledger.windows required
    (⟨threadedWindows ledger.windows plan,
        if plan.status = .acquired then required :: ledger.outstanding
        else ledger.outstanding⟩, plan.status)
  | .release required =>
    let plan := releasePlan ledger.windows required
    (⟨threadedWindows ledger.windows plan, ledger.outstanding.erase required⟩, plan.status)

/-- A release repeats the amounts of a reservation that is outstanding. -/
def Legal (ledger : ReservationLedger) : ReservationRequest → Prop
  | .acquire _ => True
  | .release required => required ∈ ledger.outstanding

/-- The outstanding amount of a dimension. -/
def reserved (ledger : ReservationLedger) (dimension : RateLimitDimension) : Nat :=
  (ledger.outstanding.map fun required => clampToU64 (required.get dimension)).sum

/-- Every window counts its start and what is outstanding; what is outstanding
was accepted. -/
structure Accounted (start : PerDimension RateLimitCounterWindow) (ledger : ReservationLedger) :
    Prop where
  follows : ∀ dimension, WindowFollows (start.get dimension) (ledger.windows.get dimension)
    (ledger.reserved dimension)
  nonneg : ∀ required ∈ ledger.outstanding, ∀ dimension, 0 ≤ required.get dimension
  valid : ledger.outstanding ≠ [] → ∀ dimension limit, (start.get dimension).limit = some limit →
      0 ≤ limit ∧ (start.get dimension).used.isSome = true

variable {start : PerDimension RateLimitCounterWindow} {ledger : ReservationLedger}

theorem step_acquire_of_rejected
    (rejected : (acquirePlan ledger.windows required).status = .rejected) :
    (ledger.step (.acquire required)).1 = ledger := by
  simp [step, threadedWindows_of_rejected rejected, rejected]

theorem Accounted.acquire (accounted : Accounted start ledger) :
    Accounted start (ledger.step (.acquire required)).1 := by
  by_cases accepts : ∀ dimension, (ledger.windows.get dimension).Accepts (required.get dimension)
  · have acquired := acquirePlan_status_of_accepts accepts
    simp only [step, acquired, if_pos]
    refine ⟨?_, ?_, ?_⟩
    · intro dimension
      rw [threadedWindows_acquirePlan, acquired, reserved, List.map_cons, List.sum_cons,
        Nat.add_comm]
      exact (accounted.follows dimension).acquire (accepts dimension)
    · intro other otherMem dimension
      rcases List.mem_cons.mp otherMem with rfl | older
      · exact (accepts dimension).1
      · exact accounted.nonneg other older dimension
    · intro _ dimension limit limited
      have follows := accounted.follows dimension
      obtain ⟨nonnegLimit, present, _⟩ := (accepts dimension).2 limit (follows.limit.trans limited)
      exact ⟨nonnegLimit, follows.present.symm.trans present⟩
  · rw [step_acquire_of_rejected (acquirePlan_status_of_not_accepts accepts)]
    exact accounted

theorem Accounted.release (accounted : Accounted start ledger)
    (outstanding : required ∈ ledger.outstanding) :
    Accounted start (ledger.step (.release required)).1 := by
  have released : (releasePlan ledger.windows required).status = .released :=
    releasePlan_status (accounted.nonneg required outstanding)
  have valid := accounted.valid (List.ne_nil_of_mem outstanding)
  refine ⟨?_, ?_, fun _ => valid⟩
  · intro dimension
    have split := List.sum_map_erase (fun other => clampToU64 (other.get dimension)) outstanding
    have reservedLe : clampToU64 (required.get dimension) ≤ ledger.reserved dimension := by
      rw [reserved]
      omega
    have reservedEq : (ledger.step (.release required)).1.reserved dimension =
        ledger.reserved dimension - clampToU64 (required.get dimension) := by
      simp only [step, reserved]
      omega
    rw [reservedEq]
    simp only [step]
    rw [threadedWindows_releasePlan, released]
    exact (accounted.follows dimension).release
      (accounted.nonneg required outstanding dimension) reservedLe (valid dimension)
  · intro other otherMem
    exact accounted.nonneg other (List.mem_of_mem_erase otherMem)

theorem Accounted.step (accounted : Accounted start ledger) {request : ReservationRequest}
    (legal : ledger.Legal request) : Accounted start (ledger.step request).1 := by
  cases request with
  | acquire required => exact accounted.acquire
  | release required => exact accounted.release legal

theorem accounted_start (windows : PerDimension RateLimitCounterWindow) :
    Accounted windows ⟨windows, []⟩ where
  follows _ := WindowFollows.refl _
  nonneg _ outstanding := absurd outstanding List.not_mem_nil
  valid outstanding := absurd rfl outstanding

def LegalRun (ledger : ReservationLedger) : List ReservationRequest → Prop
  | [] => True
  | request :: later => ledger.Legal request ∧ LegalRun (ledger.step request).1 later

theorem Accounted.run (accounted : Accounted start ledger) {requests : List ReservationRequest}
    (legal : ledger.LegalRun requests) :
    Accounted start (stateAfter ReservationLedger.step ledger requests) := by
  induction requests generalizing ledger with
  | nil => exact accounted
  | cons request later ih => exact ih (accounted.step legal.1) legal.2

/-- In every run each limited dimension counts its initial use and what is
outstanding, an unlimited dimension keeps its window, no limit that held is
passed, a rejected request changes nothing, and once everything is released the
counters are back where they were, up to a negative counter, which reads as
zero. -/
theorem accounted_of_run (windows : PerDimension RateLimitCounterWindow)
    (requests : List ReservationRequest) (legal : LegalRun ⟨windows, []⟩ requests) :
    let ledger := stateAfter ReservationLedger.step ⟨windows, []⟩ requests
    (∀ dimension, (windows.get dimension).limit ≠ none → (ledger.windows.get dimension).counted =
          (windows.get dimension).counted + ledger.reserved dimension) ∧
      (∀ dimension, (windows.get dimension).limit = none →
        ledger.windows.get dimension = windows.get dimension) ∧
      (∀ dimension limit, (windows.get dimension).limit = some limit →
        (windows.get dimension).counted ≤ clampToU64 limit →
          (ledger.windows.get dimension).counted ≤ clampToU64 limit) ∧
      (∀ required, (ledger.step (.acquire required)).2 = .rejected →
        (ledger.step (.acquire required)).1.windows = ledger.windows) ∧
      (ledger.outstanding = [] → ∀ dimension,
        (ledger.windows.get dimension).counted = (windows.get dimension).counted ∧
          ((∀ used, (windows.get dimension).used = some used → 0 ≤ used) →
            ledger.windows.get dimension = windows.get dimension)) := by
  intro ledger
  have accounted : Accounted windows ledger := (accounted_start windows).run legal
  have follows := accounted.follows
  refine ⟨fun dimension => (follows dimension).counted,
    fun dimension => (follows dimension).unlimited,
    fun dimension => (follows dimension).within, ?_, ?_⟩
  · intro required rejected
    rw [step_acquire_of_rejected rejected]
  · intro released dimension
    have nothingReserved : ledger.reserved dimension = 0 := by
      rw [reserved, released]
      rfl
    have followsZero := nothingReserved ▸ follows dimension
    refine ⟨?_, followsZero.eq_start⟩
    by_cases unlimited : (windows.get dimension).limit = none
    · rw [followsZero.unlimited unlimited]
    · exact followsZero.counted unlimited

/-- Ten requests a minute, two of them used, any number of tokens, one call at
a time. -/
def sampleWindows : PerDimension RateLimitCounterWindow :=
  ⟨⟨some 10, some 2⟩, ⟨none, none⟩, ⟨some 1, some 0⟩⟩

theorem accounted_of_run_sampleWindows :
    let ledger := stateAfter ReservationLedger.step ⟨sampleWindows, []⟩
      [.acquire ⟨1, 500, 1⟩, .acquire ⟨1, 500, 1⟩, .release ⟨1, 500, 1⟩]
    ledger.outstanding = [] ∧ ledger.windows.get .concurrency = ⟨some 1, some 0⟩ := by
  have released : (stateAfter ReservationLedger.step ⟨sampleWindows, []⟩
      [.acquire ⟨1, 500, 1⟩, .acquire ⟨1, 500, 1⟩, .release ⟨1, 500, 1⟩]).outstanding = [] := by
    decide +kernel
  have legal : LegalRun ⟨sampleWindows, []⟩
      [.acquire ⟨1, 500, 1⟩, .acquire ⟨1, 500, 1⟩, .release ⟨1, 500, 1⟩] :=
    ⟨trivial, trivial, List.mem_of_elem_eq_true (by decide +kernel), trivial⟩
  refine ⟨released, ?_⟩
  apply ((accounted_of_run sampleWindows _ legal).2.2.2.2 released .concurrency).2
  rintro used usedEq
  rw [← Option.some.inj usedEq]
  decide

/-- Five requests used without a limit, and a negative token counter. -/
def untrackedWindows : PerDimension RateLimitCounterWindow :=
  ⟨⟨none, some 5⟩, ⟨some 10, some (-5)⟩, ⟨none, none⟩⟩

/-- A reservation leaves the counter without a limit alone, and it takes the
negative counter as zero, so that releasing it does not bring that one back. -/
theorem untrackedWindows_not_restored :
    let acquired := (step ⟨untrackedWindows, []⟩ (.acquire ⟨3, 3, 0⟩)).1
    let released := (step acquired (.release ⟨3, 3, 0⟩)).1
    acquired.outstanding = [⟨3, 3, 0⟩] ∧ (acquired.windows.get .requestsPerMinute).used = some 5 ∧
      (acquired.windows.get .tokensPerMinute).used = some 3 ∧
      released.outstanding = [] ∧ (released.windows.get .tokensPerMinute).used = some 0 := by
  decide +kernel

end ReservationLedger

end FuboxApi
