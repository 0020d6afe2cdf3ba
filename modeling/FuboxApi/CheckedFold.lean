import Mathlib.Algebra.BigOperators.Group.List.Basic

/-!
# Computations that stop at the first error

Inversion rules for `Except` computations and for folds over them, so that callers unfold neither.
Where the errors matter as well, `Yields` names them beside the result.
-/

namespace CheckedFold

universe u v

variable {ε : Type u} {α β : Type v}

theorem bind_eq_ok {first : Except ε α} {next : α → Except ε β} {result : β} :
    (first >>= next) = .ok result ↔ ∃ value, first = .ok value ∧ next value = .ok result := by
  cases first with
  | error failure | ok value => simp [bind, Except.bind]

variable {computation : Except ε α} {result : α} {failure : ε} {convert : α → Except ε β}
  {items : List α} {results : List β}

@[simp]
theorem mapError_eq_ok {ε' : Type u} {rename : ε → ε'} :
    computation.mapError rename = .ok result ↔ computation = .ok result := by
  cases computation <;> simp [Except.mapError]

theorem map_eq_ok {change : α → β} {result : β} : computation.map change = .ok result ↔
      ∃ value, computation = .ok value ∧ change value = result := by
  cases computation <;> simp [Except.map]

@[simp]
theorem toOption_eq_some_iff : computation.toOption = some result ↔ computation = .ok result := by
  cases computation <;> simp [Except.toOption]

theorem toOption_join_eq_some_iff {computation : Except ε (Option α)} :
    computation.toOption.join = some result ↔ computation = .ok (some result) := by
  cases computation <;> simp [Except.toOption]

theorem eq_ok_get (succeeds : computation.toOption.isSome = true) :
    computation = .ok (computation.toOption.get succeeds) := by
  cases computation with
  | error failure => cases succeeds
  | ok value => rfl

/-- The value of an option, or the given error. -/
def okOr (failure : ε) : Option α → Except ε α
  | some value => .ok value
  | none => .error failure

@[simp]
theorem okOr_eq_ok {option : Option α} :
    okOr failure option = .ok result ↔ option = some result := by
  cases option <;> simp [okOr]

/-- Go on when the condition holds, and stop with the given error
otherwise. -/
def ensure (condition : Prop) [Decidable condition] (failure : ε) : Except ε Unit :=
  if condition then .ok () else .error failure

@[simp]
theorem ensure_eq_ok {condition : Prop} [Decidable condition] {done : Unit} :
    ensure condition failure = .ok done ↔ condition := by
  unfold ensure
  split <;> simp_all

theorem forall₂_of_mapM (ran : items.mapM convert = .ok results) :
    List.Forall₂ (fun item result => convert item = .ok result) items results := by
  induction items generalizing results with
  | nil =>
    cases ran
    exact .nil
  | cons item rest ih =>
    rw [List.mapM_cons] at ran
    obtain ⟨result, converted, ran⟩ := bind_eq_ok.mp ran
    obtain ⟨others, convertedRest, ran⟩ := bind_eq_ok.mp ran
    cases ran
    exact .cons converted (ih convertedRest)

theorem exists_result_of_mapM (ran : items.mapM convert = .ok results) {item : α}
    (itemMem : item ∈ items) : ∃ result ∈ results, convert item = .ok result := by
  have pairs := forall₂_of_mapM ran
  obtain ⟨index, indexLt, rfl⟩ := List.mem_iff_getElem.mp itemMem
  have resultLt : index < results.length := pairs.length_eq ▸ indexLt
  exact ⟨results[index], List.getElem_mem _, pairs.get indexLt resultLt⟩

theorem exists_item_of_mapM (ran : items.mapM convert = .ok results) {result : β}
    (resultMem : result ∈ results) : ∃ item ∈ items, convert item = .ok result := by
  have pairs := forall₂_of_mapM ran
  obtain ⟨index, indexLt, rfl⟩ := List.mem_iff_getElem.mp resultMem
  have itemLt : index < items.length := pairs.length_eq ▸ indexLt
  exact ⟨items[index], List.getElem_mem _, pairs.get itemLt indexLt⟩

section

variable {step : β → α → Except ε β} {result start : β} (ran : items.foldlM step start = .ok result)

include ran

theorem foldlM_eq_ok_invariant (holds : β → Prop)
    (kept : ∀ {total item next}, step total item = .ok next → holds total → holds next)
    (initially : holds start) : holds result := by
  induction items generalizing start with
  | nil =>
    cases ran
    exact initially
  | cons item rest ih =>
    obtain ⟨next, stepped, continued⟩ := bind_eq_ok.mp ran
    exact ih continued (kept stepped initially)

theorem foldlM_filter_eq_ok {kept : α → Bool}
    (droppedKeeps : ∀ {total item next}, kept item = false →
      step total item = .ok next → next = total) :
    (items.filter kept).foldlM step start = .ok result := by
  induction items generalizing start with
  | nil => exact ran
  | cons item rest ih =>
    obtain ⟨next, stepped, continued⟩ := bind_eq_ok.mp ran
    rw [List.filter_cons]
    split
    · exact bind_eq_ok.mpr ⟨next, stepped, ih continued⟩
    · next dropped =>
      rw [droppedKeeps (by simpa using dropped) stepped] at continued
      exact ih continued

/-- Every item of a successful fold was accepted by some successful step, so a
fact that holds of each accepted item holds of all of them. -/
theorem foldlM_eq_ok_forall (holds : β → Prop) (accepted : α → Prop) (kept : ∀ {total item next},
      step total item = .ok next → holds total → holds next ∧ accepted item)
    (initially : holds start) : ∀ item ∈ items, accepted item := by
  induction items generalizing start with
  | nil => simp
  | cons item rest ih =>
    obtain ⟨next, stepped, continued⟩ := bind_eq_ok.mp ran
    have nextHolds := kept stepped initially
    simp only [List.mem_cons, forall_eq_or_imp]
    exact ⟨nextHolds.2, ih continued nextHolds.1⟩

/-- When every successful step adds the weight of its item to a measure, a
successful fold adds the sum of the weights. -/
theorem foldlM_eq_ok_sum {γ : Type*} [AddMonoid γ] (measure : β → γ) (weight : α → γ)
    (adds : ∀ {total item next},
      step total item = .ok next → measure next = measure total + weight item) :
    measure result = measure start + (items.map weight).sum := by
  induction items generalizing start with
  | nil =>
    cases ran
    simp
  | cons item rest ih =>
    obtain ⟨next, stepped, continued⟩ := bind_eq_ok.mp ran
    rw [ih continued, adds stepped, List.map_cons, List.sum_cons, add_assoc]

end

/-- A computation whose value has one property and whose error, if it fails,
has another. -/
def Yields (holds : α → Prop) (tolerated : ε → Prop) : Except ε α → Prop
  | .ok value => holds value
  | .error failure => tolerated failure

variable {holds : α → Prop} {tolerated : ε → Prop} {value : α} {result : β → Prop} {ε' : Type u}

theorem yields_of_eq_ok (computed : computation = .ok value) :
    Yields (fun result => result = value) tolerated computation := by
  rw [computed]
  exact rfl

section

variable (yields : Yields holds tolerated computation)

include yields

theorem Yields.of_ok (computed : computation = .ok value) : holds value := by
  rw [computed] at yields
  exact yields

theorem Yields.with_result :
    Yields (fun value => computation = .ok value ∧ holds value) tolerated computation := by
  cases computation with
  | ok value => exact ⟨rfl, yields⟩
  | error failure => exact yields

theorem Yields.imp {weaker : α → Prop} (weakens : ∀ value, holds value → weaker value) :
    Yields weaker tolerated computation := by
  cases computation with
  | ok value => exact weakens value yields
  | error failure => exact yields

theorem Yields.imp_error {alsoTolerated : ε → Prop}
    (weakens : ∀ failure, tolerated failure → alsoTolerated failure) :
    Yields holds alsoTolerated computation := by
  cases computation with
  | ok value => exact yields
  | error failure => exact weakens failure yields

end

theorem Yields.bind {first : Except ε α} {next : α → Except ε β}
    (firstYields : Yields holds tolerated first)
    (nextYields : ∀ value, holds value → Yields result tolerated (next value)) :
    Yields result tolerated (first >>= next) := by
  cases first with
  | ok value => exact nextYields value firstYields
  | error failure => exact firstYields

theorem Yields.mapError {renamed : ε' → Prop} {rename : ε → ε'}
    (yields : Yields holds tolerated computation)
    (renames : ∀ failure, tolerated failure → renamed (rename failure)) :
    Yields holds renamed (computation.mapError rename) := by
  cases computation with
  | ok value => exact yields
  | error failure => exact renames failure yields

theorem yields_mapError_const {renamed : ε' → Prop} {failure : ε'}
    (failureTolerated : renamed failure) (succeeds : ∀ value, computation = .ok value → holds value)
    : Yields holds renamed (computation.mapError fun _ => failure) := by
  cases computation with
  | ok value => exact succeeds value rfl
  | error original => exact failureTolerated

theorem yields_okOr {option : Option α} (failureTolerated : tolerated failure)
    (succeeds : ∀ value, option = some value → holds value) :
    Yields holds tolerated (okOr failure option) := by
  cases option with
  | some value => exact succeeds value rfl
  | none => exact failureTolerated

theorem yields_ensure {condition : Prop} [Decidable condition] (met : condition) :
    Yields (fun _ => True) tolerated (ensure condition failure) := by
  rw [ensure, if_pos met]
  exact trivial

theorem yields_foldlM {total : β → Prop} {accepted : α → Prop} {step : β → α → Except ε β}
    (kept : ∀ current item, total current → accepted item →
      Yields total tolerated (step current item)) (allAccepted : ∀ item ∈ items, accepted item)
    {start : β} (initially : total start) : Yields total tolerated (items.foldlM step start) := by
  induction items generalizing start with
  | nil => exact initially
  | cons item rest ih =>
    apply (kept start item initially (allAccepted item (by simp))).bind
    intro next nextTotal
    exact ih (fun other otherMem => allAccepted other (by simp [otherMem])) nextTotal

theorem yields_mapM (converts : ∀ item ∈ items, Yields result tolerated (convert item)) :
    Yields (fun results => ∀ value ∈ results, result value) tolerated (items.mapM convert) := by
  induction items with
  | nil => simp [Yields, pure, Except.pure]
  | cons item rest ih =>
    rw [List.mapM_cons]
    apply (converts item (by simp)).bind
    intro value valueHolds
    apply (ih fun other otherMem => converts other (by simp [otherMem])).bind
    intro values valuesHold
    simpa [Yields, pure, Except.pure] using ⟨valueHolds, valuesHold⟩

end CheckedFold
