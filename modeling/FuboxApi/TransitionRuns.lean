import Mathlib.Data.List.Basic

/-!
# Runs of a deterministic transition function

A machine answers each input with an output and a new state. A run is a list of inputs; an invariant
is a property that each step keeps.
-/

namespace TransitionRuns

variable {State Input Output : Type*}

/-- The state that a run leaves behind. -/
def stateAfter (step : State → Input → State × Output) (start : State) (inputs : List Input) :
    State :=
  inputs.foldl (fun state input => (step state input).1) start

variable {step : State → Input → State × Output} {start : State}

@[simp]
theorem stateAfter_cons (input : Input) (rest : List Input) :
    stateAfter step start (input :: rest) = stateAfter step (step start input).1 rest :=
  rfl

@[simp]
theorem stateAfter_append (first second : List Input) : stateAfter step start (first ++ second) =
      stateAfter step (stateAfter step start first) second := by
  simp [stateAfter, List.foldl_append]

theorem stateAfter_invariant (holds : State → Prop)
    (kept : ∀ state input, holds state → holds (step state input).1) (initially : holds start)
    (inputs : List Input) : holds (stateAfter step start inputs) := by
  induction inputs generalizing start with
  | nil => exact initially
  | cons input rest ih => exact ih (kept start input initially)

/-- Every step of the run meets the condition in the state it starts from. -/
def StepsMeet (step : State → Input → State × Output) (condition : State → Input → Prop) :
    State → List Input → Prop
  | _, [] => True
  | state, input :: rest =>
    condition state input ∧ StepsMeet step condition (step state input).1 rest

instance (condition : State → Input → Prop) [∀ state input, Decidable (condition state input)] :
    ∀ state inputs, Decidable (StepsMeet step condition state inputs)
  | _, [] => instDecidableTrue
  | state, input :: rest =>
    have := instDecidableStepsMeet condition (step state input).1 rest
    inferInstanceAs (Decidable (_ ∧ _))

variable {condition : State → Input → Prop} {inputs : List Input}

theorem stepsMeet_iff : StepsMeet step condition start inputs ↔
      ∀ earlier input later, inputs = earlier ++ input :: later →
        condition (stateAfter step start earlier) input := by
  induction inputs generalizing start with
  | nil => simp [StepsMeet]
  | cons first rest ih =>
    rw [StepsMeet, ih]
    constructor
    · rintro ⟨initially, afterwards⟩ earlier input later split
      cases earlier with
      | nil =>
        obtain ⟨rfl, _⟩ := List.cons.inj split
        exact initially
      | cons head earlier =>
        obtain ⟨rfl, restSplit⟩ := List.cons.inj split
        exact afterwards earlier input later restSplit
    · intro conditions
      refine ⟨conditions [] first rest rfl, ?_⟩
      intro earlier input later split
      exact conditions (first :: earlier) input later (by rw [split, List.cons_append])

theorem StepsMeet.of_forall_mem {condition : Input → Prop}
    (meets : ∀ input ∈ inputs, condition input) :
    StepsMeet step (fun _ => condition) start inputs := by
  induction inputs generalizing start with
  | nil => trivial
  | cons input rest ih =>
    exact ⟨meets input (by simp), ih fun next member => meets next (by simp [member])⟩

theorem stepsMeet_and {first second : State → Input → Prop} :
    StepsMeet step (fun state input => first state input ∧ second state input) start inputs ↔
      StepsMeet step first start inputs ∧ StepsMeet step second start inputs := by
  simp only [stepsMeet_iff, ← forall_and]

theorem stateAfter_invariant_of_stepsMeet {holds : State → Prop}
    (kept : ∀ state input, condition state input → holds state → holds (step state input).1)
    (initially : holds start) (met : StepsMeet step condition start inputs) :
    ∀ earlier later, inputs = earlier ++ later → holds (stateAfter step start earlier) := by
  induction inputs generalizing start with
  | nil =>
    intro earlier later split
    obtain ⟨rfl, rfl⟩ := List.append_eq_nil_iff.mp split.symm
    exact initially
  | cons input rest ih =>
    intro earlier later split
    cases earlier with
    | nil => exact initially
    | cons first earlier =>
      obtain ⟨rfl, restSplit⟩ := List.cons.inj split
      exact ih (kept start input met.1 initially) met.2 earlier later restSplit

/-- Where a step keeps a property exactly when it meets a condition, a run has
the property in every state exactly when all its steps meet the condition. -/
theorem holds_throughout_iff (invariant holds : State → Prop) (condition : State → Input → Prop)
    (kept : ∀ state input, invariant state → invariant (step state input).1)
    (keeps_iff : ∀ state input, invariant state → holds state →
      (holds (step state input).1 ↔ condition state input)) (initialInvariant : invariant start)
    (initially : holds start) (inputs : List Input) : (∀ earlier later, inputs = earlier ++ later →
        holds (stateAfter step start earlier)) ↔
      ∀ earlier input later, inputs = earlier ++ input :: later →
        condition (stateAfter step start earlier) input := by
  constructor
  · intro throughout earlier input later split
    have before := throughout earlier (input :: later) split
    have after := throughout (earlier ++ [input]) later (by simp [split])
    rw [stateAfter_append] at after
    have reached := stateAfter_invariant invariant kept initialInvariant earlier
    exact (keeps_iff _ _ reached before).mp after
  · intro conditions earlier later split
    have keptBoth (state : State) (input : Input) (met : condition state input)
        (held : invariant state ∧ holds state) :
        invariant (step state input).1 ∧ holds (step state input).1 :=
      ⟨kept state input held.1, (keeps_iff state input held.1 held.2).mpr met⟩
    exact (stateAfter_invariant_of_stepsMeet keptBoth ⟨initialInvariant, initially⟩
      (stepsMeet_iff.mpr conditions) earlier later split).2

end TransitionRuns
