import Mathlib.Algebra.BigOperators.Group.List.Basic

/-!
# Programs that wait for answers

A program ends with a value, or makes a call and goes on with the answer; a run is a run under some
effects of the calls. A contract says what a call needs and what may follow from it.

Several programs run in a pool over a shared state and may be dropped while they wait. If each takes
and returns its share on its own, the account is right in every interleaving.
-/

/-- A program over calls with answers. -/
inductive AsyncProgram {Call : Type} (Answer : Call → Type) (Value : Type) where
  | done (value : Value)
  | await (call : Call) (resume : Answer call → AsyncProgram Answer Value)

namespace AsyncProgram

variable {Call : Type} {Answer : Call → Type} {Value Next : Type}

def bind : AsyncProgram Answer Value → (Value → AsyncProgram Answer Next) → AsyncProgram Answer Next
  | done value, next => next value
  | await call resume, next => await call fun answer => (resume answer).bind next

instance : Monad (AsyncProgram Answer) where
  pure := done
  bind := bind

def perform (call : Call) : AsyncProgram Answer (Answer call) :=
  await call done

def isDone : AsyncProgram Answer Value → Bool
  | done _ => true
  | await _ _ => false

theorem isDone_iff {program : AsyncProgram Answer Value} :
    program.isDone = true ↔ ∃ value, program = done value := by
  cases program <;> simp [isDone]

/-! ## Contracts -/

/-- What a call needs in a state, and which answers and states may follow. -/
structure CallContract (Answer : Call → Type) (State : Type) where
  requires : Call → State → Prop
  ensures : (call : Call) → State → Answer call → State → Prop

variable {State : Type} {contract : CallContract Answer State}

/-- From this state the program makes only calls whose needs are met, and where
it ends the postcondition holds. -/
def Meets (contract : CallContract Answer State) (program : AsyncProgram Answer Value)
    (post : Value → State → Prop) (state : State) : Prop :=
  match program with
  | done value => post value state
  | await call resume => contract.requires call state ∧
      ∀ answer next, contract.ensures call state answer next →
        (resume answer).Meets contract post next

section

variable {program : AsyncProgram Answer Value} {next : Value → AsyncProgram Answer Next}
  {post weaker : Value → State → Prop} {last : Next → State → Prop} {state : State}

theorem meets_bind : (program >>= next).Meets contract last state ↔
      program.Meets contract (fun value reached => (next value).Meets contract last reached)
        state := by
  induction program generalizing state with
  | done value => exact Iff.rfl
  | await call resume ih =>
    exact and_congr_right fun _ => forall_congr' fun answer => forall_congr' fun reached =>
      imp_congr_right fun _ => ih answer

theorem Meets.mono (meets : program.Meets contract post state)
    (weakens : ∀ value reached, post value reached → weaker value reached) :
    program.Meets contract weaker state := by
  induction program generalizing state with
  | done value => exact weakens value state meets
  | await call resume ih =>
    exact ⟨meets.1, fun answer reached ensured => ih answer (meets.2 answer reached ensured)⟩

theorem Meets.bind {middle : Value → State → Prop} (meets : program.Meets contract middle state)
    (rest : ∀ value reached, middle value reached → (next value).Meets contract last reached) :
    (program >>= next).Meets contract last state :=
  meets_bind.mpr (meets.mono rest)

end

/-! ## Runs -/

/-- A call in a state, with its answer. -/
structure Step (Answer : Call → Type) (State : Type) where
  state : State
  call : Call
  answer : Answer call

/-- What calls do: the answers and states that may follow a call. -/
abbrev Effects (Answer : Call → Type) (State : Type) :=
  (call : Call) → State → Answer call → State → Prop

/-- The effects when others change the state before a call is performed. -/
def Effects.amid (effects : Effects Answer State) (interference : State → State → Prop) :
    Effects Answer State :=
  fun call state answer next =>
    ∃ reached, interference state reached ∧ effects call reached answer next

inductive Runs (effects : Effects Answer State) :
    AsyncProgram Answer Value → State → List (Step Answer State) → Value → State → Prop
  | done (value : Value) (state : State) : Runs effects (done value) state [] value state
  | await {call : Call} {resume : Answer call → AsyncProgram Answer Value}
      {state next last : State} {answer : Answer call} {value : Value}
      {steps : List (Step Answer State)} (effect : effects call state answer next)
      (rest : Runs effects (resume answer) next steps value last) :
      Runs effects (await call resume) state (⟨state, call, answer⟩ :: steps) value last

/-- Some run ends with the value in the state. -/
def Reaches (effects : Effects Answer State) (program : AsyncProgram Answer Value) (state : State)
    (value : Value) (last : State) : Prop :=
  ∃ steps, Runs effects program state steps value last

section

variable {effects : Effects Answer State} {state last : State} {value : Value}

@[simp]
theorem reaches_pure {result : Value} :
    Reaches effects (pure result) state value last ↔ value = result ∧ last = state := by
  constructor
  · rintro ⟨_, run⟩
    cases run
    exact ⟨rfl, rfl⟩
  · rintro ⟨rfl, rfl⟩
    exact ⟨[], .done _ _⟩

theorem reaches_await {call : Call} {resume : Answer call → AsyncProgram Answer Value} :
    Reaches effects (await call resume) state value last ↔
      ∃ answer next, effects call state answer next ∧
        Reaches effects (resume answer) next value last := by
  constructor
  · rintro ⟨_, run⟩
    cases run with
    | await effect rest => exact ⟨_, _, effect, _, rest⟩
  · rintro ⟨_, _, effect, _, rest⟩
    exact ⟨_, .await effect rest⟩

@[simp]
theorem reaches_bind {program : AsyncProgram Answer Value} {next : Value → AsyncProgram Answer Next}
    {result : Next} : Reaches effects (program >>= next) state result last ↔
      ∃ value middle, Reaches effects program state value middle ∧
        Reaches effects (next value) middle result last := by
  induction program generalizing state with
  | done value =>
    constructor
    · exact fun reached => ⟨value, state, reaches_pure.mpr ⟨rfl, rfl⟩, reached⟩
    · rintro ⟨_, _, ended, reached⟩
      obtain ⟨rfl, rfl⟩ := reaches_pure.mp ended
      exact reached
  | await call resume ih =>
    change Reaches effects (await call fun answer => resume answer >>= next) state result last ↔ _
    simp only [reaches_await, ih]
    constructor
    · rintro ⟨answer, reached, effect, value, middle, first, second⟩
      exact ⟨value, middle, ⟨answer, reached, effect, first⟩, second⟩
    · rintro ⟨value, middle, ⟨answer, reached, effect, first⟩, second⟩
      exact ⟨answer, reached, effect, value, middle, first, second⟩

@[simp]
theorem reaches_perform {call : Call} {answer : Answer call} :
    Reaches effects (perform call) state answer last ↔ effects call state answer last := by
  rw [perform, reaches_await]
  constructor
  · rintro ⟨_, _, effect, ended⟩
    obtain ⟨rfl, rfl⟩ := reaches_pure.mp ended
    exact effect
  · exact fun effect => ⟨answer, last, effect, reaches_pure.mpr ⟨rfl, rfl⟩⟩

theorem reaches_perform_bind {call : Call} {next : Answer call → AsyncProgram Answer Value} :
    Reaches effects (perform call >>= next) state value last ↔
      ∃ answer middle, effects call state answer middle ∧
        Reaches effects (next answer) middle value last := by
  simp only [reaches_bind, reaches_perform]

end

/-- The contract of the effects, with a note of whether every step so far met a
condition. -/
def monitored (effects : Effects Answer State) (condition : Step Answer State → Prop) :
    CallContract Answer (State × Prop) where
  requires _ _ := True
  ensures call state answer next :=
    effects call state.1 answer next.1 ∧ next.2 = (state.2 ∧ condition ⟨state.1, call, answer⟩)

theorem Runs.post_of_meets {effects : Effects Answer State} {condition : Step Answer State → Prop}
    {program : AsyncProgram Answer Value} {state last : State} {value : Value}
    {steps : List (Step Answer State)} {post : Value → State × Prop → Prop}
    (run : Runs effects program state steps value last) {met : Prop}
    (meets : program.Meets (monitored effects condition) post (state, met)) :
    post value (last, met ∧ ∀ step ∈ steps, condition step) := by
  induction run generalizing met with
  | done value state =>
    have same : (met ∧ ∀ step ∈ ([] : List (Step Answer State)), condition step) = met := by
      simp
    rw [same]
    exact meets
  | @await call resume state next last answer value steps effect rest ih =>
    have after := ih (meets.2 answer (next, met ∧ condition ⟨state, call, answer⟩) ⟨effect, rfl⟩)
    have same : (met ∧ ∀ step ∈ (⟨state, call, answer⟩ : Step Answer State) :: steps,
        condition step) =
          ((met ∧ condition ⟨state, call, answer⟩) ∧ ∀ step ∈ steps, condition step) := by
      rw [List.forall_mem_cons, and_assoc]
    rw [same]
    exact after

/-- The run in which a function answers the calls, as long as it has answers. -/
def play (respond : (call : Call) → State → Option (Answer call × State)) :
    AsyncProgram Answer Value → State → Option (List (Step Answer State) × Value × State)
  | done value, state => some ([], value, state)
  | await call resume, state =>
    (respond call state).bind fun answered =>
      (play respond (resume answered.1) answered.2).map fun rest =>
        (⟨state, call, answered.1⟩ :: rest.1, rest.2)

theorem runs_of_play {effects : Effects Answer State}
    {respond : (call : Call) → State → Option (Answer call × State)}
    (sound : ∀ call state answered, respond call state = some answered →
      effects call state answered.1 answered.2) {program : AsyncProgram Answer Value}
    {state last : State} {value : Value} {steps : List (Step Answer State)}
    (played : play respond program state = some (steps, value, last)) :
    Runs effects program state steps value last := by
  induction program generalizing state steps with
  | done value =>
    cases played
    exact .done _ _
  | await call resume ih =>
    obtain ⟨answered, responded, continued⟩ := Option.bind_eq_some_iff.mp played
    obtain ⟨⟨_, _, _⟩, restPlayed, restEq⟩ := Option.map_eq_some_iff.mp continued
    cases restEq
    exact .await (sound call state answered responded) (ih answered.1 restPlayed)

end AsyncProgram
