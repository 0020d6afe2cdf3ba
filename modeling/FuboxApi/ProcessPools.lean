import FuboxApi.AsyncPrograms

/-!
# Pools of waiting programs

A step starts a program, performs the call some program waits with, or drops a program. Every
process carries its share of what the shared state accounts for.
-/

namespace AsyncProgram

variable {Call : Type} {Answer : Call → Type} {Value Share State : Type}

structure Process (Answer : Call → Type) (Value Share : Type) where
  program : AsyncProgram Answer Value
  share : Share

structure Pool (Answer : Call → Type) (Value Share State : Type) where
  shared : State
  processes : List (Process Answer Value Share)

inductive PoolEvent (Answer : Call → Type) (Value Share : Type) where
  | started (program : AsyncProgram Answer Value)
  | performed (share : Share) (call : Call) (answer : Answer call)
  | dropped (process : Process Answer Value Share)

/-- The share that is lost with a dropped process. -/
def PoolEvent.lost [Zero Share] : PoolEvent Answer Value Share → Share
  | .dropped process => process.share
  | .started _ | .performed _ _ _ => 0

abbrev ShareUpdate (Answer : Call → Type) (Share : Type) :=
  (call : Call) → Answer call → Share → Share

variable [AddCommMonoid Share]

inductive PoolStep (effects : Effects Answer State) (update : ShareUpdate Answer Share) :
    Pool Answer Value Share State → PoolEvent Answer Value Share →
      Pool Answer Value Share State → Prop
  | start {shared : State} {processes : List (Process Answer Value Share)}
      (program : AsyncProgram Answer Value) :
      PoolStep effects update ⟨shared, processes⟩ (.started program)
        ⟨shared, ⟨program, 0⟩ :: processes⟩
  | perform {shared next : State} {before after : List (Process Answer Value Share)}
      {share : Share} {call : Call} {resume : Answer call → AsyncProgram Answer Value}
      {answer : Answer call} (effect : effects call shared answer next) :
      PoolStep effects update ⟨shared, before ++ ⟨.await call resume, share⟩ :: after⟩
        (.performed share call answer)
        ⟨next, before ++ ⟨resume answer, update call answer share⟩ :: after⟩
  | drop {shared : State} {before after : List (Process Answer Value Share)}
      (process : Process Answer Value Share) :
      PoolStep effects update ⟨shared, before ++ process :: after⟩ (.dropped process)
        ⟨shared, before ++ after⟩

inductive PoolRun (effects : Effects Answer State) (update : ShareUpdate Answer Share) :
    Pool Answer Value Share State → List (PoolEvent Answer Value Share) →
      Pool Answer Value Share State → Prop
  | refl (pool : Pool Answer Value Share State) : PoolRun effects update pool [] pool
  | step {first middle last : Pool Answer Value Share State}
      {event : PoolEvent Answer Value Share} {events : List (PoolEvent Answer Value Share)}
      (head : PoolStep effects update first event middle)
      (rest : PoolRun effects update middle events last) :
      PoolRun effects update first (event :: events) last

variable {effects : Effects Answer State} {update : ShareUpdate Answer Share} {call : Call}
  {requires : Call → Share → Prop} {share : Share} {calls : Nat}
  {respond : (call : Call) → State → Option (Answer call × State)} {state : State}

/-- What every call keeps of the shared state is kept by a run, whatever is started or dropped. -/
theorem PoolRun.shared_invariant {first last : Pool Answer Value Share State}
    {events : List (PoolEvent Answer Value Share)} (run : PoolRun effects update first events last)
    (holds : State → Prop) (initially : holds first.shared)
    (kept : ∀ call state answer next, effects call state answer next → holds state → holds next) :
    holds last.shared := by
  induction run with
  | refl pool => exact initially
  | step head rest ih =>
    cases head with
    | start | drop => exact ih initially
    | perform effect => exact ih (kept _ _ _ _ effect initially)

def Pool.total (pool : Pool Answer Value Share State) : Share :=
  (pool.processes.map Process.share).sum

/-- The shares, seen as a contract: a call needs some share, and a permitted
answer changes it. -/
def shareContract (update : ShareUpdate Answer Share) (requires : Call → Share → Prop)
    (permits : Share → (call : Call) → Answer call → Prop) : CallContract Answer Share where
  requires := requires
  ensures call share answer next := permits share call answer ∧ next = update call answer share

omit [AddCommMonoid Share] in
theorem meets_of_share_kept {permits : Share → (call : Call) → Answer call → Prop}
    {reading : Share → Prop} (required : requires call share)
    (kept : ∀ answer, update call answer share = share) (before : reading share) :
    (perform call).Meets (shareContract update requires permits) (fun _ => reading) share := by
  refine ⟨required, ?_⟩
  rintro answer next ⟨_, rfl⟩
  rw [kept]
  exact before

omit [AddCommMonoid Share] in
theorem meets_perform_bind {permits : Share → (call : Call) → Answer call → Prop}
    {next : Answer call → AsyncProgram Answer Value} {post : Value → Share → Prop}
    (required : requires call share) (continues : ∀ answer, permits share call answer →
      (next answer).Meets (shareContract update requires permits) post (update call answer share)) :
    (perform call >>= next).Meets (shareContract update requires permits) post share := by
  refine meets_bind.mpr ⟨required, ?_⟩
  rintro answer reached ⟨permitted, rfl⟩
  exact continues answer permitted

section

variable {permits : Share → (call : Call) → Answer call → Prop} {consistent : State → Share → Prop}

/-- The program has returned its share wherever it ends. -/
def Returns (contract : CallContract Answer Share) (process : Process Answer Value Share) : Prop :=
  process.program.Meets contract (fun _ share => share = 0) process.share

/-- An event that accounting copes with: a program that returns what it takes
is started, a call has a permitted answer, or a process without a share is
dropped. -/
def Permitted (update : ShareUpdate Answer Share) (requires : Call → Share → Prop)
    (permits : Share → (call : Call) → Answer call → Prop) : PoolEvent Answer Value Share → Prop
  | .started program => Returns (shareContract update requires permits) ⟨program, 0⟩
  | .performed share call answer => permits share call answer
  | .dropped process => process.share = 0

/-- A pool whose account is right and whose processes return their shares. -/
structure Pool.Accounted (contract : CallContract Answer Share) (consistent : State → Share → Prop)
    (pool : Pool Answer Value Share State) : Prop where
  total_consistent : consistent pool.shared pool.total
  returns : ∀ process ∈ pool.processes, Returns contract process

variable {contract : CallContract Answer Share} {pool first last : Pool Answer Value Share State}
  {events : List (PoolEvent Answer Value Share)}

theorem Pool.accounted_of_no_processes (noProcesses : pool.processes = [])
    (initially : consistent pool.shared 0) : pool.Accounted contract consistent := by
  refine ⟨?_, ?_⟩
  · rw [Pool.total, noProcesses]
    exact initially
  · rw [noProcesses]
    exact fun _ processMem => absurd processMem List.not_mem_nil

section

variable (keeps : ∀ call state answer next share rest, consistent state (share + rest) →
  requires call share → permits share call answer → effects call state answer next →
    consistent next (update call answer share + rest))

include keeps

variable (accounted : first.Accounted (shareContract update requires permits) consistent)

include accounted

theorem Pool.Accounted.step {event : PoolEvent Answer Value Share}
    (head : PoolStep effects update first event last)
    (permitted : Permitted update requires permits event) :
    last.Accounted (shareContract update requires permits) consistent := by
  obtain ⟨totalConsistent, returns⟩ := accounted
  cases head with
  | start program =>
    refine ⟨?_, List.forall_mem_cons.mpr ⟨permitted, returns⟩⟩
    simpa [Pool.total] using totalConsistent
  | @perform shared next before after share call resume answer effect =>
    rw [List.forall_mem_append, List.forall_mem_cons] at returns
    obtain ⟨required, resumed⟩ := returns.2.1
    refine ⟨?_, ?_⟩
    · have split : ∀ changed : Process Answer Value Share,
          ((before ++ changed :: after).map Process.share).sum = changed.share +
              ((before.map Process.share).sum + (after.map Process.share).sum) := by
        intro changed
        simp only [List.map_append, List.map_cons, List.sum_append, List.sum_cons]
        ac_rfl
      rw [Pool.total, split] at totalConsistent
      rw [Pool.total, split]
      exact keeps call shared answer next share _ totalConsistent required permitted effect
    · exact List.forall_mem_append.mpr ⟨returns.1, List.forall_mem_cons.mpr
        ⟨resumed answer _ ⟨permitted, rfl⟩, returns.2.2⟩⟩
  | drop process =>
    rw [List.forall_mem_append, List.forall_mem_cons] at returns
    refine ⟨?_, List.forall_mem_append.mpr ⟨returns.1, returns.2.2⟩⟩
    have noShare : process.share = 0 := permitted
    simpa [Pool.total, noShare] using totalConsistent

variable (consistent) in
omit accounted in
/-- What dropped processes had stays in the account. -/
theorem Pool.Accounted.run_of_losses {lost : Share}
    (accounted : first.Accounted (shareContract update requires permits)
      fun state held => consistent state (held + lost))
    (permitted : ∀ event ∈ events,
      Permitted update requires permits event ∨ ∃ process, event = .dropped process)
    (run : PoolRun effects update first events last) :
    last.Accounted (shareContract update requires permits)
      fun state held => consistent state (held + (lost + (events.map PoolEvent.lost).sum)) := by
  have keepsWith (lost : Share) (call : Call) (state : State) (answer : Answer call) (next : State)
      (share rest : Share) (before : consistent state (share + rest + lost))
      (required : requires call share) (permitted : permits share call answer)
      (effect : effects call state answer next) :
      consistent next (update call answer share + rest + lost) := by
    rw [add_assoc] at before ⊢
    exact keeps call state answer next share _ before required permitted effect
  induction run generalizing lost with
  | refl pool => simpa using accounted
  | @step _ middle _ event events head rest ih =>
    rw [List.forall_mem_cons] at permitted
    rw [List.map_cons, List.sum_cons, ← add_assoc lost]
    refine ih ?_ permitted.2
    cases head with
    | start program =>
      have next := accounted.step (keepsWith lost) (.start program)
        (permitted.1.resolve_right nofun)
      simpa [PoolEvent.lost] using next
    | perform effect =>
      have next := accounted.step (keepsWith lost) (.perform effect)
        (permitted.1.resolve_right nofun)
      simpa [PoolEvent.lost] using next
    | drop process =>
      obtain ⟨totalConsistent, returns⟩ := accounted
      rw [List.forall_mem_append, List.forall_mem_cons] at returns
      refine ⟨?_, List.forall_mem_append.mpr ⟨returns.1, returns.2.2⟩⟩
      simpa [Pool.total, PoolEvent.lost, add_assoc, add_comm, add_left_comm] using totalConsistent

variable (permitted : ∀ event ∈ events, Permitted update requires permits event)

include permitted

theorem Pool.Accounted.run (run : PoolRun effects update first events last) :
    last.Accounted (shareContract update requires permits) consistent := by
  induction run with
  | refl pool => exact accounted
  | step head rest ih =>
    rw [List.forall_mem_cons] at permitted
    exact ih (accounted.step keeps head permitted.1) permitted.2

theorem Pool.Accounted.requires_of_performed (run : PoolRun effects update first events last)
    {answer : Answer call} (performed : .performed share call answer ∈ events) :
    requires call share := by
  induction run with
  | refl pool => cases performed
  | step head rest ih =>
    rw [List.forall_mem_cons] at permitted
    rcases List.mem_cons.mp performed with eventEq | later
    · cases head with
      | start program => cases eventEq
      | perform effect =>
        cases eventEq
        have returns := accounted.returns
        rw [List.forall_mem_append, List.forall_mem_cons] at returns
        exact returns.2.1.1
      | drop process => cases eventEq
    · exact ih (accounted.step keeps head permitted.1) permitted.2 later

end

def Pool.Idle (pool : Pool Answer Value Share State) : Prop :=
  ∀ process ∈ pool.processes, ∃ value, process.program = .done value

theorem Pool.Accounted.total_eq_zero (accounted : pool.Accounted contract consistent)
    (idle : pool.Idle) : pool.total = 0 := by
  apply List.sum_eq_zero
  intro share shareMem
  obtain ⟨process, processMem, rfl⟩ := List.mem_map.mp shareMem
  have returned := accounted.returns process processMem
  obtain ⟨value, programEq⟩ := idle process processMem
  rw [Returns, programEq] at returned
  exact returned

end

/-! ## Playing a run -/

/-- What is done next with a pool, whose processes are numbered from the one started last. -/
inductive PoolMove (Answer : Call → Type) (Value : Type) where
  | start (program : AsyncProgram Answer Value)
  | call (index : Nat)
  | drop (index : Nat)

/-- A move with its event, where a function answers the calls. -/
def playMove (update : ShareUpdate Answer Share)
    (respond : (call : Call) → State → Option (Answer call × State))
    (pool : Pool Answer Value Share State) :
    PoolMove Answer Value → Option (PoolEvent Answer Value Share × Pool Answer Value Share State)
  | .start program => some (.started program, ⟨pool.shared, ⟨program, 0⟩ :: pool.processes⟩)
  | .call index =>
    match pool.processes.drop index with
    | ⟨.await call resume, share⟩ :: after =>
      (respond call pool.shared).map fun answered =>
        (.performed share call answered.1, ⟨answered.2, pool.processes.take index ++
          ⟨resume answered.1, update call answered.1 share⟩ :: after⟩)
    | _ => none
  | .drop index =>
    match pool.processes.drop index with
    | process :: after =>
      some (.dropped process, ⟨pool.shared, pool.processes.take index ++ after⟩)
    | [] => none

def playMoves (update : ShareUpdate Answer Share)
    (respond : (call : Call) → State → Option (Answer call × State)) :
    List (PoolMove Answer Value) → Pool Answer Value Share State →
      Option (List (PoolEvent Answer Value Share) × Pool Answer Value Share State)
  | [], pool => some ([], pool)
  | move :: moves, pool =>
    (playMove update respond pool move).bind fun moved =>
      (playMoves update respond moves moved.2).map fun rest => (moved.1 :: rest.1, rest.2)

/-- The events that a move may have. -/
def Plays (respond : (call : Call) → State → Option (Answer call × State)) :
    PoolMove Answer Value → PoolEvent Answer Value Share → Prop
  | .start program, event => event = .started program
  | .call _, event => ∃ share call answer state next,
      event = .performed share call answer ∧ respond call state = some (answer, next)
  | .drop _, event => ∃ process, event = .dropped process

variable (sound : ∀ call state answered, respond call state = some answered →
    effects call state answered.1 answered.2)
  {pool last : Pool Answer Value Share State}

include sound

theorem poolStep_playMove {move : PoolMove Answer Value} {event : PoolEvent Answer Value Share}
    (moved : playMove update respond pool move = some (event, last)) :
    PoolStep effects update pool event last ∧ Plays respond move event := by
  obtain ⟨shared, processes⟩ := pool
  cases move with
  | start program =>
    cases moved
    exact ⟨.start program, rfl⟩
  | call index =>
    rw [← List.take_append_drop index processes]
    simp only [playMove] at moved
    split at moved
    · next call resume share after dropped =>
      obtain ⟨answered, responded, nextEq⟩ := Option.map_eq_some_iff.mp moved
      cases nextEq
      rw [dropped]
      exact ⟨.perform (sound call shared answered responded),
        share, call, answered.1, shared, answered.2, rfl, responded⟩
    · cases moved
  | drop index =>
    rw [← List.take_append_drop index processes]
    simp only [playMove] at moved
    split at moved
    · next process after dropped =>
      cases moved
      rw [dropped]
      exact ⟨.drop process, process, rfl⟩
    · cases moved

theorem poolRun_playMoves {moves : List (PoolMove Answer Value)}
    {kept : PoolEvent Answer Value Share → Prop}
    (keeps : ∀ move ∈ moves, ∀ event, Plays respond move event → kept event)
    {events : List (PoolEvent Answer Value Share)}
    (played : playMoves update respond moves pool = some (events, last)) :
    PoolRun effects update pool events last ∧ ∀ event ∈ events, kept event := by
  induction moves generalizing pool events with
  | nil =>
    cases played
    exact ⟨.refl _, by simp⟩
  | cons move moves ih =>
    rw [List.forall_mem_cons] at keeps
    obtain ⟨⟨event, next⟩, moved, continued⟩ := Option.bind_eq_some_iff.mp played
    obtain ⟨⟨later, reached⟩, restPlayed, restEq⟩ := Option.map_eq_some_iff.mp continued
    cases restEq
    obtain ⟨step, plays⟩ := poolStep_playMove sound moved
    obtain ⟨run, keptLater⟩ := ih keeps.2 restPlayed
    exact ⟨.step step run, List.forall_mem_cons.mpr ⟨keeps.1 event plays, keptLater⟩⟩

end AsyncProgram
