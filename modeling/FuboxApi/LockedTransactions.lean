import FuboxApi.AsyncPrograms
import FuboxApi.CheckedFold
import FuboxApi.TransitionRuns
import Mathlib.Data.List.Perm.Basic

/-!
# Transactions under locks

Transactions run statement by statement, in any order. A statement sees the committed database with
what its own transaction has written, waits for its locks, and may fail, which rolls the transaction
back. Locks are held until the commit.

A lock stands for a part of the database. If every statement reads and writes only parts that its
transaction has locked, every commit does what its transaction would have done alone.
-/

/-- What a statement does in the version of the database that it sees. -/
structure ExecutedStatement (Lock Write Answer : Type) where
  locks : List Lock
  answer : Answer
  writes : List Write

/-- The statements of a database and the transactions that are made of them. A
transaction that ends with an error is rolled back. -/
structure TransactionSystem {Call : Type} (Answer : Call → Type)
    (Db Lock Write Error Request Value : Type) where
  apply : Db → Write → Db
  execute : (call : Call) → Db → Except Error (ExecutedStatement Lock Write (Answer call))
  program : Request → AsyncProgram Answer (Except Error Value)

namespace TransactionSystem

variable {Call : Type} {Answer : Call → Type} {Db Lock Write Error Request Value : Type}

/-- A transaction that is under way, with what it has written and locked. -/
structure Transaction (Answer : Call → Type) (Lock Write Error Request Value : Type) where
  request : Request
  program : AsyncProgram Answer (Except Error Value)
  writes : List Write
  held : List Lock

/-- A transaction that has committed, with the databases around it. -/
structure Commit (Db Request Value : Type) where
  request : Request
  value : Value
  before : Db
  after : Db

/-- The committed database, the transactions that are under way, and the commits
with the last one first. -/
structure Server (Answer : Call → Type) (Db Lock Write Error Request Value : Type) where
  committed : Db
  active : List (Transaction Answer Lock Write Error Request Value)
  commits : List (Commit Db Request Value)

/-- What happens next: a transaction begins, or one of those under way executes
a statement, commits or is rolled back. -/
inductive Action (Request : Type) where
  | begin (request : Request)
  | statement (index : ℕ)
  | commit (index : ℕ)
  | rollback (index : ℕ)

variable (system : TransactionSystem Answer Db Lock Write Error Request Value)

/-- The database that a transaction sees. -/
def view (database : Db) (writes : List Write) : Db :=
  writes.foldl system.apply database

@[simp]
theorem view_nil (database : Db) : system.view database [] = database :=
  rfl

theorem view_append (database : Db) (earlier later : List Write) :
    system.view database (earlier ++ later) = system.view (system.view database earlier) later :=
  List.foldl_append

section

variable [DecidableEq Lock] (server : Server Answer Db Lock Write Error Request Value)
  (transaction : Transaction Answer Lock Write Error Request Value)
  (others : List (Transaction Answer Lock Write Error Request Value))

/-- The next statement of a transaction. It waits as long as another transaction
has one of its locks. -/
def executeNext : Server Answer Db Lock Write Error Request Value :=
  match transaction.program with
  | .done _ => server
  | .await call resume =>
    match system.execute call (system.view server.committed transaction.writes) with
    | .error _ => { server with active := others }
    | .ok executed =>
      if ∀ other ∈ others, ∀ lock ∈ executed.locks, lock ∉ other.held then
        { server with active := ⟨transaction.request, resume executed.answer,
            transaction.writes ++ executed.writes, executed.locks ++ transaction.held⟩ :: others }
      else server

def commitAt : Server Answer Db Lock Write Error Request Value :=
  match transaction.program with
  | .done (.ok value) =>
    let after := system.view server.committed transaction.writes
    ⟨after, others, ⟨transaction.request, value, server.committed, after⟩ :: server.commits⟩
  | _ => server

/-- One step of the server; what is not possible changes nothing. -/
def step (action : Action Request) : Server Answer Db Lock Write Error Request Value × Unit :=
  match action with
  | .begin request =>
    ({ server with active := ⟨request, system.program request, [], []⟩ :: server.active }, ())
  | .statement index =>
    match server.active[index]? with
    | some transaction =>
      (system.executeNext server transaction (server.active.eraseIdx index), ())
    | none => (server, ())
  | .commit index =>
    match server.active[index]? with
    | some transaction =>
      (system.commitAt server transaction (server.active.eraseIdx index), ())
    | none => (server, ())
  | .rollback index => ({ server with active := server.active.eraseIdx index }, ())

/-- The server after some actions, from a database on which nothing is under way. -/
def serverAfter (initial : Db) (actions : List (Action Request)) :
    Server Answer Db Lock Write Error Request Value :=
  TransitionRuns.stateAfter system.step ⟨initial, [], []⟩ actions

theorem committed_step_of_error {server : Server Answer Db Lock Write Error Request Value}
    {index : ℕ} {transaction : Transaction Answer Lock Write Error Request Value} {error : Error}
    (found : server.active[index]? = some transaction)
    (failed : transaction.program = .done (.error error)) {action : Action Request}
    (own : action = .statement index ∨ action = .commit index ∨ action = .rollback index) :
    (system.step server action).1.committed = server.committed := by
  rcases own with rfl | rfl | rfl
  · simp only [step, found, executeNext, failed]
  · simp only [step, found, commitAt, failed]
  · rfl

end

/-! ## Transactions that run alone -/

/-- The rest of a program on a database that nobody else changes. -/
def runAlone (database : Db) :
    AsyncProgram Answer (Except Error Value) → List Write → Except Error (Value × Db)
  | .done result, writes => result.map fun value => (value, system.view database writes)
  | .await call resume, writes =>
    (system.execute call (system.view database writes)).bind fun executed =>
      runAlone database (resume executed.answer) (writes ++ executed.writes)

/-- A transaction that runs alone. -/
def serial (database : Db) (request : Request) : Except Error (Value × Db) :=
  system.runAlone database (system.program request) []

/-- Transactions that run one after another, the last one first, with their values. -/
def serially (database : Db) : List Request → Except Error (List Value × Db)
  | [] => .ok ([], database)
  | request :: earlier => do
    let (values, current) ← serially database earlier
    let (value, next) ← system.serial current request
    return (value :: values, next)

/-- The part of the database that each lock stands for. A write changes the
parts under its own locks only; what no lock stands for is not written. Where a
statement reads what its transaction has not locked, `permits` says what it may
have read; everywhere else it is what the statement does. -/
structure LockParts (Outside Part : Type) where
  outside : Db → Outside
  part : Lock → Db → Part
  locksOf : Write → List Lock
  outside_apply : ∀ database write, outside (system.apply database write) = outside database
  part_apply : ∀ {lock write}, lock ∉ locksOf write → ∀ database,
    part lock (system.apply database write) = part lock database
  part_apply_congr : ∀ {lock database other}, part lock database = part lock other → ∀ write,
    part lock (system.apply database write) = part lock (system.apply other write)
  permits : (call : Call) → Db → ExecutedStatement Lock Write (Answer call) → Prop
  permits_of_execute : ∀ {call database executed},
    system.execute call database = .ok executed → permits call database executed

variable {system} {call : Call} {database : Db} {writes : List Write}

namespace LockParts

variable {Outside Part : Type} (parts : system.LockParts Outside Part)
  {other : Db} {locks held : List Lock}

/-- A transaction that runs alone gets to a point of its program, with what it
has written and locked by then. -/
inductive Reached (database : Db) (request : Request) :
    AsyncProgram Answer (Except Error Value) → List Write → List Lock → Prop
  | start : Reached database request (system.program request) [] []
  | next {call : Call} {resume : Answer call → AsyncProgram Answer (Except Error Value)}
      {writes : List Write} {held : List Lock}
      {executed : ExecutedStatement Lock Write (Answer call)}
      (earlier : Reached database request (.await call resume) writes held)
      (permitted : parts.permits call (system.view database writes) executed) :
      Reached database request (resume executed.answer) (writes ++ executed.writes)
        (executed.locks ++ held)

/-- Commits, the last one first, each of which does what its transaction does
alone on the database that the commits before it leave. -/
inductive SerialHistory (initial : Db) : List (Commit Db Request Value) → Db → Prop
  | nil : SerialHistory initial [] initial
  | commit {commits : List (Commit Db Request Value)} {before : Db} {request : Request}
      {value : Value} {writes : List Write} {held : List Lock}
      (earlier : SerialHistory initial commits before)
      (reached : parts.Reached before request (.done (.ok value)) writes held) :
      SerialHistory initial (⟨request, value, before, system.view before writes⟩ :: commits)
        (system.view before writes)

/-- The rest of a program, alone on a database, comes to an end with a value and
with these writes. -/
def EndsWith (database : Db) (value : Value) (written : List Write) :
    AsyncProgram Answer (Except Error Value) → List Write → Prop
  | .done result, writes => result = .ok value ∧ writes = written
  | .await call resume, writes =>
    ∃ executed, parts.permits call (system.view database writes) executed ∧
      EndsWith database value written (resume executed.answer) (writes ++ executed.writes)

/-- Two databases are the same under some locks and where there is no lock. -/
structure Agree (locks : List Lock) (database other : Db) : Prop where
  outside : parts.outside database = parts.outside other
  part : ∀ lock ∈ locks, parts.part lock database = parts.part lock other

variable {parts}

theorem Agree.of_subset (agree : parts.Agree locks database other) (subset : held ⊆ locks) :
    parts.Agree held database other :=
  ⟨agree.outside, fun lock member => agree.part lock (subset member)⟩

theorem Agree.view (agree : parts.Agree locks database other) (writes : List Write) :
    parts.Agree locks (system.view database writes) (system.view other writes) := by
  induction writes generalizing database other with
  | nil => exact agree
  | cons write rest ih =>
    refine ih ⟨?_, fun lock member => parts.part_apply_congr (agree.part lock member) write⟩
    rw [parts.outside_apply, parts.outside_apply]
    exact agree.outside

theorem agree_view (apart : ∀ write ∈ writes, ∀ lock ∈ locks, lock ∉ parts.locksOf write) :
    parts.Agree locks database (system.view database writes) := by
  induction writes generalizing database with
  | nil => exact ⟨rfl, fun _ _ => rfl⟩
  | cons write rest ih =>
    have afterRest : parts.Agree locks (system.apply database write)
        (system.view (system.apply database write) rest) :=
      ih fun next member => apart next (List.mem_cons_of_mem _ member)
    refine ⟨?_, fun lock member => ?_⟩
    · exact (parts.outside_apply database write).symm.trans afterRest.outside
    · have unchanged := parts.part_apply (apart write List.mem_cons_self lock member) database
      exact unchanged.symm.trans (afterRest.part lock member)

/-! ## Guarded transactions -/

variable (parts)

/-- With these locks, a statement reads and writes under the locks that its
transaction has after it. -/
structure Guards (held : List Lock) (call : Call) : Prop where
  reads : ∀ {database other executed}, parts.permits call database executed →
    parts.Agree (executed.locks ++ held) database other → parts.permits call other executed
  writes : ∀ {database executed}, parts.permits call database executed →
    ∀ write ∈ executed.writes, parts.locksOf write ⊆ executed.locks ++ held

def Guarded (held : List Lock) : AsyncProgram Answer (Except Error Value) → Prop
  | .done _ => True
  | .await call resume => parts.Guards held call ∧
      ∀ database executed, parts.permits call database executed →
        Guarded (executed.locks ++ held) (resume executed.answer)

variable {parts}

section

variable {request : Request} {program : AsyncProgram Answer (Except Error Value)}

section

variable (guarded : parts.Guarded [] (system.program request))

include guarded

variable (reached : parts.Reached database request program writes held)

include reached

theorem guarded_of_reached : parts.Guarded held program := by
  induction reached with
  | start => exact guarded
  | next _ permitted ih => exact ih.2 _ _ permitted

theorem writes_locked_of_reached : ∀ write ∈ writes, parts.locksOf write ⊆ held := by
  induction reached with
  | start => exact fun _ member => absurd member List.not_mem_nil
  | next earlier permitted ih =>
    intro write member
    rcases List.mem_append.mp member with written | new
    · exact List.Subset.trans (ih write written) (List.subset_append_right _ _)
    · exact (guarded_of_reached guarded earlier).1.writes permitted write new

theorem reached_of_agree (agree : parts.Agree held database other) :
    parts.Reached other request program writes held := by
  induction reached with
  | start => exact .start
  | next earlier permitted ih =>
    refine .next (ih (agree.of_subset (List.subset_append_right _ _))) ?_
    exact (guarded_of_reached guarded earlier).1.reads permitted (agree.view _)

end

theorem serial_of_reached
    (precise : ∀ call database executed, parts.permits call database executed →
      system.execute call database = .ok executed)
    (reached : parts.Reached database request program writes held) :
    system.serial database request = system.runAlone database program writes := by
  induction reached with
  | start => rfl
  | next _ permitted ih => rw [ih, runAlone, precise _ _ _ permitted, Except.bind]

variable {value : Value}

theorem endsWith_of_reached
    (reached : parts.Reached database request (.done (.ok value)) writes held) :
    parts.EndsWith database value writes (system.program request) [] := by
  have backwards : ∀ {program earlier held written},
      parts.Reached database request program earlier held →
        parts.EndsWith database value written program earlier →
          parts.EndsWith database value written (system.program request) [] := by
    intro program earlier held written reached
    induction reached with
    | start => exact id
    | next _ permitted ih => exact fun ends => ih ⟨_, permitted, ends⟩
  exact backwards reached ⟨rfl, rfl⟩

end

/-! ## Every interleaving -/

variable (parts) in
/-- The commits are serial, every transaction under way is where it would be had
it run alone on the committed database, and no lock is held twice. -/
structure Serialized (initial : Db) (server : Server Answer Db Lock Write Error Request Value) :
    Prop where
  history : parts.SerialHistory initial server.commits server.committed
  reached : ∀ transaction ∈ server.active, parts.Reached server.committed transaction.request
    transaction.program transaction.writes transaction.held
  exclusive : server.active.Pairwise fun transaction other =>
    transaction.held.Disjoint other.held

namespace Serialized

variable {initial : Db} {server : Server Answer Db Lock Write Error Request Value}
  {transaction : Transaction Answer Lock Write Error Request Value}
  {others : List (Transaction Answer Lock Write Error Request Value)}

theorem of_perm (serialized : parts.Serialized initial server) (perm : others.Perm server.active) :
    parts.Serialized initial { server with active := others } where
  history := serialized.history
  reached transaction member := serialized.reached transaction (perm.mem_iff.mp member)
  exclusive := (perm.pairwise_iff List.disjoint_symm).mpr serialized.exclusive

theorem of_tail
    (serialized : parts.Serialized initial { server with active := transaction :: others }) :
    parts.Serialized initial { server with active := others } where
  history := serialized.history
  reached other member := serialized.reached other (List.mem_cons_of_mem _ member)
  exclusive := serialized.exclusive.of_cons

theorem begin (serialized : parts.Serialized initial server) (request : Request) :
    parts.Serialized initial
      { server with active := ⟨request, system.program request, [], []⟩ :: server.active } where
  history := serialized.history
  reached transaction member := by
    rcases List.mem_cons.mp member with rfl | earlier
    · exact .start
    · exact serialized.reached transaction earlier
  exclusive := List.pairwise_cons.mpr ⟨fun _ _ => List.disjoint_nil_left _, serialized.exclusive⟩

theorem executeNext [DecidableEq Lock]
    (serialized : parts.Serialized initial { server with active := transaction :: others })
    (waiting : parts.Serialized initial server) :
    parts.Serialized initial (system.executeNext server transaction others) := by
  unfold TransactionSystem.executeNext
  split
  · exact waiting
  · next call resume programEq =>
    split
    · exact serialized.of_tail
    · next executed execution =>
      split
      · next free =>
        have reached := serialized.reached transaction List.mem_cons_self
        rw [programEq] at reached
        refine ⟨serialized.history, ?_, ?_⟩
        · intro other member
          rcases List.mem_cons.mp member with rfl | earlier
          · exact reached.next (parts.permits_of_execute execution)
          · exact serialized.reached other (List.mem_cons_of_mem _ earlier)
        · obtain ⟨disjoint, rest⟩ := List.pairwise_cons.mp serialized.exclusive
          refine List.pairwise_cons.mpr ⟨fun other member => ?_, rest⟩
          refine List.disjoint_append_left.mpr ⟨?_, disjoint other member⟩
          exact fun lock taken => free other member lock taken
      · exact waiting

variable (guarded : ∀ request, parts.Guarded [] (system.program request))

include guarded

theorem commitAt
    (serialized : parts.Serialized initial { server with active := transaction :: others })
    (waiting : parts.Serialized initial server) :
    parts.Serialized initial (system.commitAt server transaction others) := by
  unfold TransactionSystem.commitAt
  split
  · next value programEq =>
    have reached := serialized.reached transaction List.mem_cons_self
    rw [programEq] at reached
    obtain ⟨disjoint, rest⟩ := List.pairwise_cons.mp serialized.exclusive
    refine ⟨.commit serialized.history reached, ?_, rest⟩
    intro other member
    -- the others have locked nothing that the transaction has written to
    refine reached_of_agree (guarded other.request)
      (serialized.reached other (List.mem_cons_of_mem _ member)) (agree_view ?_)
    intro write written lock locked
    have lies := writes_locked_of_reached (guarded _) reached write written
    exact fun touched => disjoint other member (lies touched) locked
  · exact waiting

theorem step [DecidableEq Lock] (serialized : parts.Serialized initial server)
    (action : Action Request) : parts.Serialized initial (system.step server action).1 := by
  have front : ∀ {index transaction}, server.active[index]? = some transaction →
      parts.Serialized initial
        { server with active := transaction :: server.active.eraseIdx index } := by
    intro index transaction found
    obtain ⟨inRange, rfl⟩ := List.getElem?_eq_some_iff.mp found
    exact serialized.of_perm (List.getElem_cons_eraseIdx_perm inRange)
  unfold TransactionSystem.step
  split
  · exact serialized.begin _
  · split
    · next found => exact executeNext (front found) serialized
    · exact serialized
  · split
    · next found => exact commitAt guarded (front found) serialized
    · exact serialized
  · next index =>
    have sublist := List.eraseIdx_sublist server.active index
    exact ⟨serialized.history, fun other member => serialized.reached other (sublist.subset member),
      serialized.exclusive.sublist sublist⟩

end Serialized

theorem serialHistory_serverAfter [DecidableEq Lock]
    (guarded : ∀ request, parts.Guarded [] (system.program request)) (initial : Db)
    (actions : List (Action Request)) :
    parts.SerialHistory initial (system.serverAfter initial actions).commits
      (system.serverAfter initial actions).committed :=
  (TransitionRuns.stateAfter_invariant (parts.Serialized initial)
    (fun _ action serialized => serialized.step guarded action)
    ⟨.nil, fun _ member => absurd member List.not_mem_nil, .nil⟩ actions).history

/-- By induction on the commits: each is what its transaction does alone after the earlier ones. -/
theorem serially_of_history (precise : ∀ call database executed,
      parts.permits call database executed → system.execute call database = .ok executed)
    {initial database : Db} {commits : List (Commit Db Request Value)}
    (history : parts.SerialHistory initial commits database) :
    system.serially initial (commits.map (·.request)) = .ok (commits.map (·.value), database) := by
  induction history with
  | nil => rfl
  | commit _ reached ih =>
    have alone := serial_of_reached precise reached
    exact CheckedFold.bind_eq_ok.mpr ⟨_, ih, CheckedFold.bind_eq_ok.mpr ⟨_, alone, rfl⟩⟩

end LockParts

end TransactionSystem
