import FuboxApi.PostgresExecution

/-!
# The protocol of the plan executor

The executor of a plan runs against any transaction: every call may fail or report any number of
rows. It stops at the first statement that does not succeed and rolls back, and it commits after the
last.
-/

namespace FuboxApi.PostgresExecution

inductive TransactionCall where
  | beginTransaction (answer : ExecutorAnswer Unit)
  | executeStatement (statement : ConsistentLedgerPostgresStatement) (answer : ExecutorAnswer
        ConsistentLedgerPostgresStatementResult)
  | commitTransaction (answer : ExecutorAnswer Unit)
  | rollbackTransaction (answer : ExecutorAnswer Unit)

abbrev AnsweredStatement :=
  ConsistentLedgerPostgresStatement × ExecutorAnswer ConsistentLedgerPostgresStatementResult

/-- The statement was executed, on one row if the plan asks for that. -/
def AnsweredStatement.Succeeded (answered : AnsweredStatement) : Prop :=
  ∃ result, answered.2 = .ok result ∧ result.outcome = .executed ∧
    (answered.1.rowCountExpectation = .exactlyOne → result.rowsAffected = 1)

variable {Executor : Type}

/-- The transaction that also keeps a record of the calls. -/
def recording (methods : ConsistentLedgerPostgresTransactionExecutor Executor) :
    ConsistentLedgerPostgresTransactionExecutor (Executor × List TransactionCall) where
  beginTransaction executor :=
    let (next, answer) := methods.beginTransaction executor.1
    ((next, executor.2 ++ [.beginTransaction answer]), answer)
  executeStatement executor statement :=
    let (next, answer) := methods.executeStatement executor.1 statement
    ((next, executor.2 ++ [.executeStatement statement answer]), answer)
  commitTransaction executor :=
    let (next, answer) := methods.commitTransaction executor.1
    ((next, executor.2 ++ [.commitTransaction answer]), answer)
  rollbackTransaction executor :=
    let (next, answer) := methods.rollbackTransaction executor.1
    ((next, executor.2 ++ [.rollbackTransaction answer]), answer)

/-- The statements that were run: all of them with success, or up to one
without. -/
inductive RanUntilFailure (statements : List ConsistentLedgerPostgresStatement) :
    List AnsweredStatement → Prop
  | completed (ran : List AnsweredStatement) (all : ran.map Prod.fst = statements)
      (succeeded : ∀ answered ∈ ran, answered.Succeeded) : RanUntilFailure statements ran
  | stopped (ran : List AnsweredStatement) (failed : AnsweredStatement)
      (rest : List ConsistentLedgerPostgresStatement)
      (upTo : ran.map Prod.fst ++ failed.1 :: rest = statements)
      (succeeded : ∀ answered ∈ ran, answered.Succeeded) (notSucceeded : ¬ failed.Succeeded) :
      RanUntilFailure statements (ran ++ [failed])

/-- What the statements leave in the record, and when they report a failure. -/
structure RecordsStatements (statements : List ConsistentLedgerPostgresStatement)
    (calls after : List TransactionCall) (error : Option ConsistentLedgerPostgresExecutorError)
    (ran : List AnsweredStatement) :
    Prop where
  calls_eq : after = calls ++ ran.map fun answered => .executeStatement answered.1 answered.2
  untilFailure : RanUntilFailure statements ran
  error_iff : error = none ↔ ∀ answered ∈ ran, answered.Succeeded

variable {methods : ConsistentLedgerPostgresTransactionExecutor Executor}

open AnsweredStatement

section

variable {statement : ConsistentLedgerPostgresStatement}
  {statements : List ConsistentLedgerPostgresStatement}
  {calls after : List TransactionCall} {error : Option ConsistentLedgerPostgresExecutorError}
  {ran : List AnsweredStatement}

theorem enforceStatementRowCount_eq_none {rowsAffected : Nat} :
    enforceStatementRowCount statement rowsAffected = none ↔
      (statement.rowCountExpectation = .exactlyOne → rowsAffected = 1) := by
  unfold enforceStatementRowCount
  split
  · next expectation => by_cases one : rowsAffected = 1 <;> simp [expectation, one]
  · next expectation => simp [expectation]

theorem succeeded_ok_iff {result : ConsistentLedgerPostgresStatementResult} :
    Succeeded (statement, .ok result) ↔ result.outcome ≠ .refused ∧
        enforceStatementRowCount statement result.rowsAffected = none := by
  have executed : result.outcome = .executed ↔ result.outcome ≠ .refused := by
    cases result.outcome <;> simp
  simp [Succeeded, enforceStatementRowCount_eq_none, executed]

variable {failure : ConsistentLedgerPostgresExecutorError}
  {answer : ExecutorAnswer ConsistentLedgerPostgresStatementResult}

theorem not_succeeded_error : ¬ Succeeded (statement, .error failure) := by
  simp [Succeeded]

theorem recordsStatements_failed (failed : ¬ Succeeded (statement, answer)) :
    RecordsStatements (statement :: statements) calls
      (calls ++ [.executeStatement statement answer]) (some failure) [(statement, answer)] where
  calls_eq := rfl
  untilFailure := .stopped [] (statement, answer) statements rfl (by simp) failed
  error_iff := by simpa using failed

theorem RecordsStatements.cons (succeeded : Succeeded (statement, answer))
    (records : RecordsStatements statements (calls ++ [.executeStatement statement answer]) after
      error ran) : RecordsStatements (statement :: statements) calls after error
      ((statement, answer) :: ran) where
  calls_eq := by rw [records.calls_eq]; simp
  untilFailure := by
    cases records.untilFailure with
    | completed _ all others =>
      exact .completed _ (by simp [all]) (List.forall_mem_cons.mpr ⟨succeeded, others⟩)
    | stopped before failed rest upTo others notSucceeded =>
      exact .stopped ((statement, answer) :: before) failed rest (by simp [← upTo])
        (List.forall_mem_cons.mpr ⟨succeeded, others⟩) notSucceeded
  error_iff := by
    rw [records.error_iff, List.forall_mem_cons]
    exact (and_iff_right succeeded).symm

theorem recording_executeStatement {executor next : Executor}
    (answerEq : methods.executeStatement executor statement = (next, answer)) :
    (recording methods).executeStatement (executor, calls) statement =
      ((next, calls ++ [.executeStatement statement answer]), answer) := by
  simp only [recording, answerEq]

theorem executeStatements_records {executor last : Executor}
    {results : List ConsistentLedgerPostgresStatementResult}
    (executed : executeStatements (recording methods) (executor, calls) statements =
      ((last, after), results, error)) :
    ∃ ran, RecordsStatements statements calls after error ran := by
  induction statements generalizing executor calls results with
  | nil =>
    cases executed
    exact ⟨[], by simp, .completed [] rfl (by simp), by simp⟩
  | cons statement rest ih =>
    cases answerEq : methods.executeStatement executor statement with
    | mk next answer =>
      rw [executeStatements, recording_executeStatement answerEq] at executed
      cases answer with
      | error failure =>
        cases executed
        exact ⟨_, recordsStatements_failed not_succeeded_error⟩
      | ok result =>
        dsimp only [sanitizedStatementResult] at executed
        split at executed
        · next refused =>
          cases executed
          refine ⟨_, recordsStatements_failed fun succeeded => ?_⟩
          exact (succeeded_ok_iff.mp succeeded).1 refused
        · next notRefused =>
          split at executed
          · next failure mismatch =>
            cases executed
            refine ⟨_, recordsStatements_failed fun succeeded => ?_⟩
            rw [(succeeded_ok_iff.mp succeeded).2] at mismatch
            cases mismatch
          · next matching =>
            cases restEq : executeStatements (recording methods)
              (next, calls ++ [.executeStatement statement (.ok result)]) rest with
            | mk reached outcome =>
              rw [restEq] at executed
              cases executed
              obtain ⟨ran, records⟩ := ih restEq
              exact ⟨_, records.cons (succeeded_ok_iff.mpr ⟨notRefused, matching⟩)⟩

theorem executeStatements_recording (methods : ConsistentLedgerPostgresTransactionExecutor Executor)
    (statements : List ConsistentLedgerPostgresStatement) (executor : Executor)
    (calls : List TransactionCall) :
    ∃ after, executeStatements (recording methods) (executor, calls) statements =
      (((executeStatements methods executor statements).1, after),
        (executeStatements methods executor statements).2) := by
  induction statements generalizing executor calls with
  | nil => exact ⟨calls, rfl⟩
  | cons statement rest ih =>
    cases answerEq : methods.executeStatement executor statement with
    | mk next answer =>
      obtain ⟨after, restEq⟩ := ih next (calls ++ [.executeStatement statement answer])
      rw [executeStatements, executeStatements, recording_executeStatement answerEq, answerEq]
      cases answer with
      | error failure => exact ⟨_, rfl⟩
      | ok result =>
        dsimp only [sanitizedStatementResult]
        split
        · exact ⟨_, rfl⟩
        · split
          · exact ⟨_, rfl⟩
          · rw [restEq]
            exact ⟨_, rfl⟩

end

/-! ## The calls of a plan -/

/-- The calls that executing a plan makes. -/
def recordedCalls (methods : ConsistentLedgerPostgresTransactionExecutor Executor)
    (executor : Executor) (plan : ConsistentLedgerPostgresExecutionPlan) : List TransactionCall :=
  (executeConsistentLedgerPostgresPlan (recording methods) (executor, []) plan).1.2

/-- The record of a transaction that begins, runs statements and ends. -/
def transactionRecord (ran : List AnsweredStatement) (ending : List TransactionCall) :
    List TransactionCall :=
  .beginTransaction (.ok ()) ::
    ran.map (fun answered => .executeStatement answered.1 answered.2) ++ ending

/-- The four ways in which executing a plan ends, by what beginning the
transaction answers. -/
inductive FollowsProtocol (statements : List ConsistentLedgerPostgresStatement) :
    ExecutorAnswer Unit → List TransactionCall → ConsistentLedgerPostgresExecutorOutcome → Prop
  | notBegun (error : ConsistentLedgerPostgresExecutorError) :
      FollowsProtocol statements (.error error) [.beginTransaction (.error error)] .rolledBack
  | stopped (ran : List AnsweredStatement) (untilFailure : RanUntilFailure statements ran)
      (failed : ¬ ∀ answered ∈ ran, answered.Succeeded)
      (rollback : ExecutorAnswer Unit) :
      FollowsProtocol statements (.ok ())
        (transactionRecord ran [.rollbackTransaction rollback]) .rolledBack
  | commitFailed (ran : List AnsweredStatement) (untilFailure : RanUntilFailure statements ran)
      (succeeded : ∀ answered ∈ ran, answered.Succeeded)
      (error : ConsistentLedgerPostgresExecutorError)
      (rollback : ExecutorAnswer Unit) :
      FollowsProtocol statements (.ok ()) (transactionRecord ran
          [.commitTransaction (.error error), .rollbackTransaction rollback]) .rolledBack
  | committed (ran : List AnsweredStatement) (untilFailure : RanUntilFailure statements ran)
      (succeeded : ∀ answered ∈ ran, answered.Succeeded)
      (outcome : ConsistentLedgerPostgresExecutorOutcome)
      (reported : outcome = .applied ∨ outcome = .idempotent) :
      FollowsProtocol statements (.ok ())
        (transactionRecord ran [.commitTransaction (.ok ())]) outcome

/-- Whatever the transaction answers: if it begins, the statements run in the
order of the plan without gaps up to the first that does not succeed, which is
followed by one rollback and no commit. The commit is attempted just when all of
them have succeeded, and a plan reported as applied or idempotent was committed. -/
theorem transaction_protocol (methods : ConsistentLedgerPostgresTransactionExecutor Executor)
    (executor : Executor) (plan : ConsistentLedgerPostgresExecutionPlan) :
    FollowsProtocol plan.sqlStatements (methods.beginTransaction executor).2
      (recordedCalls methods executor plan)
      (executeConsistentLedgerPostgresPlan methods executor plan).2.outcome := by
  unfold recordedCalls executeConsistentLedgerPostgresPlan
  cases beginEq : methods.beginTransaction executor with
  | mk started begun =>
    have recordedBegin : (recording methods).beginTransaction (executor, []) =
        ((started, [.beginTransaction begun]), begun) := by
      simp [recording, beginEq]
    rw [recordedBegin]
    cases begun with
    | error error => exact .notBegun error
    | ok =>
      obtain ⟨after, recordedEq⟩ := executeStatements_recording methods plan.sqlStatements
        started [.beginTransaction (.ok ())]
      cases executedEq : executeStatements methods started plan.sqlStatements with
      | mk stopped reported =>
        obtain ⟨results, error⟩ := reported
        rw [executedEq] at recordedEq
        obtain ⟨ran, callsEq, untilFailure, errorIff⟩ := executeStatements_records recordedEq
        dsimp only
        rw [recordedEq, callsEq, executedEq]
        cases error with
        | some error =>
          have failed : ¬ ∀ answered ∈ ran, answered.Succeeded := by
            rw [← errorIff]
            exact Option.some_ne_none error
          exact .stopped ran untilFailure failed (methods.rollbackTransaction stopped).2
        | none =>
          have succeeded := errorIff.mp rfl
          cases commitEq : methods.commitTransaction stopped with
          | mk ended committed =>
            cases committed with
            | error error =>
              simp only [recording, commitEq, rolledBackResult, List.append_assoc]
              exact .commitFailed ran untilFailure succeeded error
                (methods.rollbackTransaction ended).2
            | ok =>
              simp only [recording, commitEq]
              refine .committed ran untilFailure succeeded _ ?_
              cases plan.outcome with
              | apply => exact .inl rfl
              | idempotent => exact .inr rfl

end FuboxApi.PostgresExecution
