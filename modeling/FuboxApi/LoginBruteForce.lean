import FuboxApi.LoginRateLimit
import FuboxApi.ProcessPools
import FuboxApi.TransitionRuns

/-!
# How many passwords can be tried

The limiter learns of a failure only after the password was compared, so every handler that has
passed the check and has not reported may still add one. The maximum is kept if a check counts these
as well.
-/

namespace FuboxApi

open AsyncProgram TransitionRuns

/-! ## The counts of the limiter -/

/-- The maximum that the limiter works with. -/
def LoginFailureRateLimitPolicy.limit (policy : LoginFailureRateLimitPolicy) : Nat :=
  policy.sanitized.maxFailures.toNat

def failuresOf (state : Option LoginFailureRateLimitState) : Nat :=
  state.elim 0 (·.failureCount.toNat)

/-- The failures of an entry whose window is not over. -/
def activeFailures (policy : LoginFailureRateLimitPolicy) (nowEpochSeconds : UInt64)
    (state : Option LoginFailureRateLimitState) : Nat :=
  failuresOf (activeLoginFailureState state nowEpochSeconds policy.sanitized)

section

variable (policy : LoginFailureRateLimitPolicy) (nowEpochSeconds : UInt64)
  (state : Option LoginFailureRateLimitState)

theorem limit_pos : 0 < policy.limit := by
  change 0 < (if policy.maxFailures ≤ 1 then (1 : UInt32) else policy.maxFailures).toNat
  split
  · decide
  · next above =>
    have above := UInt32.lt_iff_toNat_lt.mp (UInt32.not_le.mp above)
    omega

theorem activeLoginFailureState_cases :
    activeLoginFailureState state nowEpochSeconds policy = none ∨
      activeLoginFailureState state nowEpochSeconds policy = state := by
  unfold activeLoginFailureState
  cases state with
  | none => exact .inl rfl
  | some state =>
    rw [Option.filter_some]
    split
    · exact .inr rfl
    · exact .inl rfl

theorem activeFailures_le : activeFailures policy nowEpochSeconds state ≤ failuresOf state := by
  rcases activeLoginFailureState_cases policy.sanitized nowEpochSeconds state with
    expired | current
  · rw [activeFailures, expired]
    exact Nat.zero_le _
  · rw [activeFailures, current]

theorem failureCount_evaluate :
    (evaluateLoginFailureRateLimit state nowEpochSeconds policy).failureCount.toNat =
      activeFailures policy nowEpochSeconds state := by
  unfold evaluateLoginFailureRateLimit activeFailures
  dsimp only
  cases activeLoginFailureState state nowEpochSeconds policy.sanitized with
  | none => rfl
  | some state =>
    dsimp only
    split <;> rfl

theorem isLimited_evaluate :
    (evaluateLoginFailureRateLimit state nowEpochSeconds policy).isLimited = true ↔
      policy.limit ≤ activeFailures policy nowEpochSeconds state := by
  unfold evaluateLoginFailureRateLimit activeFailures
  dsimp only
  cases activeLoginFailureState state nowEpochSeconds policy.sanitized with
  | none =>
    have positive := limit_pos policy
    simp only [Bool.false_eq_true, failuresOf, Option.elim_none, false_iff]
    omega
  | some state =>
    have order : policy.sanitized.maxFailures ≤ state.failureCount ↔
        policy.limit ≤ failuresOf (some state) := UInt32.le_iff_toNat_le
    rw [← order]
    dsimp only
    split
    · next limited => simp [limited]
    · next free => simp [free]

theorem failuresOf_recordLoginFailure :
    failuresOf (some (recordLoginFailure state nowEpochSeconds policy)) =
      match activeLoginFailureState state nowEpochSeconds policy.sanitized with
      | none => 1
      | some active => min (active.failureCount.toNat + 1) 0xFFFFFFFF := by
  unfold recordLoginFailure
  cases activeLoginFailureState state nowEpochSeconds policy.sanitized with
  | none => rfl
  | some active =>
    have bounded := active.failureCount.toNat_lt
    simp only [failuresOf, Option.elim_some]
    split
    · next saturated => simp [saturated]
    · next below =>
      have notMax : active.failureCount.toNat ≠ 0xFFFFFFFF :=
        fun same => below (UInt32.toNat_inj.mp same)
      rw [UInt32.toNat_add]
      simp only [UInt32.toNat_one]
      omega

end

/-! ## Handlers report under the key that they were let pass with -/

section

variable (digest : Bytes → String)

/-- A failure is reported under the key of the check, and an account whose hash refused
the password has that key. -/
def loginRequires : LoginCall → Option AdminLoginFailureRateLimitKey → Prop
  | .check _ _, admitted => admitted = none
  | .recordFailure key _ refused, admitted =>
    admitted = some key ∧ ∀ account ∈ refused, account.key digest = key
  | _, _ => True

def FoundUnderKey (email : String) : Except Unit (Option LoginAccount) → Prop
  | .ok (some account) => account.key digest = adminLoginFailureRateLimitKey digest email
  | _ => True

instance (email : String) : ∀ found, Decidable (FoundUnderKey digest email found)
  | .ok (some _) => inferInstanceAs (Decidable (_ = _))
  | .ok none => instDecidableTrue
  | .error _ => instDecidableTrue

def loginPermits (_ : Option AdminLoginFailureRateLimitKey) :
    (call : LoginCall) → call.Answer → Prop
  | .findUser email, found => FoundUnderKey digest email found
  | _, _ => True

def loginContract : CallContract LoginCall.Answer (Option AdminLoginFailureRateLimitKey) :=
  shareContract LoginSystem.admittedAfter (loginRequires digest) (loginPermits digest)

/-- From this point on a handler keeps to the contract. -/
def KeepsToKey (program : LoginProgram) (admitted : Option AdminLoginFailureRateLimitKey) : Prop :=
  program.Meets (loginContract digest) (fun _ _ => True) admitted

variable {digest} {key : AdminLoginFailureRateLimitKey} {request : LoginRequest}
  {account : LoginAccount} {admitted : Option AdminLoginFailureRateLimitKey} {email : String}

theorem keepsToKey_pure (outcome : LoginOutcome) : KeepsToKey digest (pure outcome) admitted :=
  trivial

variable {nowEpochSeconds : UInt64}

theorem keepsToKey_recordLoginFailureError {refused : Option LoginAccount}
    (ofKey : ∀ account ∈ refused, account.key digest = key) :
    KeepsToKey digest (Login.recordLoginFailureError key nowEpochSeconds refused) (some key) :=
  meets_perform_bind ⟨rfl, ofKey⟩ fun _ _ => keepsToKey_pure _

theorem keepsToKey_noAccount :
    KeepsToKey digest (Login.recordLoginFailureError key nowEpochSeconds none) (some key) :=
  keepsToKey_recordLoginFailureError fun _ none => absurd none (by simp)

theorem keepsToKey_refused (ofKey : account.key digest = key) :
    KeepsToKey digest (Login.recordLoginFailureError key nowEpochSeconds (some account))
      (some key) :=
  keepsToKey_recordLoginFailureError fun _ same => Option.some.inj same ▸ ofKey

theorem keepsToKey_startAdminSession :
    KeepsToKey digest (Login.startAdminSession key account) (some key) := by
  refine meets_perform_bind trivial fun created _ => ?_
  cases created with
  | error failure => exact keepsToKey_pure _
  | ok _ => exact meets_perform_bind trivial fun _ _ => keepsToKey_pure _

theorem keepsToKey_verifyAdmin {passwordHash : String} (ofKey : account.key digest = key) :
    KeepsToKey digest (Login.verifyAdmin key request account passwordHash) (some key) := by
  refine meets_perform_bind trivial fun verified _ => ?_
  rcases verified with _ | (_ | _)
  · exact keepsToKey_noAccount
  · exact keepsToKey_refused ofKey
  · exact keepsToKey_startAdminSession

theorem keepsToKey_findAccount {verify : LoginAccount → String → LoginProgram}
    (keepsToKey_verify : ∀ {account passwordHash},
      account.key digest = adminLoginFailureRateLimitKey digest email →
        KeepsToKey digest (verify account passwordHash)
          (some (adminLoginFailureRateLimitKey digest email))) :
    KeepsToKey digest
      (Login.findAccount verify (adminLoginFailureRateLimitKey digest email) request email)
      (some (adminLoginFailureRateLimitKey digest email)) := by
  refine meets_perform_bind trivial fun found underKey => ?_
  rcases found with _ | (_ | account)
  · exact keepsToKey_pure _
  · exact keepsToKey_noAccount
  · have ofKey : account.key digest = _ := underKey
    dsimp only
    cases account.passwordHash with
    | none => exact keepsToKey_noAccount
    | some passwordHash => exact keepsToKey_verify ofKey

theorem keepsToKey_adminLogin (digest : Bytes → String) (request : LoginRequest) :
    KeepsToKey digest (Login.adminLogin digest request) none := by
  refine meets_perform_bind rfl fun decision _ => ?_
  simp only [LoginSystem.admittedAfter]
  split
  · exact keepsToKey_pure _
  · split
    · exact keepsToKey_noAccount
    · exact keepsToKey_findAccount keepsToKey_verifyAdmin

theorem keepsToKey_verifyUser {hash : String} (ofKey : account.key digest = key) :
    KeepsToKey digest (Login.verifyUser key request account hash) (some key) := by
  refine meets_perform_bind trivial fun verified _ => ?_
  rcases verified with _ | (_ | _)
  · exact keepsToKey_pure _
  · exact keepsToKey_refused ofKey
  · refine meets_perform_bind trivial fun _ _ => meets_perform_bind trivial fun created _ => ?_
    cases created with
    | error failure | ok _ => exact keepsToKey_pure _

theorem keepsToKey_userLogin (digest : Bytes → String) (request : LoginRequest) :
    KeepsToKey digest (Login.userLogin digest request) none := by
  unfold Login.userLogin
  split
  · exact keepsToKey_pure _
  · split
    · exact keepsToKey_pure _
    · refine meets_perform_bind rfl fun decision _ => ?_
      simp only [LoginSystem.admittedAfter]
      split
      · exact keepsToKey_pure _
      · exact keepsToKey_findAccount keepsToKey_verifyUser

end

/-! ## What the calls do to the counts -/

namespace LoginStore

/-- The failures that the entry of a key has. -/
def stored (store : LoginStore) (key : AdminLoginFailureRateLimitKey) : Nat :=
  failuresOf (store.failures key)

/-- No account was refused more often than the entry of its key says. -/
def RefusalsCounted (digest : Bytes → String) (store : LoginStore) : Prop :=
  ∀ account, store.refusals account ≤ store.stored (account.key digest)

variable {digest : Bytes → String} {policy : LoginFailureRateLimitPolicy}
  {store : LoginStore} {key : AdminLoginFailureRateLimitKey} {nowEpochSeconds : UInt64}

@[simp]
theorem stored_endWindow (other : AdminLoginFailureRateLimitKey) :
    (store.endWindow digest key).stored other = if other = key then 0 else store.stored other := by
  by_cases same : other = key
  · subst same
    simp [stored, endWindow, failuresOf]
  · simp [stored, endWindow, same]

theorem RefusalsCounted.endWindow (counted : store.RefusalsCounted digest) :
    (store.endWindow digest key).RefusalsCounted digest := by
  intro account
  rw [stored_endWindow]
  by_cases same : account.key digest = key
  · simp [LoginStore.endWindow, same]
  · simpa [LoginStore.endWindow, same] using counted account

theorem stored_check (other : AdminLoginFailureRateLimitKey) :
    (store.check digest policy key nowEpochSeconds).2.stored other =
      if other = key then activeFailures policy nowEpochSeconds (store.failures key)
      else store.stored other := by
  have countEq := failureCount_evaluate policy nowEpochSeconds (store.failures key)
  unfold check
  dsimp only
  split
  · next noFailures =>
    rw [stored_endWindow]
    rw [noFailures] at countEq
    rw [← countEq]
    rfl
  · next someFailures =>
    split
    · next same =>
      subst same
      rcases activeLoginFailureState_cases policy.sanitized nowEpochSeconds
        (store.failures other) with expired | current
      · rw [activeFailures, expired] at countEq
        exact absurd (UInt32.toNat_inj.mp countEq) someFailures
      · rw [activeFailures, current]
        rfl
    · rfl

theorem RefusalsCounted.check (counted : store.RefusalsCounted digest) :
    (store.check digest policy key nowEpochSeconds).2.RefusalsCounted digest := by
  unfold LoginStore.check
  dsimp only
  split
  · exact counted.endWindow
  · exact counted

variable {refused : Option LoginAccount}

@[simp]
theorem failures_recordFailure :
    (store.recordFailure digest policy key nowEpochSeconds refused).2.failures =
      Function.update store.failures key
        (some (recordLoginFailure (store.failures key) nowEpochSeconds policy)) :=
  rfl

theorem stored_recordFailure (room : store.stored key < 0xFFFFFFFF)
    (other : AdminLoginFailureRateLimitKey) :
    (store.recordFailure digest policy key nowEpochSeconds refused).2.stored other =
      if other = key then
        if OpensWindow policy key nowEpochSeconds store then 1 else store.stored key + 1
      else store.stored other := by
  by_cases same : other = key
  · subst same
    have recorded := failuresOf_recordLoginFailure policy nowEpochSeconds (store.failures other)
    rw [if_pos rfl, stored, failures_recordFailure, Function.update_self, recorded]
    rcases activeLoginFailureState_cases policy.sanitized nowEpochSeconds
      (store.failures other) with expired | current
    · have opens : OpensWindow policy other nowEpochSeconds store := expired
      rw [expired, if_pos opens]
    · rw [current]
      cases entry : store.failures other with
      | none =>
        have opens : OpensWindow policy other nowEpochSeconds store := current.trans entry
        rw [if_pos opens]
      | some state =>
        have notOpens : ¬ OpensWindow policy other nowEpochSeconds store := by
          rw [OpensWindow, current, entry]
          simp
        rw [stored, entry] at room
        rw [if_neg notOpens, stored, entry]
        simp only [failuresOf, Option.elim_some] at room ⊢
        omega
  · rw [if_neg same, stored, failures_recordFailure, Function.update_of_ne same, stored]

theorem RefusalsCounted.recordFailure (counted : store.RefusalsCounted digest)
    (room : store.stored key < 0xFFFFFFFF) (ofKey : ∀ account ∈ refused, account.key digest = key) :
    (store.recordFailure digest policy key nowEpochSeconds refused).2.RefusalsCounted digest := by
  intro account
  rw [stored_recordFailure room]
  have before := counted account
  have atMostOne : (if refused = some account then 1 else 0) ≤ 1 := by split <;> simp
  simp only [LoginStore.recordFailure]
  by_cases same : account.key digest = key
  · rw [same] at before
    rw [if_pos same]
    by_cases opens : OpensWindow policy key nowEpochSeconds store
    · rw [if_pos ⟨same, opens⟩, if_pos opens]
      omega
    · rw [if_neg (fun both => opens both.2), if_neg opens]
      omega
  · have notRefused : refused ≠ some account := fun found => same (ofKey account found)
    rw [if_neg (fun both => same both.1), if_neg same, if_neg notRefused]
    exact before

end LoginStore

/-! ## The condition -/

namespace LoginSystem

variable (digest : Bytes → String) (policy : LoginFailureRateLimitPolicy)

/-- A check that the limiter passes finds fewer failures and handlers on their way than
the maximum, and a lookup finds accounts under their own key. -/
def CallAllowed (system : LoginSystem) (environment : LoginEnvironment) : LoginCall → Prop
  | .check key nowEpochSeconds =>
    activeFailures policy nowEpochSeconds (system.store.failures key) < policy.limit →
      activeFailures policy nowEpochSeconds (system.store.failures key) + system.inFlight key <
        policy.limit
  | .findUser email => FoundUnderKey digest email environment.found
  | _ => True

def EventAllowed (system : LoginSystem) : LoginEvent → Prop
  | .resume index environment =>
    ∀ call ∈ system.waitingCall index, CallAllowed digest policy system environment call
  | _ => True

instance (system : LoginSystem) (environment : LoginEnvironment) :
    ∀ call, Decidable (CallAllowed digest policy system environment call)
  | .check _ _ => inferInstanceAs (Decidable (_ → _))
  | .findUser email => inferInstanceAs (Decidable (FoundUnderKey digest email _))
  | .verifyPassword _ _ | .createSession _ | .recordFailure _ _ _ | .clear _ => instDecidableTrue

instance (system : LoginSystem) : ∀ event, Decidable (EventAllowed digest policy system event)
  | .resume index environment =>
    inferInstanceAs (Decidable
      (∀ call ∈ system.waitingCall index, CallAllowed digest policy system environment call))
  | .admin _ | .user _ | .disconnect _ => instDecidableTrue

/-- The failures of a key and the handlers that may still add one are at most the
maximum. -/
structure Bounded (system : LoginSystem) : Prop where
  counted : ∀ key, system.store.stored key + system.inFlight key ≤ policy.limit
  refusals : system.store.RefusalsCounted digest
  keepToKey : ∀ process ∈ system.processes, KeepsToKey digest process.program process.admitted

section

variable {digest policy} {system : LoginSystem} {environment : LoginEnvironment}

/-- A process counts as on its way under a key. -/
def onItsWay (key : AdminLoginFailureRateLimitKey) (process : LoginProcess) : Bool :=
  decide (process.admitted = some key) && !process.program.isDone

variable {index : Nat} {admitted : Option AdminLoginFailureRateLimitKey} {call : LoginCall}
  {nowEpochSeconds : UInt64} {own : AdminLoginFailureRateLimitKey}

theorem inFlight_set {process changed : LoginProcess} {store : LoginStore}
    (found : system.processes[index]? = some process) (key : AdminLoginFailureRateLimitKey) :
    inFlight ⟨store, system.processes.set index changed⟩ key + (onItsWay key process).toNat =
      system.inFlight key + (onItsWay key changed).toNat := by
  obtain ⟨bound, rfl⟩ := List.getElem?_eq_some_iff.mp found
  have counted : onItsWay key system.processes[index] = true →
      0 < system.processes.countP (onItsWay key) :=
    fun onTheWay => List.countP_pos_iff.mpr ⟨_, List.getElem_mem bound, onTheWay⟩
  change (system.processes.set index changed).countP (onItsWay key) + _ =
    system.processes.countP (onItsWay key) + _
  rw [List.countP_set bound]
  cases on : onItsWay key system.processes[index] <;> cases onItsWay key changed <;>
    simp_all

/-- The part of a process that passed under a key. -/
def passes (admitted : Option AdminLoginFailureRateLimitKey) (key : AdminLoginFailureRateLimitKey) :
    Nat :=
  (decide (admitted = some key)).toNat

theorem passes_some (own key : AdminLoginFailureRateLimitKey) :
    passes (some own) key = if key = own then 1 else 0 := by
  by_cases same : key = own
  · simp [passes, same]
  · simp [passes, same, Ne.symm same]

theorem onItsWay_await {next : call.Answer → LoginProgram} (key : AdminLoginFailureRateLimitKey) :
    (onItsWay key ⟨.await call next, admitted⟩).toNat = passes admitted key := by
  simp [onItsWay, passes, isDone]

theorem onItsWay_le (process : LoginProcess) (key : AdminLoginFailureRateLimitKey) :
    (onItsWay key process).toNat ≤ passes process.admitted key := by
  unfold onItsWay passes
  cases decide (process.admitted = some key) <;> cases process.program.isDone <;> decide

theorem passes_le_inFlight {next : call.Answer → LoginProgram}
    (found : system.processes[index]? = some ⟨.await call next, admitted⟩)
    (key : AdminLoginFailureRateLimitKey) : passes admitted key ≤ system.inFlight key := by
  rw [← onItsWay_await key]
  cases onWay : onItsWay key ⟨.await call next, admitted⟩ with
  | false => exact Nat.zero_le _
  | true => exact List.countP_pos_iff.mpr ⟨_, List.mem_of_getElem? found, onWay⟩

section

variable (bounded : ∀ key, system.store.stored key + system.inFlight key ≤ policy.limit)

include bounded

theorem counted_check
    (allowed : CallAllowed digest policy system environment (.check own nowEpochSeconds))
    (key : AdminLoginFailureRateLimitKey) :
    (system.store.check digest policy own nowEpochSeconds).2.stored key + system.inFlight key +
        passes (if (system.store.check digest policy own nowEpochSeconds).1.isLimited then none
            else some own) key ≤ policy.limit := by
  have before := bounded key
  have shrinks := activeFailures_le policy nowEpochSeconds (system.store.failures own)
  have limited_iff :
      (system.store.check digest policy own nowEpochSeconds).1.isLimited = true ↔ _ :=
    isLimited_evaluate policy nowEpochSeconds (system.store.failures own)
  rw [LoginStore.stored_check]
  by_cases same : key = own
  · subst same
    rw [if_pos rfl]
    split
    · exact (Nat.add_le_add_right shrinks _).trans before
    · next free =>
      rw [limited_iff, not_le] at free
      rw [passes_some, if_pos rfl]
      exact allowed free
  · have others : ∀ limited : Bool, passes (if limited then none else some own) key = 0 := by
      intro limited
      cases limited with
      | true => rfl
      | false => exact (passes_some own key).trans (if_neg same)
    rw [if_neg same, others]
    exact before

theorem counted_recordFailure {refused : Option LoginAccount}
    (room : system.store.stored own < 0xFFFFFFFF) (key : AdminLoginFailureRateLimitKey) :
    (system.store.recordFailure digest policy own nowEpochSeconds refused).2.stored key +
        system.inFlight key ≤ policy.limit + passes (some own) key := by
  have before := bounded key
  rw [LoginStore.stored_recordFailure room, passes_some]
  split
  · next same =>
    subst same
    split <;> omega
  · exact before

theorem counted_clear (key : AdminLoginFailureRateLimitKey) :
    (system.store.clear digest own).2.stored key + system.inFlight key ≤ policy.limit := by
  have before := bounded key
  rw [LoginStore.clear, LoginStore.stored_endWindow]
  split <;> omega

theorem stored_lt (onWay : ∀ key, passes (some own) key ≤ system.inFlight key) :
    system.store.stored own < 0xFFFFFFFF := by
  have ownBounded := bounded own
  have ownOnWay := onWay own
  have limitLt : policy.limit < 2 ^ 32 := policy.sanitized.maxFailures.toNat_lt
  rw [passes_some, if_pos rfl] at ownOnWay
  omega

theorem counted_respond (required : loginRequires digest call admitted)
    (onWay : ∀ key, passes admitted key ≤ system.inFlight key)
    (allowed : CallAllowed digest policy system environment call)
    (key : AdminLoginFailureRateLimitKey) :
    (respond digest policy environment call system.store).2.stored key + system.inFlight key +
        passes (admittedAfter call (respond digest policy environment call system.store).1 admitted)
          key ≤ policy.limit + passes admitted key := by
  cases call with
  | check own nowEpochSeconds =>
    cases (required : admitted = none)
    exact counted_check bounded allowed key
  | findUser email | verifyPassword password hash | createSession account =>
    exact Nat.add_le_add_right (bounded key) _
  | recordFailure own nowEpochSeconds refused =>
    obtain ⟨rfl, _⟩ := required
    exact counted_recordFailure bounded (stored_lt bounded onWay) key
  | clear own => exact (counted_clear bounded key).trans (Nat.le_add_right _ _)

theorem refusalsCounted_respond (refusals : system.store.RefusalsCounted digest)
    (required : loginRequires digest call admitted)
    (onWay : ∀ key, passes admitted key ≤ system.inFlight key) :
    (respond digest policy environment call system.store).2.RefusalsCounted digest := by
  cases call with
  | check own nowEpochSeconds => exact refusals.check
  | findUser email => exact refusals
  | verifyPassword password hash => exact refusals
  | createSession account => exact refusals
  | recordFailure own nowEpochSeconds refused =>
    obtain ⟨rfl, ofKey⟩ := required
    exact refusals.recordFailure (stored_lt bounded onWay) ofKey
  | clear own => exact refusals.endWindow

end

theorem loginPermits_respond (allowed : CallAllowed digest policy system environment call) :
    loginPermits digest admitted call (respond digest policy environment call system.store).1 := by
  cases call with
  | findUser email => exact allowed
  | _ => exact trivial

theorem Bounded.resume (bounded : Bounded digest policy system)
    (allowed : EventAllowed digest policy system (.resume index environment)) :
    Bounded digest policy (system.resume digest policy index environment) := by
  unfold LoginSystem.resume
  split
  · next call next admitted found =>
    have waiting : system.waitingCall index = some call := by
      rw [waitingCall, found]
    have callAllowed := allowed call waiting
    have kept : KeepsToKey digest (.await call next) admitted :=
      bounded.keepToKey _ (List.mem_of_getElem? found)
    obtain ⟨required, continues⟩ := kept
    have onWay := passes_le_inFlight found
    refine ⟨?_, refusalsCounted_respond bounded.counted bounded.refusals required onWay, ?_⟩
    · intro key
      let answered := respond digest policy environment call system.store
      let changed : LoginProcess := ⟨next answered.1, admittedAfter call answered.1 admitted⟩
      have counted := counted_respond bounded.counted required onWay callAllowed key
      have replaced : inFlight ⟨answered.2, system.processes.set index changed⟩ key + _ = _ :=
        inFlight_set found key
      have atMost := onItsWay_le changed key
      rw [onItsWay_await] at replaced
      change answered.2.stored key +
        inFlight ⟨answered.2, system.processes.set index changed⟩ key ≤ policy.limit
      change answered.2.stored key + system.inFlight key + passes changed.admitted key ≤ _
        at counted
      omega
    · intro process processMem
      rcases List.mem_or_eq_of_mem_set processMem with unchanged | rfl
      · exact bounded.keepToKey process unchanged
      · exact continues _ _ ⟨loginPermits_respond callAllowed, rfl⟩
  · exact bounded

theorem bounded_initial : Bounded digest policy initial := by
  refine ⟨?_, ?_, ?_⟩
  · intro key
    exact Nat.zero_le _
  · intro account
    exact Nat.zero_le _
  · intro process processMem
    cases processMem

variable (bounded : Bounded digest policy system)

include bounded

theorem Bounded.start {program : LoginProgram} (keeps : KeepsToKey digest program none) :
    Bounded digest policy { system with processes := system.processes ++ [⟨program, none⟩] } := by
  refine ⟨?_, bounded.refusals, ?_⟩
  · intro key
    have counted := bounded.counted key
    simpa [inFlight, List.countP_append] using counted
  · intro process processMem
    rcases List.mem_append.mp processMem with running | started
    · exact bounded.keepToKey process running
    · cases List.mem_singleton.mp started
      exact keeps

theorem Bounded.disconnect (index : Nat) :
    Bounded digest policy { system with processes := system.processes.eraseIdx index } := by
  refine ⟨?_, bounded.refusals, ?_⟩
  · intro key
    have fewer : (system.processes.eraseIdx index).countP _ ≤ system.inFlight key :=
      (List.eraseIdx_sublist _ _).countP_le
    exact (Nat.add_le_add_left fewer _).trans (bounded.counted key)
  · intro process processMem
    exact bounded.keepToKey process (List.mem_of_mem_eraseIdx processMem)

theorem Bounded.step (event : LoginEvent) (allowed : EventAllowed digest policy system event) :
    Bounded digest policy (step digest policy system event).1 := by
  cases event with
  | admin request =>
    have keeps := keepsToKey_adminLogin digest request
    exact bounded.start keeps
  | user request =>
    have keeps := keepsToKey_userLogin digest request
    exact bounded.start keeps
  | resume index environment => exact bounded.resume allowed
  | disconnect index => exact bounded.disconnect index

theorem Bounded.refusals_le (account : LoginAccount) :
    system.store.refusals account ≤ policy.limit :=
  calc system.store.refusals account
      ≤ system.store.stored (account.key digest) := bounded.refusals account
    _ ≤ system.store.stored (account.key digest) + system.inFlight (account.key digest) :=
      Nat.le_add_right _ _
    _ ≤ policy.limit := bounded.counted _

end

/-- In every run in which each check leaves room for the handlers that are on their way,
and accounts are found under their own key, no window has more wrong passwords for an
account than the maximum. -/
theorem login_failures_bounded (digest : Bytes → String) (policy : LoginFailureRateLimitPolicy)
    (events : List LoginEvent)
    (allowed : StepsMeet (step digest policy) (EventAllowed digest policy) initial events) :
    ∀ earlier later, events = earlier ++ later → ∀ account,
      (stateAfter (step digest policy) initial earlier).store.refusals account ≤ policy.limit := by
  intro earlier later split account
  have kept : ∀ system event, EventAllowed digest policy system event →
      Bounded digest policy system → Bounded digest policy (step digest policy system event).1 :=
    fun _ event eventAllowed bounded => bounded.step event eventAllowed
  have start : Bounded digest policy initial := bounded_initial
  have bounded := stateAfter_invariant_of_stepsMeet kept start allowed earlier later split
  exact bounded.refusals_le account

/-! ## Six logins at once -/

/-- A digest for worked cases: the text itself. -/
def sampleDigest (bytes : Bytes) : String :=
  String.ofList (bytes.map fun byte => Char.ofNat byte.toNat)

/-- Five failures in five minutes. -/
def defaultPolicy : LoginFailureRateLimitPolicy :=
  ⟨5, 300⟩

def sampleAccount : LoginAccount :=
  ⟨Uuid.nil, "root@example.com", some "hash"⟩

def wrongPassword : LoginEnvironment :=
  ⟨.ok (some sampleAccount), .ok false, .ok ()⟩

/-- Some requests for the account, one second after the other: all of them arrive, and
each call is made by every handler before the next one is made by any. -/
def simultaneousLogins (requests : Nat) : List LoginEvent :=
  (List.range requests).map (fun index =>
      .admin ⟨"root@example.com", "guess", UInt64.ofNat (1000 + index)⟩) ++
    (List.range 4).flatMap fun _ =>
      (List.range requests).map fun index => .resume index wrongPassword

/-- Six requests pass the check before the first of them reports, and six wrong passwords
are compared with the hash of the account in one window. -/
theorem six_logins_exceed_limit : (stateAfter (step sampleDigest defaultPolicy) initial
        (simultaneousLogins 6)).store.refusals sampleAccount = 6 ∧ defaultPolicy.limit = 5 := by
  decide +kernel

/-- Five at once are within the maximum. -/
theorem login_failures_bounded_five : (stateAfter (step sampleDigest defaultPolicy) initial
      (simultaneousLogins 5)).store.refusals sampleAccount ≤ 5 :=
  login_failures_bounded sampleDigest defaultPolicy (simultaneousLogins 5) (by decide +kernel)
    (simultaneousLogins 5) [] (List.append_nil _).symm sampleAccount

end LoginSystem

end FuboxApi
