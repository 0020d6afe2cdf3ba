import FuboxApi.AsyncPrograms
import FuboxApi.ControlPlaneTables
import FuboxApi.RustText

/-!
# Logins and their failure limiter

Both login handlers ask the limiter, look the account up, compare the password with its hash, and
tell the limiter how it went. Handlers run concurrently; only the operations of the limiter are
atomic.
-/

namespace FuboxApi

/-! ## The limiter -/

structure LoginFailureRateLimitPolicy where
  maxFailures : UInt32
  windowSeconds : UInt64

def LoginFailureRateLimitPolicy.sanitized (policy : LoginFailureRateLimitPolicy) :
    LoginFailureRateLimitPolicy :=
  ⟨max policy.maxFailures 1, max policy.windowSeconds 1⟩

structure LoginFailureRateLimitState where
  failureCount : UInt32
  windowStartedAtEpochSeconds : UInt64

structure LoginFailureRateLimitDecision where
  isLimited : Bool
  retryAfterSeconds : Option UInt64
  failureCount : UInt32

def saturatingSub (left right : UInt64) : UInt64 :=
  if left < right then 0 else left - right

def saturatingAdd (left right : UInt64) : UInt64 :=
  if 2 ^ 64 ≤ left.toNat + right.toNat then 0xFFFFFFFFFFFFFFFF else left + right

section

variable (state : Option LoginFailureRateLimitState) (nowEpochSeconds : UInt64)
  (policy : LoginFailureRateLimitPolicy)

/-- The state, unless its window is over. -/
def activeLoginFailureState : Option LoginFailureRateLimitState :=
  state.filter fun state =>
    ¬ policy.windowSeconds ≤ saturatingSub nowEpochSeconds state.windowStartedAtEpochSeconds

def evaluateLoginFailureRateLimit : LoginFailureRateLimitDecision :=
  let policy := policy.sanitized
  match activeLoginFailureState state nowEpochSeconds policy with
  | none => ⟨false, none, 0⟩
  | some state =>
    if policy.maxFailures ≤ state.failureCount then
      ⟨true, some (max (saturatingSub
          (saturatingAdd state.windowStartedAtEpochSeconds policy.windowSeconds)
          nowEpochSeconds) 1), state.failureCount⟩
    else ⟨false, none, state.failureCount⟩

def recordLoginFailure : LoginFailureRateLimitState :=
  match activeLoginFailureState state nowEpochSeconds policy.sanitized with
  | some state =>
    -- `saturating_add` of the count
    { state with failureCount :=
        if state.failureCount = 0xFFFFFFFF then state.failureCount else state.failureCount + 1 }
  | none => ⟨1, nowEpochSeconds⟩

end

/-! ## Keys -/

structure AdminLoginFailureRateLimitKey where
  tenantId : Uuid
  loginIdentifierFingerprint : String
deriving DecidableEq

def loginIdentifierMaxChars : Nat := 256

/-- The eight bytes of a length, the most significant first. -/
def lengthBytes (length : Nat) : Bytes :=
  (List.range 8).map fun index => UInt8.ofNat (length / 256 ^ (7 - index))

/-- The digest in hexadecimal digits is a parameter. -/
def loginRateLimitFingerprint (digest : Bytes → String) (parts : List String) : String :=
  digest (parts.flatMap fun part => lengthBytes part.utf8ByteSize ++ part.toUTF8.toList)

def normalizeLoginIdentifier (username : String) : String :=
  let normalized := ((RustText.trim username.toList).take loginIdentifierMaxChars).map Char.toLower
  if normalized = [] then "<empty>" else String.ofList normalized

def adminLoginFailureRateLimitKey (digest : Bytes → String) (username : String) :
    AdminLoginFailureRateLimitKey :=
  ⟨defaultTenantId, loginRateLimitFingerprint digest [normalizeLoginIdentifier username]⟩

/-! ## The handlers -/

/-- An active account as the lookups read it. -/
structure LoginAccount where
  id : Uuid
  email : String
  passwordHash : Option String
deriving DecidableEq

/-- What the handlers do besides computing. The account of a recorded failure is not
passed to the limiter; it says whose hash refused the password. -/
inductive LoginCall where
  | check (key : AdminLoginFailureRateLimitKey) (nowEpochSeconds : UInt64)
  | findUser (email : String)
  | verifyPassword (password hash : String)
  | createSession (account : LoginAccount)
  | recordFailure (key : AdminLoginFailureRateLimitKey) (nowEpochSeconds : UInt64)
      (refused : Option LoginAccount)
  | clear (key : AdminLoginFailureRateLimitKey)

/-- A lookup, a malformed hash and a session can fail. -/
def LoginCall.Answer : LoginCall → Type
  | .check _ _ | .recordFailure _ _ _ => LoginFailureRateLimitDecision
  | .findUser _ => Except Unit (Option LoginAccount)
  | .verifyPassword _ _ => Except Unit Bool
  | .createSession _ => Except Unit Unit
  | .clear _ => Unit

inductive LoginOutcome where
  | loginRateLimited (retryAfterSeconds : UInt64)
  | invalidCredentials
  | serviceUnavailable
  | loggedIn (account : LoginAccount)

abbrev LoginProgram := AsyncProgram LoginCall.Answer LoginOutcome

structure LoginRequest where
  email : String
  password : String
  /-- The clock when the handler reads it, before it asks the limiter. -/
  nowEpochSeconds : UInt64

namespace Login

open AsyncProgram

variable (key : AdminLoginFailureRateLimitKey) (nowEpochSeconds : UInt64)

def check : AsyncProgram LoginCall.Answer LoginFailureRateLimitDecision :=
  perform (LoginCall.check key nowEpochSeconds)

def findUser (email : String) : AsyncProgram LoginCall.Answer (Except Unit (Option LoginAccount)) :=
  perform (LoginCall.findUser email)

def verifyAdminPassword (password hash : String) :
    AsyncProgram LoginCall.Answer (Except Unit Bool) :=
  perform (LoginCall.verifyPassword password hash)

def createSession (account : LoginAccount) : AsyncProgram LoginCall.Answer (Except Unit Unit) :=
  perform (LoginCall.createSession account)

def recordFailure (refused : Option LoginAccount) :
    AsyncProgram LoginCall.Answer LoginFailureRateLimitDecision :=
  perform (LoginCall.recordFailure key nowEpochSeconds refused)

def clear : AsyncProgram LoginCall.Answer Unit :=
  perform (LoginCall.clear key)

/-- The answer to a limited request. -/
def rateLimited (decision : LoginFailureRateLimitDecision) : LoginOutcome :=
  .loginRateLimited (decision.retryAfterSeconds.getD 1)

def recordLoginFailureError (refused : Option LoginAccount) : LoginProgram := do
  let decision ← recordFailure key nowEpochSeconds refused
  return if decision.isLimited then rateLimited decision else .invalidCredentials

def startAdminSession (user : LoginAccount) : LoginProgram := do
  match ← createSession user with
  | .error _ => return .serviceUnavailable
  | .ok _ => do
      clear key
      return .loggedIn user

def verifyAdmin (request : LoginRequest) (user : LoginAccount) (passwordHash : String) :
    LoginProgram := do
  match ← verifyAdminPassword request.password passwordHash with
  | .error _ => recordLoginFailureError key request.nowEpochSeconds none
  | .ok false => recordLoginFailureError key request.nowEpochSeconds (some user)
  | .ok true => startAdminSession key user

/-- The account of an email is looked up, and its hash goes to the check of the password. -/
def findAccount (verify : LoginAccount → String → LoginProgram)
    (key : AdminLoginFailureRateLimitKey) (request : LoginRequest) (email : String) :
    LoginProgram := do
  match ← findUser email with
  | .error _ => return .serviceUnavailable
  | .ok none => recordLoginFailureError key request.nowEpochSeconds none
  | .ok (some account) =>
    match account.passwordHash with
    | none => recordLoginFailureError key request.nowEpochSeconds none
    | some passwordHash => verify account passwordHash

/-- `login` of the admin API. -/
def adminLogin (digest : Bytes → String) (request : LoginRequest) : LoginProgram := do
  let email := String.ofList (RustText.trim request.email.toList)
  let key := adminLoginFailureRateLimitKey digest email
  let decision ← check key request.nowEpochSeconds
  if decision.isLimited then return rateLimited decision
  else if email = "" ∨ request.password = "" then
    recordLoginFailureError key request.nowEpochSeconds none
  else findAccount (verifyAdmin key request) key request email

/-- `normalize_email` of the user API. -/
@[irreducible]
def normalizeEmail (email : String) : Option String :=
  let email := (RustText.trim email.toList).map Char.toLower
  if 254 < (String.ofList email).utf8ByteSize ∨ email.count '@' ≠ 1 ∨ email.head? = some '@' ∨
      email.getLast? = some '@' then none
  else some (String.ofList email)

def verifyUser (request : LoginRequest) (account : LoginAccount) (hash : String) :
    LoginProgram := do
  match ← verifyAdminPassword request.password hash with
  -- unlike the admin login, a malformed hash is not recorded as a failure
  | .error _ => return .invalidCredentials
  | .ok false => recordLoginFailureError key request.nowEpochSeconds (some account)
  | .ok true => do
      clear key
      match ← createSession account with
      | .error _ => return .serviceUnavailable
      | .ok _ => return .loggedIn account

/-- `login` of the user API. -/
def userLogin (digest : Bytes → String) (request : LoginRequest) : LoginProgram :=
  match normalizeEmail request.email with
  | none => return .invalidCredentials
  | some email =>
    if request.password = "" then return .invalidCredentials
    else do
      let key := adminLoginFailureRateLimitKey digest email
      let decision ← check key request.nowEpochSeconds
      if decision.isLimited then return rateLimited decision
      else findAccount (verifyUser key request) key request email

end Login

/-! ## Concurrent logins -/

def LoginAccount.key (digest : Bytes → String) (account : LoginAccount) :
    AdminLoginFailureRateLimitKey :=
  adminLoginFailureRateLimitKey digest account.email

/-- The map of the limiter. Beside it, for every account, how many wrong passwords were
compared with its hash, from the moment that the window of its key was opened. -/
structure LoginStore where
  failures : AdminLoginFailureRateLimitKey → Option LoginFailureRateLimitState
  refusals : LoginAccount → Nat

namespace LoginStore

variable (digest : Bytes → String) (policy : LoginFailureRateLimitPolicy)
  (key : AdminLoginFailureRateLimitKey) (nowEpochSeconds : UInt64)

/-- The entry of a key is removed. -/
def endWindow (store : LoginStore) : LoginStore where
  failures := Function.update store.failures key none
  refusals account := if account.key digest = key then 0 else store.refusals account

def check (store : LoginStore) : LoginFailureRateLimitDecision × LoginStore :=
  let decision := evaluateLoginFailureRateLimit (store.failures key) nowEpochSeconds policy
  (decision, if decision.failureCount = 0 then store.endWindow digest key else store)

def OpensWindow (store : LoginStore) : Prop :=
  activeLoginFailureState (store.failures key) nowEpochSeconds policy.sanitized = none

instance (store : LoginStore) : Decidable (OpensWindow policy key nowEpochSeconds store) :=
  inferInstanceAs (Decidable (_ = _))

def recordFailure (refused : Option LoginAccount) (store : LoginStore) :
    LoginFailureRateLimitDecision × LoginStore :=
  let state := recordLoginFailure (store.failures key) nowEpochSeconds policy
  (evaluateLoginFailureRateLimit (some state) nowEpochSeconds policy,
    { failures := Function.update store.failures key (some state)
      refusals account :=
        (if account.key digest = key ∧ OpensWindow policy key nowEpochSeconds store then 0
          else store.refusals account) +
          if refused = some account then 1 else 0 })

def clear (store : LoginStore) : Unit × LoginStore :=
  ((), store.endWindow digest key)

def empty : LoginStore where
  failures _ := none
  refusals _ := 0

end LoginStore

/-- What the database and the password comparison answer. The lookups compare emails by
`lower` of the database, so any account may be found. -/
structure LoginEnvironment where
  found : Except Unit (Option LoginAccount)
  verified : Except Unit Bool
  session : Except Unit Unit

/-- A handler that runs, and the key under which the limiter has let it pass as long as
it has not reported back. -/
structure LoginProcess where
  program : LoginProgram
  admitted : Option AdminLoginFailureRateLimitKey

structure LoginSystem where
  store : LoginStore
  processes : List LoginProcess

inductive LoginEvent where
  | admin (request : LoginRequest)
  | user (request : LoginRequest)
  | resume (index : Nat) (environment : LoginEnvironment)
  | disconnect (index : Nat)

namespace LoginSystem

variable (digest : Bytes → String) (policy : LoginFailureRateLimitPolicy)

def respond (environment : LoginEnvironment) :
    (call : LoginCall) → LoginStore → call.Answer × LoginStore
  | .check key nowEpochSeconds, store => store.check digest policy key nowEpochSeconds
  | .findUser _, store => (environment.found, store)
  | .verifyPassword _ _, store => (environment.verified, store)
  | .createSession _, store => (environment.session, store)
  | .recordFailure key nowEpochSeconds refused, store =>
    store.recordFailure digest policy key nowEpochSeconds refused
  | .clear key, store => store.clear digest key

def admittedAfter : (call : LoginCall) → call.Answer → Option AdminLoginFailureRateLimitKey →
    Option AdminLoginFailureRateLimitKey
  | .check key _, decision, admitted =>
    if LoginFailureRateLimitDecision.isLimited decision then admitted else some key
  | .recordFailure _ _ _, _, _ | .clear _, _, _ => none
  | .findUser _, _, admitted | .verifyPassword _ _, _, admitted
  | .createSession _, _, admitted => admitted

/-- The call that a handler waits with. -/
def waitingCall (system : LoginSystem) (index : Nat) : Option LoginCall :=
  match system.processes[index]? with
  | some ⟨.await call _, _⟩ => some call
  | _ => none

/-- One handler goes on with the answer of its call. -/
def resume (system : LoginSystem) (index : Nat) (environment : LoginEnvironment) : LoginSystem :=
  match system.processes[index]? with
  | some ⟨.await call next, admitted⟩ =>
    let answered := respond digest policy environment call system.store
    { store := answered.2
      processes := system.processes.set index
        ⟨next answered.1, admittedAfter call answered.1 admitted⟩ }
  | _ => system

def step (system : LoginSystem) : LoginEvent → LoginSystem × Unit
  | .admin request =>
    ({ system with
        processes := system.processes ++ [⟨Login.adminLogin digest request, none⟩] }, ())
  | .user request =>
    ({ system with
        processes := system.processes ++ [⟨Login.userLogin digest request, none⟩] }, ())
  | .resume index environment => (system.resume digest policy index environment, ())
  | .disconnect index => ({ system with processes := system.processes.eraseIdx index }, ())

def initial : LoginSystem :=
  ⟨.empty, []⟩

/-- The handlers between the limiter's leave under a key and their report. -/
def inFlight (system : LoginSystem) (key : AdminLoginFailureRateLimitKey) : Nat :=
  system.processes.countP fun process =>
    decide (process.admitted = some key) && !process.program.isDone

end LoginSystem

end FuboxApi
