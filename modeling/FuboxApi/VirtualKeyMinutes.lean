import FuboxApi.ProviderKeyAgreement
import FuboxApi.TransitionRuns
import FuboxApi.VirtualKeySlots
import FuboxApi.WindowCounters

/-!
# The limits of a virtual key per minute

Requests and tokens have a counter each, for one minute. A statement is atomic on the row of the
key, and its minute is that of the start of its transaction.
-/

namespace FuboxApi

open TransitionRuns

/-! ## The counters of a row -/

namespace VirtualKeyRow

def rpmCounter (row : VirtualKeyRow) : WindowCounter Int Int :=
  ⟨row.rpmWindow, row.rpmUsed⟩

def tpmCounter (row : VirtualKeyRow) : WindowCounter Int Int :=
  ⟨row.tpmWindow, row.tpmUsed⟩

variable {row updated : VirtualKeyRow} {tenantId : Uuid} {limit : Int32} {minuteBucket : Int}
  {requiredTokens : Int64}

/-- A request is one more in its counter. The first one of a minute is not
compared with the limit, which is positive. -/
theorem rpmCounter_acquire (positive : 0 < limit.toInt)
    (acquired : row.acquireRpmSlot tenantId limit minuteBucket = some updated) :
    row.rpmCounter.acquire limit.toInt minuteBucket 1 = some updated.rpmCounter ∧
      updated.tpmCounter = row.tpmCounter := by
  unfold acquireRpmSlot at acquired
  split at acquired
  · next admitted =>
    cases acquired
    simp only [Bool.and_eq_true, Bool.or_eq_true, decide_eq_true_eq] at admitted
    have within : row.rpmCounter.total minuteBucket 1 ≤ limit.toInt := by
      unfold WindowCounter.total
      split
      · next same => exact admitted.2.resolve_left (absurd same)
      · exact positive
    exact ⟨if_pos within, rfl⟩
  · cases acquired

theorem tpmTotal_eq_ok {total : Int}
    (added : row.tpmTotal minuteBucket requiredTokens = .ok total) :
    total = row.tpmCounter.total minuteBucket requiredTokens.toInt := by
  unfold tpmTotal at added
  split at added
  · next same => exact (addBigint_eq_ok.mp added).2.symm.trans (if_pos same).symm
  · next distinct => exact (Except.ok.inj added).symm.trans (if_neg distinct).symm

theorem tpmCounter_acquire
    (acquired : row.acquireTpmCapacity tenantId limit requiredTokens minuteBucket =
      .ok (some updated)) : row.tpmCounter.acquire limit.toInt minuteBucket requiredTokens.toInt =
        some updated.tpmCounter ∧ updated.rpmCounter = row.rpmCounter := by
  unfold acquireTpmCapacity at acquired
  split at acquired
  · obtain ⟨total, added, returned⟩ := CheckedFold.bind_eq_ok.mp acquired
    have totalEq := tpmTotal_eq_ok added
    have updatedEq := Except.ok.inj returned
    split at updatedEq
    · next within =>
      cases updatedEq
      subst totalEq
      exact ⟨if_pos within, rfl⟩
    · cases updatedEq
  · cases acquired

theorem counters_of_acquireConcurrencySlot
    (acquired : row.acquireConcurrencySlot tenantId limit = some updated) :
    updated.rpmCounter = row.rpmCounter ∧ updated.tpmCounter = row.tpmCounter ∧
      updated.id = row.id := by
  unfold acquireConcurrencySlot at acquired
  split at acquired
  · cases acquired
    exact ⟨rfl, rfl, rfl⟩
  · cases acquired

theorem counters_of_releaseConcurrencySlot
    (released : row.releaseConcurrencySlot tenantId = some updated) :
    updated.rpmCounter = row.rpmCounter ∧ updated.tpmCounter = row.tpmCounter ∧
      updated.id = row.id := by
  unfold releaseConcurrencySlot at released
  split at released
  · cases released
    exact ⟨rfl, rfl, rfl⟩
  · cases released

end VirtualKeyRow

theorem positive_of_positiveI32FromValue {value : Option JsonDocument} {limit : Int32}
    (parsed : positiveI32FromValue value = some limit) : 0 < limit.toInt := by
  obtain ⟨number, numberEq, rfl⟩ := Option.map_eq_some_iff.mp parsed
  obtain ⟨_, inRange⟩ := Option.filter_eq_some_iff.mp numberEq
  simp only [Bool.and_eq_true, decide_eq_true_eq] at inRange
  rw [Int32.toInt_ofInt_of_le (by omega) (by omega)]
  exact inRange.1

theorem positive_of_virtualKeyLimit {auth : AuthContext} {limitField dimension : String}
    {limit : Int32} (limitEq : virtualKeyLimit auth limitField dimension = some limit) :
    0 < limit.toInt := by
  unfold virtualKeyLimit at limitEq
  simp only [Option.orElse_eq_orElse, Option.orElse_eq_or, Option.or_eq_some_iff] at limitEq
  rcases limitEq with found | ⟨_, found | ⟨_, found⟩⟩ <;>
    exact positive_of_positiveI32FromValue found

/-! ## Runs of statements -/

/-- The tables, and the requests and the tokens that were admitted for one key,
each with its minute. -/
structure MinuteAdmissions where
  tables : GatewayTables
  requests : List (Int × Int)
  tokens : List (Int × Int)

def admittedRequest (keyId : Uuid) (minuteBucket : Int) :
    (call : GatewayCall) → call.Answer → List (Int × Int)
  | .acquireVirtualKeyRpmSlot caller _, answer =>
    if caller.virtualKeyId = keyId && tookSlot answer then [(minuteBucket, 1)] else []
  | _, _ => []

def admittedTokens (keyId : Uuid) (minuteBucket : Int) :
    (call : GatewayCall) → call.Answer → List (Int × Int)
  | .acquireVirtualKeyTpmCapacity caller _ requiredTokens, answer =>
    if caller.virtualKeyId = keyId && tookSlot answer then
      [(minuteBucket, requiredTokens.toInt)]
    else []
  | _, _ => []

namespace MinuteAdmissions

/-- One statement, with what it takes from outside the tables. One that is
aborted changes nothing. -/
def step (keyId : Uuid) (state : MinuteAdmissions) (input : StatementInputs × GatewayCall) :
    MinuteAdmissions × Unit :=
  match state.tables.statement input.1 input.2 with
  | some (answer, tables) =>
    (⟨tables, admittedRequest keyId input.1.minuteBucket input.2 answer ++ state.requests,
      admittedTokens keyId input.1.minuteBucket input.2 answer ++ state.tokens⟩, ())
  | none => (state, ())

def WithinLimits (auth : AuthContext) (state : MinuteAdmissions) : Prop :=
  (∀ limit ∈ virtualKeyRpmLimit auth, ∀ minuteBucket,
      WindowCounter.admittedIn state.requests minuteBucket ≤ limit.toInt) ∧
    ∀ limit ∈ virtualKeyTpmLimit auth, ∀ minuteBucket,
      WindowCounter.admittedIn state.tokens minuteBucket ≤ limit.toInt

/-- The minute of a statement is not before the one that its counter is for. -/
def InMinuteOrder (keyId : Uuid) (state : MinuteAdmissions)
    (input : StatementInputs × GatewayCall) : Prop :=
  match input.2 with
  | .acquireVirtualKeyRpmSlot caller _ => caller.virtualKeyId = keyId →
      ∀ row ∈ state.tables.virtualKeys.find keyId, row.rpmWindow ≤ input.1.minuteBucket
  | .acquireVirtualKeyTpmCapacity caller _ _ => caller.virtualKeyId = keyId →
      ∀ row ∈ state.tables.virtualKeys.find keyId, row.tpmWindow ≤ input.1.minuteBucket
  | _ => True

instance (keyId : Uuid) (state : MinuteAdmissions) (input : StatementInputs × GatewayCall) :
    Decidable (InMinuteOrder keyId state input) := by
  unfold InMinuteOrder
  split <;> infer_instance

end MinuteAdmissions

def UsesLimits (auth : AuthContext) : GatewayCall → Prop
  | .acquireVirtualKeyRpmSlot caller limit =>
    caller.virtualKeyId = auth.virtualKeyId → virtualKeyRpmLimit auth = some limit
  | .acquireVirtualKeyTpmCapacity caller limit _ =>
    caller.virtualKeyId = auth.virtualKeyId → virtualKeyTpmLimit auth = some limit
  | _ => True

instance (auth : AuthContext) (call : GatewayCall) : Decidable (UsesLimits auth call) := by
  unfold UsesLimits
  split <;> infer_instance

/-! ## What the counters know -/

open MinuteAdmissions

open KeyedTable VirtualKeyRow

section

variable {auth : AuthContext} {requests tokens : List (Int × Int)}

structure RowAccounts (auth : AuthContext) (requests tokens : List (Int × Int))
    (row : VirtualKeyRow) : Prop where
  rpm : ∀ limit ∈ virtualKeyRpmLimit auth, row.rpmCounter.Accounts limit.toInt requests
  tpm : ∀ limit ∈ virtualKeyTpmLimit auth, row.tpmCounter.Accounts limit.toInt tokens

def KeyAccounts (auth : AuthContext) (requests tokens : List (Int × Int))
    (virtualKeys : VirtualKeyTable) : Prop :=
  ∃ row, virtualKeys.find auth.virtualKeyId = some row ∧ RowAccounts auth requests tokens row

theorem KeyAccounts.updateAt {virtualKeys : VirtualKeyTable} (name : Uuid)
    (update : VirtualKeyRow → Option VirtualKeyRow) (newRequests newTokens : List (Int × Int))
    (keepsId : ∀ row updated, update row = some updated → updated.id = row.id)
    (keeps : name = auth.virtualKeyId → ∀ row updated,
      virtualKeys.find auth.virtualKeyId = some row → update row = some updated →
        RowAccounts auth requests tokens row →
          RowAccounts auth (newRequests ++ requests) (newTokens ++ tokens) updated)
    (accounts : KeyAccounts auth requests tokens virtualKeys) : KeyAccounts auth
      ((if name = auth.virtualKeyId && (virtualKeys.updateAt name update).1 then newRequests
        else []) ++ requests)
      ((if name = auth.virtualKeyId && (virtualKeys.updateAt name update).1 then newTokens
        else []) ++ tokens) (virtualKeys.updateAt name update).2 := by
  obtain ⟨row, found, rowAccounts⟩ := accounts
  by_cases same : name = auth.virtualKeyId
  · subst same
    cases updateEq : update row with
    | none =>
      rw [updateAt_of_none found updateEq]
      exact ⟨row, found, by simpa using rowAccounts⟩
    | some updated =>
      rw [updateAt_of_some found updateEq]
      have rowKey := (keepsId row updated updateEq).trans (virtualKeys.key_of_find found)
      refine ⟨updated, virtualKeys.find_replace_self rowKey, ?_⟩
      simpa using keeps rfl row updated found updateEq rowAccounts
  · have unchanged := (find_updateAt_ne keepsId (Ne.symm same)).trans found
    exact ⟨row, unchanged, by simpa [same] using rowAccounts⟩

theorem RowAccounts.of_counters {row updated : VirtualKeyRow}
    (accounts : RowAccounts auth requests tokens row)
    (counters : updated.rpmCounter = row.rpmCounter ∧ updated.tpmCounter = row.tpmCounter ∧
      updated.id = row.id) : RowAccounts auth requests tokens updated where
  rpm limit limitEq := counters.1 ▸ accounts.rpm limit limitEq
  tpm limit limitEq := counters.2.1 ▸ accounts.tpm limit limitEq

section

variable {row updated : VirtualKeyRow} {tenantId : Uuid} {limit : Int32} {minuteBucket : Int}
  {requiredTokens : Int64}

theorem RowAccounts.acquireRpm (accounts : RowAccounts auth requests tokens row)
    (limitEq : virtualKeyRpmLimit auth = some limit) (inOrder : row.rpmWindow ≤ minuteBucket)
    (updates : row.acquireRpmSlot tenantId limit minuteBucket = some updated) :
    RowAccounts auth ((minuteBucket, 1) :: requests) tokens updated := by
  have positive := positive_of_virtualKeyLimit limitEq
  obtain ⟨acquired, tpmEq⟩ := rpmCounter_acquire positive updates
  constructor
  · intro bound boundEq
    cases limitEq.symm.trans boundEq
    exact (accounts.rpm limit limitEq).acquire inOrder acquired
  · intro bound boundEq
    rw [tpmEq]
    exact accounts.tpm bound boundEq

theorem RowAccounts.acquireTpm (accounts : RowAccounts auth requests tokens row)
    (limitEq : virtualKeyTpmLimit auth = some limit) (inOrder : row.tpmWindow ≤ minuteBucket)
    (updates : row.acquireTpmCapacity tenantId limit requiredTokens minuteBucket =
      .ok (some updated)) :
    RowAccounts auth requests ((minuteBucket, requiredTokens.toInt) :: tokens) updated := by
  obtain ⟨acquired, rpmEq⟩ := tpmCounter_acquire updates
  constructor
  · intro bound boundEq
    rw [rpmEq]
    exact accounts.rpm bound boundEq
  · intro bound boundEq
    cases limitEq.symm.trans boundEq
    exact (accounts.tpm limit limitEq).acquire inOrder acquired

end

/-! ## Steps and runs -/

variable {state : MinuteAdmissions} {inputs : StatementInputs} {call : GatewayCall}
  {answer : call.Answer} {tables : GatewayTables}

def MinuteAdmissions.Accounted (auth : AuthContext) (state : MinuteAdmissions) : Prop :=
  KeyAccounts auth state.requests state.tokens state.tables.virtualKeys

theorem keyAccounts_of_statement (uses : UsesLimits auth call)
    (inOrder : state.InMinuteOrder auth.virtualKeyId (inputs, call))
    (executed : state.tables.statement inputs call = some (answer, tables))
    (accounts : state.Accounted auth) : KeyAccounts auth
      (admittedRequest auth.virtualKeyId inputs.minuteBucket call answer ++ state.requests)
      (admittedTokens auth.virtualKeyId inputs.minuteBucket call answer ++ state.tokens)
      tables.virtualKeys := by
  cases call with
  | acquireVirtualKeyConcurrencySlot caller limit =>
    cases executed
    exact exists_find_updateAt
      (fun _ _ acquired => (counters_of_acquireConcurrencySlot acquired).2.2)
      (fun _ _ acquired rowAccounts => rowAccounts.of_counters
        (counters_of_acquireConcurrencySlot acquired)) accounts
  | releaseVirtualKeyConcurrencySlot caller =>
    cases executed
    exact exists_find_updateAt
      (fun _ _ released => (counters_of_releaseConcurrencySlot released).2.2)
      (fun _ _ released rowAccounts => rowAccounts.of_counters
        (counters_of_releaseConcurrencySlot released)) accounts
  | acquireVirtualKeyRpmSlot caller limit =>
    cases executed
    have kept := accounts.updateAt caller.virtualKeyId
      (acquireRpmSlot caller.tenantId limit inputs.minuteBucket)
      [(inputs.minuteBucket, 1)] []
      (keepsConcurrency_acquireRpmSlot caller.tenantId limit inputs.minuteBucket).id
      fun same row _ found updates rowAccounts =>
        rowAccounts.acquireRpm (uses same) (inOrder same row found) updates
    rw [ite_self] at kept
    exact kept
  | acquireVirtualKeyTpmCapacity caller limit requiredTokens =>
    obtain ⟨taken, virtualKeys, updated, rfl, rfl⟩ := ok_of_committed executed
    have kept := accounts.updateAt caller.virtualKeyId
      (fun row => (row.acquireTpmCapacity caller.tenantId limit requiredTokens
        inputs.minuteBucket).toOption.join)
      [] [(inputs.minuteBucket, requiredTokens.toInt)]
      (keepsConcurrency_acquireTpmCapacity caller.tenantId limit requiredTokens
        inputs.minuteBucket).id
      fun same row _ found updates rowAccounts =>
        rowAccounts.acquireTpm (uses same) (inOrder same row found)
          (CheckedFold.toOption_join_eq_some_iff.mp updates)
    rw [ite_self, ← updateAt_of_tryUpdateAt updated] at kept
    exact kept
  | _ =>
    have unchanged := (tables_of_statement executed).2.1 rfl
    rw [unchanged]
    exact accounts

theorem accounted_step {input : StatementInputs × GatewayCall} (uses : UsesLimits auth input.2)
    (inOrder : state.InMinuteOrder auth.virtualKeyId input) (accounts : state.Accounted auth) :
    (state.step auth.virtualKeyId input).1.Accounted auth := by
  unfold step
  split
  · next executed => exact keyAccounts_of_statement uses inOrder executed accounts
  · exact accounts

theorem withinLimits_of_accounted (accounts : state.Accounted auth) : state.WithinLimits auth := by
  obtain ⟨row, _, rowAccounts⟩ := accounts
  exact ⟨fun limit limitEq => (rowAccounts.rpm limit limitEq).bounded,
    fun limit limitEq => (rowAccounts.tpm limit limitEq).bounded⟩

theorem keyAccounts_nil {virtualKeys : VirtualKeyTable} {row : VirtualKeyRow}
    (found : virtualKeys.find auth.virtualKeyId = some row) (rpmNonneg : 0 ≤ row.rpmUsed)
    (tpmNonneg : 0 ≤ row.tpmUsed) : KeyAccounts auth [] [] virtualKeys :=
  ⟨row, found, fun _ limitEq => .nil rpmNonneg (positive_of_virtualKeyLimit limitEq).le,
    fun _ limitEq => .nil tpmNonneg (positive_of_virtualKeyLimit limitEq).le⟩

/-- As long as the minute of every statement on the key is not before the one
that its counter is for, no minute has more than the limits of the key. -/
theorem within_minute_limits_of_inMinuteOrder {row : VirtualKeyRow}
    (found : tables.virtualKeys.find auth.virtualKeyId = some row) (rpmNonneg : 0 ≤ row.rpmUsed)
    (tpmNonneg : 0 ≤ row.tpmUsed) {statements : List (StatementInputs × GatewayCall)}
    (uses : ∀ input ∈ statements, UsesLimits auth input.2)
    (inOrder : StepsMeet (step auth.virtualKeyId)
      (InMinuteOrder auth.virtualKeyId) ⟨tables, [], []⟩ statements) :
    ∀ earlier later, statements = earlier ++ later →
      (stateAfter (step auth.virtualKeyId) ⟨tables, [], []⟩ earlier).WithinLimits auth := by
  intro earlier later split
  have started : Accounted auth ⟨tables, [], []⟩ := keyAccounts_nil found rpmNonneg tpmNonneg
  have met := stepsMeet_and.mpr ⟨StepsMeet.of_forall_mem uses, inOrder⟩
  exact withinLimits_of_accounted (stateAfter_invariant_of_stepsMeet
    (fun _ _ both accounts => accounted_step both.1 both.2 accounts) started met
    earlier later split)

end

/-! A key with limits of one request and ten tokens per minute, and statements
of the minutes 5 and 6. -/

def minuteAuth : AuthContext :=
  ⟨sampleId 1, sampleId 2, sampleId 3,
    .object [("rpm_limit", .integer 1), ("tpm_limit", .integer 10)]⟩

def acquireRpmAt (minute : Int) : StatementInputs × GatewayCall :=
  (⟨minute * 60000000, sampleId 12, []⟩, .acquireVirtualKeyRpmSlot minuteAuth 1)

def acquireTpmAt (minute : Int) : StatementInputs × GatewayCall :=
  (⟨minute * 60000000, sampleId 12, []⟩, .acquireVirtualKeyTpmCapacity minuteAuth 10 10)

/-- The statements of the minute 5, one of them twice, and then those of 6. -/
def minutesInOrder : List (StatementInputs × GatewayCall) :=
  [acquireRpmAt 5, acquireTpmAt 5, acquireRpmAt 5, acquireRpmAt 6, acquireTpmAt 6]

theorem within_minute_limits_minutesInOrder :
    (∀ input ∈ minutesInOrder, UsesLimits minuteAuth input.2) ∧
      StepsMeet (step minuteAuth.virtualKeyId)
        (InMinuteOrder minuteAuth.virtualKeyId) ⟨sampleGatewayTables, [], []⟩
        minutesInOrder ∧
      (stateAfter (step minuteAuth.virtualKeyId) ⟨sampleGatewayTables, [], []⟩
        minutesInOrder).WithinLimits minuteAuth := by
  have uses : ∀ input ∈ minutesInOrder, UsesLimits minuteAuth input.2 := by decide +kernel
  have inOrder : StepsMeet (step minuteAuth.virtualKeyId)
      (InMinuteOrder minuteAuth.virtualKeyId) ⟨sampleGatewayTables, [], []⟩
      minutesInOrder := by decide +kernel
  have found : sampleGatewayTables.virtualKeys.find minuteAuth.virtualKeyId =
      some ⟨sampleId 3, sampleId 1, true, none, false, ⟨none, none, none, none, none⟩⟩ := rfl
  exact ⟨uses, inOrder, within_minute_limits_of_inMinuteOrder found (by decide) (by decide) uses
    inOrder minutesInOrder [] (List.append_nil _).symm⟩

/-- Transactions that start in the minute 5, one of which commits after one of
the minute 6: two requests and twenty tokens are admitted for the minute 5. -/
theorem late_commit_exceeds_minute_limits :
    virtualKeyRpmLimit minuteAuth = some 1 ∧ virtualKeyTpmLimit minuteAuth = some 10 ∧
      WindowCounter.admittedIn (stateAfter (step minuteAuth.virtualKeyId)
        ⟨sampleGatewayTables, [], []⟩ [acquireRpmAt 5, acquireRpmAt 6, acquireRpmAt 5]).requests 5 =
          2 ∧ WindowCounter.admittedIn (stateAfter (step minuteAuth.virtualKeyId)
        ⟨sampleGatewayTables, [], []⟩ [acquireTpmAt 5, acquireTpmAt 6, acquireTpmAt 5]).tokens 5 =
          20 := by
  decide +kernel

end FuboxApi
