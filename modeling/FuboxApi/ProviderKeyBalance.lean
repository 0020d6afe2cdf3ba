import FuboxApi.ChatHandlerSpec
import FuboxApi.ChatTables
import FuboxApi.ProviderKeyAgreement

/-!
# The concurrency counter of a provider key

An applied acquire raises the counter of a key by one and a release lowers it. The handler releases
when an attempt fails and when a stream is not completed; after a success it does not.
-/

namespace FuboxApi

open AsyncProgram

def storedConcurrency (row : ProviderKeyRow) : Option JsonDocument :=
  row.currentWindowState.valueAt [windowField .concurrency, "used"]

/-- A row on which a release succeeds: the key may be used, and every limited
dimension has a counter. -/
structure Releasable (row : ProviderKeyRow) : Prop where
  present : row.deletedAt = none
  usable : row.status ≠ .manualDisabled ∧ row.status ≠ .deleted
  counters : ∀ dimension bound, row.limits.get dimension = some bound →
    0 < bound.toInt ∧ ∃ used, PrimaryCounter row dimension used ∧ 0 ≤ used

/-! ## The statements on a row -/

variable {row updated : ProviderKeyRow}

section

variable {operation : ProviderKeyRateLimitReservationOperation} {binds : ReservationBinds}

theorem scopedProviderKey_iff : scopedProviderKey operation binds row = true ↔
      (row.tenantId = binds.tenantId ∧ row.id = binds.providerKeyId ∧
        row.channelId = binds.channelId) ∧ row.deletedAt = none ∧
        (row.status ≠ .manualDisabled ∧ row.status ≠ .deleted) ∧
        (operation = .acquire ∨ binds.reservationAcquired = true) := by
  simp only [scopedProviderKey, Bool.and_eq_true, Bool.or_eq_true, decide_eq_true_eq,
    Option.isNone_iff_eq_none, ne_eq, and_assoc]

theorem fitsBigint_writtenCounter {bound : Int32} {used : Int} {required : Int64}
    (room : HasRoom operation bound used required) (fits : FitsBigint used)
    (requiredNonneg : 0 ≤ required) : FitsBigint (writtenCounter operation used required) := by
  obtain ⟨_, usedNonneg, within⟩ := room
  have boundLt := Int32.toInt_lt bound
  rw [Int64.le_iff_toInt_le, Int64.toInt_zero] at requiredNonneg
  unfold FitsBigint at fits ⊢
  cases operation with
  | acquire =>
    have sumLe := within rfl
    simp only [writtenCounter]
    omega
  | release =>
    simp only [writtenCounter]
    omega

/-- What a statement that updates a row leaves: the same key, on which a release
succeeds, and a written counter if the concurrency is limited. -/
structure Updates (operation : ProviderKeyRateLimitReservationOperation)
    (required : PerDimension Int64) (row updated : ProviderKeyRow) : Prop where
  releasable : Releasable updated
  limits : updated.limits = row.limits
  tenantId : updated.tenantId = row.tenantId
  id : updated.id = row.id
  channelId : updated.channelId = row.channelId
  unlimited : row.limits.get .concurrency = none → storedConcurrency updated = storedConcurrency row
  limited : (row.limits.get .concurrency).isSome = true → ∃ used : Int, 0 ≤ used ∧
    storedConcurrency row = some (.integer used) ∧ storedConcurrency updated = some (.integer
        (writtenCounter operation used (required.get .concurrency)))

theorem updates_of_reservationSql
    (executed : reservationSql operation binds row = .ok (some updated)) :
    Updates operation binds.required row updated := by
  obtain ⟨inScope, eligible, used, usedEq, room, rfl⟩ := reservationSql_eq_updated_iff.mp executed
  obtain ⟨_, present, usable, _⟩ := scopedProviderKey_iff.mp inScope
  have requiredNonneg := (requestEligible_iff.mp eligible).1
  -- what a statement reads and writes in a limited dimension
  have written : ∀ dimension bound, row.limits.get dimension = some bound →
      ∃ value, used.get dimension = some value ∧ PrimaryCounter row dimension value ∧
        HasRoom operation bound value (binds.required.get dimension) ∧
        (writeCounters operation used binds.required row.currentWindowState).valueAt
            [windowField dimension, "used"] =
          some (.integer (writtenCounter operation value (binds.required.get dimension))) := by
    intro dimension bound limitEq
    obtain ⟨value, valueEq, hasRoom⟩ :=
      eligibleDimension_eq_true_iff.mp (room dimension) bound limitEq
    have read := usedEq dimension
    rw [valueEq] at read
    have primary := (windowValue_eq_some_iff.mp read).2
    refine ⟨value, valueEq, primary, hasRoom, valueAt_writeCounters_some valueEq ?_⟩
    rw [primary.1]
    rfl
  refine ⟨⟨present, usable, ?_⟩, rfl, rfl, rfl, rfl, ?_, ?_⟩
  · intro dimension bound limitEq
    obtain ⟨value, _, primary, hasRoom, writtenEq⟩ := written dimension bound limitEq
    refine ⟨hasRoom.1, _, ⟨writtenEq, ?_⟩, ?_⟩
    · exact fitsBigint_writtenCounter hasRoom primary.2 (requiredNonneg dimension)
    · exact writtenCounter_nonneg (requiredNonneg dimension) hasRoom.2.1
  · intro unlimited
    refine valueAt_writeCounters_none ?_ row.currentWindowState
    have read := usedEq .concurrency
    rw [windowValue, unlimited] at read
    exact (Except.ok.inj read).symm
  · intro limited
    obtain ⟨bound, limitEq⟩ := Option.isSome_iff_exists.mp limited
    obtain ⟨value, _, primary, hasRoom, writtenEq⟩ := written .concurrency bound limitEq
    exact ⟨value, hasRoom.2.1, primary.1, writtenEq⟩

theorem exists_released (releasable : Releasable row)
    (sameKey : row.tenantId = binds.tenantId ∧ row.id = binds.providerKeyId ∧
      row.channelId = binds.channelId) (acquired : binds.reservationAcquired = true)
    (eligible : requestEligible row.limits binds.required = true) :
    ∃ updated, reservationSql .release binds row = .ok (some updated) := by
  have read : ∀ dimension, windowValue row dimension =
      .ok ((PerDimension.ofFn fun dimension => (windowValue row dimension).toOption.join).get
        dimension) := by
    intro dimension
    rw [PerDimension.get_ofFn]
    cases limitEq : row.limits.get dimension with
    | none =>
      rw [windowValue, limitEq]
      rfl
    | some bound =>
      obtain ⟨_, used, primary, _⟩ := releasable.counters dimension bound limitEq
      rw [windowValue_eq_some_iff.mpr ⟨by rw [limitEq]; rfl, primary⟩]
      rfl
  refine ⟨_, reservationSql_eq_updated_iff.mpr ⟨?_, eligible, _, read, ?_, rfl⟩⟩
  · exact scopedProviderKey_iff.mpr ⟨sameKey, releasable.present, releasable.usable, .inr acquired⟩
  · intro dimension
    rw [eligibleDimension_eq_true_iff, PerDimension.get_ofFn]
    intro bound limitEq
    obtain ⟨boundPos, used, primary, usedNonneg⟩ := releasable.counters dimension bound limitEq
    refine ⟨used, ?_, boundPos, usedNonneg, fun isAcquire => by cases isAcquire⟩
    rw [windowValue_eq_some_iff.mpr ⟨by rw [limitEq]; rfl, primary⟩]
    rfl

end

/-! ## The statements on the table -/

variable {input : ProviderKeyRateLimitReservationExecutionInput}

open KeyedTable

section

variable {providerKeys next : ProviderKeyTable}
  {status : ProviderKeyRateLimitReservationExecutionStatus}

theorem executeReservation_cases
    (executed : executeProviderKeyRateLimitReservation input providerKeys = .ok (status, next)) :
    (next = providerKeys ∧ status ≠ .applied ∧ (executionCommandStatus input = .sqlReady → ∀ row,
        providerKeys.find input.providerKeyId = some row →
          reservationSql input.operation input.binds row = .ok none)) ∨
    ∃ row updated, providerKeys.find input.providerKeyId = some row ∧
      reservationSql input.operation input.binds row = .ok (some updated) ∧
      next = providerKeys.replace updated ∧ status = .applied := by
  unfold executeProviderKeyRateLimitReservation at executed
  split at executed
  · next refused =>
    cases executed
    exact .inl ⟨rfl, by simp, fun ready => by rw [refused] at ready; cases ready⟩
  · next noop =>
    cases executed
    exact .inl ⟨rfl, by simp, fun ready => by rw [noop] at ready; cases ready⟩
  · obtain ⟨⟨applied, table⟩, updatedEq, returned⟩ := CheckedFold.bind_eq_ok.mp executed
    cases returned
    unfold tryUpdateAt at updatedEq
    cases found : providerKeys.find input.providerKeyId with
    | none =>
      rw [found] at updatedEq
      cases updatedEq
      exact .inl ⟨rfl, by simp, fun _ row rowFound => by cases rowFound⟩
    | some row =>
      rw [found] at updatedEq
      obtain ⟨result, resultEq, updatedEq⟩ := CheckedFold.map_eq_ok.mp updatedEq
      cases result with
      | none =>
        rw [updateAt_of_none found rfl] at updatedEq
        cases updatedEq
        refine .inl ⟨rfl, by simp, fun _ other otherFound => ?_⟩
        cases otherFound
        exact resultEq
      | some updated =>
        have changed : (providerKeys.updateAt input.providerKeyId fun _ => some updated) =
            (true, providerKeys.replace updated) := updateAt_of_some found rfl
        rw [changed] at updatedEq
        cases updatedEq
        exact .inr ⟨row, updated, rfl, resultEq, rfl, rfl⟩

end

/-! ## Counting reservations -/

section

variable (initial : ProviderKeyRow)

/-- An input that names the key of a row. -/
def concernsKey (input : ProviderKeyRateLimitReservationExecutionInput) : Bool :=
  input.tenantId = initial.tenantId && input.providerKeyId = initial.id &&
    input.channelId = initial.channelId

def reservationChange (input : ProviderKeyRateLimitReservationExecutionInput)
    (answer : ApiResult ProviderKeyRateLimitReservationExecutionStatus) (held : ℕ) :
    ℕ :=
  if concernsKey initial input then
    match input.operation with
    | .acquire => held + (wasApplied answer).toNat
    | .release => held - 1
  else held

/-- How a call changes the number of reservations of the key that its request
has. -/
def reservationUpdate : ShareUpdate GatewayCall.Answer ℕ
  | .executeProviderKeyRateLimitReservation input, answer, held =>
    reservationChange initial input answer held
  | _, _, held => held

/-- A reservation of the key is one of one slot, and a release gives back the
one that the request has. -/
def reservationRequires : GatewayCall → ℕ → Prop
  | .executeProviderKeyRateLimitReservation input, held =>
    concernsKey initial input = true →
      input.required.get .concurrency = 1 ∧ (∀ dimension, 0 ≤ input.required.get dimension) ∧
        (input.operation = .release → input.reservationAcquired = true ∧ held = 1)
  | _, _ => True

/-- No attempt succeeds and no stream is completed while its request has a
reservation of the key. -/
def reservationPermits (held : ℕ) : (call : GatewayCall) → call.Answer → Prop
  | .callProvider _, (answer : AdapterResult ProviderPayload) =>
    held = 0 ∨ ∃ error, answer = .error error
  | .streamEnd, answer => held = 0 ∨ answer.1 ≠ .completed
  | _, _ => True

abbrev reservationContract : CallContract GatewayCall.Answer ℕ :=
  shareContract (reservationUpdate initial) (reservationRequires initial) reservationPermits

structure CountsReservations (initial : ProviderKeyRow) (held : ℕ) (row : ProviderKeyRow) :
    Prop where
  limits : row.limits = initial.limits
  tenantId : row.tenantId = initial.tenantId
  channelId : row.channelId = initial.channelId
  unlimited : initial.limits.get .concurrency = none →
    storedConcurrency row = storedConcurrency initial
  limited : (initial.limits.get .concurrency).isSome = true →
    held = 0 ∧ storedConcurrency row = storedConcurrency initial ∨
      Releasable row ∧ ∃ used : Int, 0 ≤ used ∧ storedConcurrency initial = some (.integer used) ∧
        storedConcurrency row = some (.integer (used + held))

def ReservationsCounted (providerKeys : ProviderKeyTable) (held : ℕ) : Prop :=
  ∃ row, providerKeys.find initial.id = some row ∧ CountsReservations initial held row

end

variable {initial : ProviderKeyRow} {held : ℕ} {call : GatewayCall}

section

variable {required : PerDimension Int64} {rest : ℕ}

/-- A statement that raises or lowers the counter as it changes what is held. -/
theorem CountsReservations.of_updates {after : ℕ}
    {operation : ProviderKeyRateLimitReservationOperation}
    (counts : CountsReservations initial held row)
    (updates : Updates operation required row updated) (written : ∀ used : Int, 0 ≤ used →
      writtenCounter operation (used + held) (required.get .concurrency) = used + after) :
    CountsReservations initial after updated := by
  refine ⟨updates.limits.trans counts.limits, updates.tenantId.trans counts.tenantId,
    updates.channelId.trans counts.channelId, ?_, ?_⟩
  · intro unlimited
    exact (updates.unlimited (counts.limits ▸ unlimited)).trans (counts.unlimited unlimited)
  · intro limited
    obtain ⟨value, valueNonneg, stored, storedAfter⟩ := updates.limited (counts.limits ▸ limited)
    refine .inr ⟨updates.releasable, ?_⟩
    rcases counts.limited limited with ⟨rfl, same⟩ | ⟨_, used, usedNonneg, initially, now⟩
    · refine ⟨value, valueNonneg, same ▸ stored, ?_⟩
      rw [storedAfter, ← written value valueNonneg, Nat.cast_zero, add_zero]
    · obtain rfl : used + held = value := by simpa [now] using stored
      exact ⟨used, usedNonneg, initially, by rw [storedAfter, written used usedNonneg]⟩

theorem CountsReservations.acquired (counts : CountsReservations initial held row)
    (updates : Updates .acquire required row updated) (one : required.get .concurrency = 1) :
    CountsReservations initial (held + 1) updated := by
  refine counts.of_updates updates fun used _ => ?_
  rw [one]
  show used + held + 1 = _
  push_cast
  ring

theorem CountsReservations.released (counts : CountsReservations initial (held + 1) row)
    (updates : Updates .release required row updated) (one : required.get .concurrency = 1) :
    CountsReservations initial held updated := by
  refine counts.of_updates updates fun used nonneg => ?_
  rw [one]
  show max (used + (held + 1 : ℕ) - 1) 0 = _
  omega

variable {other : ℕ} {channelId providerId tenantId : Uuid} {channels : KeyedTable ChannelRow.id}
  {status : ProviderKeyRuntimeStatus}

theorem CountsReservations.of_unlimited (counts : CountsReservations initial held row)
    (unlimited : initial.limits.get .concurrency = none) :
    CountsReservations initial other row := by
  refine ⟨counts.limits, counts.tenantId, counts.channelId, counts.unlimited, fun limited => ?_⟩
  rw [unlimited] at limited
  cases limited

theorem status_usable (status : ProviderKeyRuntimeStatus) :
    status.status ≠ .manualDisabled ∧ status.status ≠ .deleted := by
  cases status <;> exact ⟨by decide, by decide⟩

section

variable
  (updates : row.updateRuntimeStatus channels tenantId channelId providerId status = some updated)

include updates

theorem CountsReservations.updateRuntimeStatus (counts : CountsReservations initial held row) :
    CountsReservations initial held updated := by
  unfold ProviderKeyRow.updateRuntimeStatus at updates
  split at updates
  · cases updates
    refine ⟨counts.limits, counts.tenantId, counts.channelId, counts.unlimited, fun limited => ?_⟩
    refine (counts.limited limited).imp_right (And.imp_left fun releasable => ?_)
    exact ⟨releasable.present, status_usable status, releasable.counters⟩
  · contradiction

theorem updateRuntimeStatus_id : updated.id = row.id := by
  unfold ProviderKeyRow.updateRuntimeStatus at updates
  split at updates
  · cases updates
    rfl
  · contradiction

end

theorem concernsKey_iff : concernsKey initial input = true ↔ input.tenantId = initial.tenantId ∧
      input.providerKeyId = initial.id ∧ input.channelId = initial.channelId := by
  simp only [concernsKey, Bool.and_eq_true, decide_eq_true_eq, and_assoc]

theorem CountsReservations.of_refused_release (counts : CountsReservations initial (held + 1) row)
    (sameKey : input.tenantId = row.tenantId ∧ input.providerKeyId = row.id ∧
      input.channelId = row.channelId) (acquired : input.reservationAcquired = true)
    (one : input.required.get .concurrency = 1)
    (requiredNonneg : ∀ dimension, 0 ≤ input.required.get dimension)
    (refused : reservationSql .release input.binds row = .ok none) :
    CountsReservations initial other row := by
  by_cases limited : (initial.limits.get .concurrency).isSome = true
  · rcases counts.limited limited with ⟨noneHeld, _⟩ | ⟨releasable, _⟩
    · cases noneHeld
    · have eligible : requestEligible row.limits input.required = true := by
        refine requestEligible_iff.mpr ⟨requiredNonneg, .concurrency, counts.limits ▸ limited, ?_⟩
        rw [one]
        decide
      obtain ⟨tenantEq, idEq, channelEq⟩ := sameKey
      have releases : ∃ updated, reservationSql .release input.binds row = .ok (some updated) :=
        exists_released releasable ⟨tenantEq.symm, idEq.symm, channelEq.symm⟩ acquired eligible
      obtain ⟨updated, released⟩ := releases
      rw [released] at refused
      cases refused
  · exact counts.of_unlimited (Option.not_isSome_iff_eq_none.mp limited)

theorem executionCommandStatus_ready (one : input.required.get .concurrency = 1)
    (requiredNonneg : ∀ dimension, 0 ≤ input.required.get dimension)
    (acquired : input.operation = .release → input.reservationAcquired = true) :
    executionCommandStatus input = .sqlReady := by
  have noneNegative : ¬ input.required.toList.any (· < 0) = true := by
    rw [PerDimension.any_toList]
    rintro ⟨dimension, negative⟩
    exact absurd (of_decide_eq_true negative) (Int64.not_lt.mpr (requiredNonneg dimension))
  have somePositive : ¬ input.required.toList.all (· ≤ 0) = true := by
    rw [PerDimension.all_toList]
    intro allZero
    have concurrencyZero := of_decide_eq_true (allZero .concurrency)
    rw [one] at concurrencyZero
    exact absurd concurrencyZero (by decide)
  have given : ¬ (input.operation = .release && !input.reservationAcquired) = true := by
    rw [Bool.and_eq_true, Bool.not_eq_true', decide_eq_true_eq]
    rintro ⟨isRelease, notAcquired⟩
    rw [acquired isRelease] at notAcquired
    cases notAcquired
  rw [executionCommandStatus, if_neg noneNegative, if_neg somePositive, if_neg given]

variable {tables next : GatewayTables} {answer : call.Answer}

section

variable {status : ProviderKeyRateLimitReservationExecutionStatus}

section

variable (counts : CountsReservations initial (held + rest) row)
  (concerns : concernsKey initial input = true)
  (requires : reservationRequires initial (.executeProviderKeyRateLimitReservation input) held)

include counts concerns requires

theorem CountsReservations.of_refused (rowKey : row.id = initial.id)
    (notApplied : status ≠ .applied)
    (refused : reservationSql input.operation input.binds row = .ok none) :
    CountsReservations initial (reservationChange initial input (.ok status) held + rest) row := by
  obtain ⟨tenantEq, idEq, channelEq⟩ := concernsKey_iff.mp concerns
  obtain ⟨one, requiredNonneg, releases⟩ := requires concerns
  rw [reservationChange, if_pos concerns]
  cases operationEq : input.operation with
  | acquire =>
    have unchanged : wasApplied (.ok status) = false := by
      cases status <;> first | rfl | exact absurd rfl notApplied
    rw [unchanged]
    exact counts
  | release =>
    obtain ⟨acquired, rfl⟩ := releases operationEq
    rw [operationEq] at refused
    rw [Nat.add_comm] at counts
    exact counts.of_refused_release ⟨tenantEq.trans counts.tenantId.symm, idEq.trans rowKey.symm,
        channelEq.trans counts.channelId.symm⟩ acquired one requiredNonneg refused

theorem CountsReservations.of_applied
    (updatedEq : reservationSql input.operation input.binds row = .ok (some updated)) :
    CountsReservations initial (reservationChange initial input (.ok .applied) held + rest)
      updated := by
  obtain ⟨one, _, releases⟩ := requires concerns
  have updates := updates_of_reservationSql updatedEq
  rw [reservationChange, if_pos concerns]
  cases operationEq : input.operation with
  | acquire =>
    rw [operationEq] at updates
    have acquired := counts.acquired updates one
    rw [Nat.add_right_comm] at acquired
    exact acquired
  | release =>
    obtain ⟨_, rfl⟩ := releases operationEq
    rw [operationEq] at updates
    rw [Nat.add_comm] at counts
    have released := counts.released updates one
    rw [← Nat.zero_add rest] at released
    exact released

end

theorem concernsKey_of_updated (counts : CountsReservations initial held row)
    (idEq : input.providerKeyId = initial.id)
    (updatedEq : reservationSql input.operation input.binds row = .ok (some updated)) :
    concernsKey initial input = true := by
  obtain ⟨inScope, _⟩ := reservationSql_eq_updated_iff.mp updatedEq
  obtain ⟨⟨tenantEq, _, channelEq⟩, _⟩ := scopedProviderKey_iff.mp inScope
  exact concernsKey_iff.mpr ⟨tenantEq.symm.trans counts.tenantId, idEq,
    channelEq.symm.trans counts.channelId⟩

theorem reservationsCounted_of_reservation {providerKeys after : ProviderKeyTable}
    (counted : ReservationsCounted initial providerKeys (held + rest))
    (requires : reservationRequires initial (.executeProviderKeyRateLimitReservation input) held)
    (executed : executeProviderKeyRateLimitReservation input providerKeys = .ok (status, after)) :
    ReservationsCounted initial after
      (reservationChange initial input (.ok status) held + rest) := by
  obtain ⟨row, found, counts⟩ := counted
  have rowKey : row.id = initial.id := providerKeys.key_of_find found
  by_cases concerns : concernsKey initial input = true
  · have idEq := (concernsKey_iff.mp concerns).2.1
    obtain ⟨one, requiredNonneg, releases⟩ := requires concerns
    have ready := executionCommandStatus_ready one requiredNonneg fun isRelease =>
      (releases isRelease).1
    rcases executeReservation_cases executed with ⟨rfl, notApplied, refuses⟩ |
      ⟨other, updated, otherFound, updatedEq, rfl, rfl⟩
    · have refused := refuses ready row (idEq ▸ found)
      exact ⟨row, found, counts.of_refused concerns requires rowKey notApplied refused⟩
    · rw [idEq, found] at otherFound
      cases otherFound
      have updatedKey : updated.id = initial.id :=
        (updates_of_reservationSql updatedEq).id.trans rowKey
      exact ⟨updated, find_replace_self _ updatedKey,
        counts.of_applied concerns requires updatedEq⟩
  · rw [reservationChange, if_neg concerns]
    rcases executeReservation_cases executed with ⟨rfl, _, _⟩ |
      ⟨other, updated, otherFound, updatedEq, rfl, _⟩
    · exact ⟨row, found, counts⟩
    · refine ⟨row, (find_replace_ne _ fun sameId => concerns ?_).trans found, counts⟩
      have otherKey : other.id = input.providerKeyId := providerKeys.key_of_find otherFound
      have idEq : input.providerKeyId = initial.id :=
        otherKey.symm.trans ((updates_of_reservationSql updatedEq).id.symm.trans sameId)
      rw [idEq, found] at otherFound
      cases otherFound
      exact concernsKey_of_updated counts idEq updatedEq

end

theorem reservationsCounted_of_effects
    (counted : ReservationsCounted initial tables.providerKeys (held + rest))
    (requires : reservationRequires initial call held)
    (effect : succeedingEffects call tables answer next) :
    ReservationsCounted initial next.providerKeys
      (reservationUpdate initial call answer held + rest) := by
  by_cases keeps : call.writesProviderKeys = false
  · have sameRows := (tables_of_effects effect.1).2.2 keeps
    have sameShare : reservationUpdate initial call answer held = held := by
      cases call <;> first | rfl | cases keeps
    rw [sameRows, sameShare]
    exact counted
  · cases call with
    | executeProviderKeyRateLimitReservation input =>
      obtain ⟨inputs, executed⟩ := statement_of_succeedingEffects rfl effect
      obtain ⟨status, providerKeys, reserved, rfl, rfl⟩ := ok_of_committed executed
      exact reservationsCounted_of_reservation counted requires reserved
    | updateProviderKeyRuntimeStatus auth providerKeyId channelId providerId status =>
      obtain ⟨inputs, executed⟩ := statement_of_succeedingEffects rfl effect
      cases executed
      exact exists_find_updateAt (fun _ _ => updateRuntimeStatus_id)
        (fun _ _ updates counts => counts.updateRuntimeStatus updates) counted
    | _ => exact absurd rfl keeps

end

/-! ## One request -/

section

variable {context : ChatContext}

def reservationsOf (initial : ProviderKeyRow) (context : ChatContext)
    (reserved : Option ResolvedChatRoute) : ℕ :=
  (reserved.any fun route =>
    concernsKey initial (context.reservationInput route .acquire false)).toNat

structure LeavesReservations (initial : ProviderKeyRow) (call : GatewayCall) : Prop where
  requires : ∀ held, reservationRequires initial call held
  update : ∀ answer held, reservationUpdate initial call answer held = held

theorem LeavesReservations.meets {reading : ℕ → Prop} (leaves : LeavesReservations initial call)
    (before : reading held) :
    (perform call).Meets (reservationContract initial) (fun _ => reading) held :=
  meets_of_share_kept (leaves.requires held) (fun answer => leaves.update answer held) before

theorem leavesReservations_of_neutral (neutral : call.Neutral) :
    LeavesReservations initial call := by
  cases call with
  | executeProviderKeyRateLimitReservation => exact neutral.elim
  | _ => exact ⟨fun _ => trivial, fun _ _ => rfl⟩

theorem reservationInput_required (route : ResolvedChatRoute)
    (operation : ProviderKeyRateLimitReservationOperation) (reservationAcquired : Bool) :
    (context.reservationInput route operation reservationAcquired).required.get .concurrency = 1 ∧
      ∀ dimension, 0 ≤
        (context.reservationInput route operation reservationAcquired).required.get dimension := by
  refine ⟨rfl, fun dimension => ?_⟩
  cases dimension with
  | requestsPerMinute | concurrency => exact (by decide : (0 : Int64) ≤ 1)
  | tokensPerMinute => exact context.requiredTokens_nonneg

theorem reservationChange_acquire (route : ResolvedChatRoute)
    (answer : ApiResult ProviderKeyRateLimitReservationExecutionStatus) :
    reservationChange initial (context.reservationInput route .acquire false) answer 0 =
      reservationsOf initial context (tookReservation route answer) := by
  have operationEq : (context.reservationInput route .acquire false).operation = .acquire := rfl
  cases applied : wasApplied answer with
  | false =>
    simp only [reservationChange, operationEq, tookReservation, applied, reservationsOf]
    split <;> rfl
  | true =>
    simp only [reservationChange, operationEq, tookReservation, applied, reservationsOf,
      if_true, Option.any_some]
    cases concernsKey initial (context.reservationInput route .acquire false) <;> rfl

theorem reservationChange_release (route : ResolvedChatRoute)
    (answer : ApiResult ProviderKeyRateLimitReservationExecutionStatus) :
    reservationChange initial (context.reservationInput route .release true) answer
      (reservationsOf initial context (some route)) = 0 := by
  have sameKey : concernsKey initial (context.reservationInput route .release true) =
      concernsKey initial (context.reservationInput route .acquire false) := rfl
  have operationEq : (context.reservationInput route .release true).operation = .release := rfl
  simp only [reservationChange, operationEq, sameKey, reservationsOf, Option.any_some]
  cases concernsKey initial (context.reservationInput route .acquire false) <;> rfl

theorem reservationsOf_some {route : ResolvedChatRoute}
    (concerns : concernsKey initial (context.reservationInput route .release true) = true) :
    reservationsOf initial context (some route) = 1 :=
  congrArg Bool.toNat concerns

theorem reservationsOf_end {reason : StreamEndReason} {reserved : Option ResolvedChatRoute}
    (permitted : held = 0 ∨ reason ≠ .completed)
    (counted : held = reservationsOf initial context reserved) :
    held = reservationsOf initial context (if reason = .completed then none else reserved) := by
  split
  · next completed => exact permitted.resolve_right fun notCompleted => notCompleted completed
  · exact counted

theorem reservationRules : HoldingRules (reservationContract initial) context
    (fun _ reserved _ held => held = reservationsOf initial context reserved)
    (fun _ _ _ held => held = 0) (fun reason _ _ reserved held =>
      held = reservationsOf initial context (if reason = .completed then none else reserved))
    (fun held => held = 0) where
  weaken counted := counted
  finish counted := counted
  neutral neutral counted := (leavesReservations_of_neutral neutral).meets counted
  insertReserve _ counted := meets_of_share_kept trivial (fun _ => rfl) counted
  releaseReserve counted := meets_of_share_kept trivial (fun _ => rfl) counted
  acquireSlot _ counted := meets_of_share_kept trivial (fun _ => rfl) counted
  releaseSlot counted := meets_of_share_kept trivial (fun _ => rfl) counted
  acquireReservation {route} _ _ _ counted := by
    obtain ⟨one, nonneg⟩ := reservationInput_required route .acquire false
    refine ⟨fun _ => ⟨one, nonneg, fun isRelease => by cases isRelease⟩, ?_⟩
    rintro answer next ⟨_, rfl⟩
    subst counted
    exact reservationChange_acquire route answer
  releaseReservation {route} _ _ _ counted := by
    obtain ⟨one, nonneg⟩ := reservationInput_required route .release true
    subst counted
    refine ⟨fun concerns => ⟨one, nonneg, fun _ => ⟨rfl, reservationsOf_some concerns⟩⟩, ?_⟩
    rintro answer next ⟨_, rfl⟩
    exact reservationChange_release route answer
  callProvider counted := by
    refine ⟨trivial, ?_⟩
    rintro answer next ⟨permitted, rfl⟩
    rcases answer with error | payload
    · exact counted
    · rcases permitted with noneHeld | ⟨error, failed⟩
      · exact noneHeld
      · cases failed
  streamEnd counted := by
    refine ⟨trivial, ?_⟩
    rintro answer next ⟨permitted, rfl⟩
    exact reservationsOf_end permitted counted

theorem reservations_ignore_money : HoldingRules.IgnoresMoney (reservationContract initial) context
      (fun _ reserved _ held => held = reservationsOf initial context reserved)
      (fun _ _ _ held => held = 0) (fun reason _ _ reserved held =>
        held = reservationsOf initial context (if reason = .completed then none else reserved))
    where
  rate counted := meets_of_share_kept trivial (fun _ => rfl) counted
  settle counted := meets_of_share_kept trivial (fun _ => rfl) counted
  answered_holds noneHeld := noneHeld
  ended_holds counted := counted

theorem returns_reservations (initial : ProviderKeyRow) (context : ChatContext) :
    Returns (reservationContract initial) ⟨chatCompletions context, 0⟩ :=
  HoldingRules.chatCompletions_finishes reservationRules reservations_ignore_money rfl

end

/-! ## The pool -/

/-- The events of the pool: requests are started, none of them succeeds while it
has a reservation of the key, and none is dropped with one. -/
def ReservationsKept : ChatEvent ℕ → Prop
  | .started program => ∃ context : ChatContext, program = chatCompletions context
  | .performed held call answer => reservationPermits held call answer
  | .dropped process => process.share = 0

/-- When no request is in flight any more, the stored counter of a key is the one
from before the first request. -/
theorem concurrency_balanced (initial : ProviderKeyRow) {first last : ChatPool ℕ}
    {events : List (ChatEvent ℕ)} (noRequests : first.processes = [])
    (found : first.shared.providerKeys.find initial.id = some initial)
    (run : PoolRun succeedingEffects (reservationUpdate initial) first events last)
    (kept : ∀ event ∈ events, ReservationsKept event) (idle : last.Idle) :
    (last.shared.providerKeys.find initial.id).bind storedConcurrency =
      storedConcurrency initial := by
  have permitted : ∀ event ∈ events, Permitted (reservationUpdate initial)
      (reservationRequires initial) reservationPermits event := by
    intro event eventMem
    have eventKept := kept event eventMem
    cases event with
    | started program =>
      obtain ⟨context, rfl⟩ := eventKept
      exact returns_reservations initial context
    | performed held call answer => exact eventKept
    | dropped process => exact eventKept
  have start : first.Accounted (reservationContract initial)
      (fun tables => ReservationsCounted initial tables.providerKeys) := by
    apply Pool.accounted_of_no_processes noRequests
    exact ⟨initial, found, rfl, rfl, rfl, fun _ => rfl, fun _ => .inl ⟨rfl, rfl⟩⟩
  have accounted := start.run (fun _ _ _ _ _ _ counted requires _ effect => by
    exact reservationsCounted_of_effects counted requires effect) permitted run
  obtain ⟨row, rowFound, counts⟩ := accounted.total_consistent
  rw [accounted.total_eq_zero idle] at counts
  rw [rowFound, Option.bind_some]
  by_cases limited : (initial.limits.get .concurrency).isSome = true
  · rcases counts.limited limited with ⟨_, same⟩ | ⟨_, used, _, initially, now⟩
    · exact same
    · rw [now, initially, Nat.cast_zero, add_zero]
  · exact counts.unlimited (Option.not_isSome_iff_eq_none.mp limited)

/-- Requests like the sample one, with an answer of the provider. -/
def playBalance (provider : AdapterResult ProviderPayload)
    (moves : List (PoolMove GatewayCall.Answer ChatResponse)) :
    Option (List (ChatEvent ℕ) × ChatPool ℕ) :=
  playMoves (reservationUpdate sampleProviderKey) (sampleRespond provider) moves
    ⟨sampleGatewayTables, []⟩

section

variable {event : ChatEvent ℕ} {error : AdapterError}

theorem reservationsKept_of_start {requestId : Uuid} (plays : Plays (sampleRespond (.error error))
    (.start (chatCompletions { sampleChat with requestId })) event) : ReservationsKept event := by
  cases plays
  exact ⟨_, rfl⟩

theorem reservationsKept_of_call {index : Nat}
    (plays : Plays (sampleRespond (.error error)) (.call index) event) :
    ReservationsKept event := by
  obtain ⟨held, call, answer, tables, next, rfl, responded⟩ := plays
  cases call with
  | callProvider route =>
    cases responded
    exact .inr ⟨error, rfl⟩
  | streamEnd =>
    cases responded
    exact .inr fun completed => by cases completed
  | _ => exact trivial

end

theorem idle_of_isDone {pool : ChatPool ℕ}
    (ended : pool.processes.all (·.program.isDone) = true) : pool.Idle :=
  fun process processMem => isDone_iff.mp (List.all_eq_true.mp ended process processMem)

/-- Two requests that the provider fails, with their calls in turn. -/
theorem concurrency_balanced_sampleChat : ∃ (events : List (ChatEvent ℕ)) (last : ChatPool ℕ),
      PoolRun succeedingEffects (reservationUpdate sampleProviderKey) ⟨sampleGatewayTables, []⟩
        events last ∧ (∀ event ∈ events, ReservationsKept event) ∧ last.processes.length = 2 ∧
      last.Idle ∧ (last.shared.providerKeys.find sampleProviderKey.id).bind storedConcurrency =
        storedConcurrency sampleProviderKey := by
  have ends : (playBalance (.error ⟨none, none⟩)
      (interleavedChats (List.replicate 18 [1, 0]).flatten)).any (fun played =>
        decide (played.2.processes.length = 2) &&
          played.2.processes.all (·.program.isDone)) = true := by
    decide +kernel
  obtain ⟨played, playedEq, reached⟩ := (Option.any_eq_true _ _).mp ends
  rw [Bool.and_eq_true, decide_eq_true_eq] at reached
  obtain ⟨run, kept⟩ := poolRun_playMoves (sampleRespond_succeeds (.error ⟨none, none⟩))
    (forall_mem_interleavedChats (fun _ _ => reservationsKept_of_start)
      (fun _ _ => reservationsKept_of_call)) playedEq
  have idle := idle_of_isDone reached.2
  exact ⟨played.1, played.2, run, kept, reached.1, idle,
    concurrency_balanced sampleProviderKey rfl (find_replace_self _ rfl) run kept idle⟩

def storesCounter (row : ProviderKeyRow) (value : Int) : Bool :=
  match storedConcurrency row with
  | some (.integer stored) => stored = value
  | _ => false

theorem storedConcurrency_of_storesCounter {value : Int} (stores : storesCounter row value = true) :
    storedConcurrency row = some (.integer value) := by
  unfold storesCounter at stores
  split at stores
  · next stored storedEq => rw [storedEq, of_decide_eq_true stores]
  · cases stores

/-- One request that succeeds: no request is left, and the counter has gone from
zero to one. -/
theorem successfulRequest_keeps_reservation : ∃ (events : List (ChatEvent ℕ)) (last : ChatPool ℕ),
      PoolRun succeedingEffects (reservationUpdate sampleProviderKey) ⟨sampleGatewayTables, []⟩
        events last ∧ last.Idle ∧ storedConcurrency sampleProviderKey = some (.integer 0) ∧
      (last.shared.providerKeys.find sampleProviderKey.id).bind storedConcurrency =
        some (.integer 1) := by
  have ends : (playBalance sampleUsage (.start (chatCompletions sampleChat) ::
      List.replicate 19 (.call 0))).any (fun played => played.2.processes.all (·.program.isDone) &&
        (played.2.shared.providerKeys.find sampleProviderKey.id).any (storesCounter · 1)) =
          true := by
    decide +kernel
  obtain ⟨played, playedEq, reached⟩ := (Option.any_eq_true _ _).mp ends
  rw [Bool.and_eq_true, Option.any_eq_true] at reached
  obtain ⟨isDone, row, found, stores⟩ := reached
  have run := (poolRun_playMoves (sampleRespond_succeeds sampleUsage)
    (fun _ _ _ _ => trivial) playedEq).1
  refine ⟨played.1, played.2, run, idle_of_isDone isDone, rfl, ?_⟩
  rw [found, Option.bind_some]
  exact storedConcurrency_of_storesCounter stores

end FuboxApi
