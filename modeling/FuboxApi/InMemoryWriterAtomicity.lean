import FuboxApi.InMemoryWriterBalance

/-!
# Rejected writes

The writer reverses the reserves of a settle one after another before it takes an identifier for the
new entry. When it fails after some of these reversals, they are not taken back.
-/

namespace FuboxApi

open CheckedFold LedgerContract

namespace ConsistentWriter

/-- The entry that a status update of the identifier finds. -/
def firstWithId (id : Uuid) (entries : List LedgerEntryRecord) : Option LedgerEntryRecord :=
  entries.find? fun entry => entry.id = id

/-- The identifier leads to a pending entry. -/
def FirstPending (id : Uuid) (entries : List LedgerEntryRecord) : Prop :=
  (firstWithId id entries).any (fun entry => entry.status = .pending) = true

instance (id : Uuid) (entries : List LedgerEntryRecord) : Decidable (FirstPending id entries) :=
  inferInstanceAs (Decidable (_ = true))

/-- Each of the reserves can be reversed when its turn comes. -/
def Reversible (reserves entries : List LedgerEntryRecord) : Prop :=
  (reserves.map LedgerEntryRecord.id).Nodup ∧ ∀ reserve ∈ reserves, FirstPending reserve.id entries

instance (reserves entries : List LedgerEntryRecord) : Decidable (Reversible reserves entries) :=
  inferInstanceAs (Decidable (_ ∧ _))

/-- An update that sets the status of the first entry of its identifier. -/
structure UpdatesFirst (update : LedgerStatusUpdate)
    (entries updated before after : List LedgerEntryRecord) (entry : LedgerEntryRecord) : Prop where
  entries_eq : entries = before ++ entry :: after
  updated_eq : updated = before ++ { entry with status := update.toStatus } :: after
  skipped : ∀ other ∈ before, other.id ≠ update.ledgerEntryId
  id_eq : entry.id = update.ledgerEntryId
  status_eq : entry.status = update.fromStatus

variable {update : LedgerStatusUpdate} {entries updated : List LedgerEntryRecord}
  {reserve : LedgerEntryRecord}

theorem exists_updatesFirst (applied : applyStatusUpdate update entries = .ok updated) :
    ∃ before after entry, UpdatesFirst update entries updated before after entry := by
  induction entries generalizing updated with
  | nil => cases applied
  | cons head rest ih =>
    rw [applyStatusUpdate] at applied
    split at applied
    · next idEq =>
      split at applied
      · next statusEq =>
        cases applied
        exact ⟨[], rest, head, rfl, rfl, by simp, idEq, statusEq⟩
      · cases applied
    · next idNe =>
      obtain ⟨restUpdated, restApplied, rfl⟩ := map_eq_ok.mp applied
      obtain ⟨before, after, entry, found⟩ := ih restApplied
      refine ⟨head :: before, after, entry, ?_, ?_, ?_, found.id_eq, found.status_eq⟩
      · rw [found.entries_eq, List.cons_append]
      · rw [found.updated_eq, List.cons_append]
      · exact List.forall_mem_cons.mpr ⟨idNe, found.skipped⟩

theorem applyStatusUpdate_reserve_iff :
    (∃ updated, applyStatusUpdate (reserveSettledUpdate reserve) entries = .ok updated) ↔
      FirstPending reserve.id entries := by
  induction entries with
  | nil => simp [applyStatusUpdate, FirstPending, firstWithId]
  | cons head rest ih =>
    by_cases idEq : head.id = reserve.id
    · by_cases pending : head.status = .pending
      · simp [applyStatusUpdate, reserveSettledUpdate, FirstPending, firstWithId, idEq, pending]
      · simp [applyStatusUpdate, reserveSettledUpdate, FirstPending, firstWithId, idEq, pending]
    · have skipped : FirstPending reserve.id (head :: rest) ↔ FirstPending reserve.id rest := by
        simp [FirstPending, firstWithId, idEq]
      have notHead : ¬ head.id = (reserveSettledUpdate reserve).ledgerEntryId := idEq
      rw [skipped, ← ih]
      simp only [applyStatusUpdate, if_neg notHead, map_eq_ok]
      constructor
      · rintro ⟨_, restUpdated, applied, _⟩
        exact ⟨restUpdated, applied⟩
      · rintro ⟨restUpdated, applied⟩
        exact ⟨head :: restUpdated, restUpdated, applied, rfl⟩

theorem firstWithId_applyStatusUpdate (applied : applyStatusUpdate update entries = .ok updated)
    (id : Uuid) : firstWithId id updated = (firstWithId id entries).map fun entry =>
      if id = update.ledgerEntryId then { entry with status := update.toStatus } else entry := by
  obtain ⟨before, after, entry, found⟩ := exists_updatesFirst applied
  rw [found.entries_eq, found.updated_eq, firstWithId, firstWithId, List.find?_append,
    List.find?_append]
  by_cases target : id = update.ledgerEntryId
  · subst target
    have notBefore : before.find? (fun other => other.id = update.ledgerEntryId) = none := by
      simpa using found.skipped
    simp [notBefore, found.id_eq]
  · have notEntry : ¬ entry.id = id := fun idEq => target (idEq.symm.trans found.id_eq)
    simp [target, notEntry]

theorem firstPending_applyStatusUpdate
    (applied : applyStatusUpdate (reserveSettledUpdate reserve) entries = .ok updated) (id : Uuid) :
    FirstPending id updated ↔ id ≠ reserve.id ∧ FirstPending id entries := by
  rw [FirstPending, FirstPending, firstWithId_applyStatusUpdate applied]
  by_cases target : id = reserve.id
  · cases firstWithId id entries <;> simp [reserveSettledUpdate, target]
  · cases firstWithId id entries <;> simp [reserveSettledUpdate, target]

theorem applyStatusUpdates_ok_iff (reserves : List LedgerEntryRecord) :
    (applyStatusUpdates (reserves.map reserveSettledUpdate) entries).2 = .ok () ↔
      Reversible reserves entries := by
  induction reserves generalizing entries with
  | nil => simp [applyStatusUpdates, Reversible]
  | cons reserve rest ih =>
    rw [List.map_cons, applyStatusUpdates]
    cases applied : applyStatusUpdate (reserveSettledUpdate reserve) entries with
    | error failure =>
      have notPending : ¬ FirstPending reserve.id entries := by
        rw [← applyStatusUpdate_reserve_iff, applied]
        simp
      simp [Reversible, notPending]
    | ok updated =>
      have pending := applyStatusUpdate_reserve_iff.mp ⟨updated, applied⟩
      have restPending : (∀ other ∈ rest, FirstPending other.id updated) ↔
          reserve.id ∉ rest.map LedgerEntryRecord.id ∧
            ∀ other ∈ rest, FirstPending other.id entries := by
        simp only [firstPending_applyStatusUpdate applied, List.mem_map, not_exists, not_and]
        exact forall₂_and
      rw [ih, Reversible, Reversible, restPending, List.map_cons, List.nodup_cons,
        List.forall_mem_cons]
      tauto

def pendingCount (entries : List LedgerEntryRecord) : Nat :=
  entries.countP fun entry => entry.status = .pending

theorem pendingCount_applyStatusUpdate
    (applied : applyStatusUpdate (reserveSettledUpdate reserve) entries = .ok updated) :
    pendingCount updated < pendingCount entries := by
  obtain ⟨before, after, entry, found⟩ := exists_updatesFirst applied
  have pending : entry.status = .pending := found.status_eq
  rw [found.entries_eq, found.updated_eq]
  simp [pendingCount, pending, reserveSettledUpdate]

theorem pendingCount_applyStatusUpdates (reserves entries : List LedgerEntryRecord) :
    pendingCount (applyStatusUpdates (reserves.map reserveSettledUpdate) entries).1 ≤
      pendingCount entries := by
  induction reserves generalizing entries with
  | nil => exact le_rfl
  | cons reserve rest ih =>
    rw [List.map_cons, applyStatusUpdates]
    cases applied : applyStatusUpdate (reserveSettledUpdate reserve) entries with
    | error failure => exact le_rfl
    | ok updated => exact (ih updated).trans (pendingCount_applyStatusUpdate applied).le

theorem applyStatusUpdates_eq_self_iff (reserves : List LedgerEntryRecord) :
    (applyStatusUpdates (reserves.map reserveSettledUpdate) entries).1 = entries ↔
      ∀ reserve ∈ reserves.head?, ¬ FirstPending reserve.id entries := by
  cases reserves with
  | nil => simp [applyStatusUpdates]
  | cons reserve rest =>
    rw [List.map_cons, applyStatusUpdates]
    simp only [List.head?_cons, Option.mem_some_iff, forall_eq']
    rw [← applyStatusUpdate_reserve_iff]
    cases applied : applyStatusUpdate (reserveSettledUpdate reserve) entries with
    | error failure => simp
    | ok updated =>
      have fewer := (pendingCount_applyStatusUpdates rest updated).trans_lt
        (pendingCount_applyStatusUpdate applied)
      have changed : (applyStatusUpdates (rest.map reserveSettledUpdate) updated).1 ≠ entries := by
        intro same
        rw [same] at fewer
        exact lt_irrefl _ fewer
      simp [changed]

end ConsistentWriter

namespace InMemoryConsistentLedgerWriter

open ConsistentWriter

variable {writer : InMemoryConsistentLedgerWriter} {request : ConsistentLedgerWriteRequest}

def HasNextId (writer : InMemoryConsistentLedgerWriter) : Prop :=
  (Uuid.fromU128 (writer.nextLedgerEntryId.asU128 + 1)).isSome = true

instance (writer : InMemoryConsistentLedgerWriter) : Decidable writer.HasNextId :=
  inferInstanceAs (Decidable (_ = true))

/-- A settle of the request cannot stop half way: its first reversal already
fails, or there is none, or all of them succeed and an identifier is left. -/
def SettlesWhole (writer : InMemoryConsistentLedgerWriter) (requestId : Uuid) : Prop :=
  let entries := writer.state.ledgerEntries
  let reserves := pendingReserves entries requestId
  (∀ reserve ∈ reserves.head?, ¬ FirstPending reserve.id entries) ∨
    Reversible reserves entries ∧ writer.HasNextId

/-- The same for any request; only a settle changes entries. -/
def WritesWhole (writer : InMemoryConsistentLedgerWriter) : ConsistentLedgerWriteRequest → Prop
  | .settle _ requestId _ _ => writer.SettlesWhole requestId
  | _ => True

theorem applyLedgerPlan_plannedWrite (writer : InMemoryConsistentLedgerWriter)
    (request : ConsistentLedgerWriteRequest) (draft : LedgerEntryDraft)
    (updates : List LedgerStatusUpdate) :
    let updated := applyStatusUpdates updates writer.state.ledgerEntries
    let applied := writer.applyLedgerPlan (plannedWrite request draft updates)
    (applied.2 = .ok () ↔ updated.2 = .ok () ∧ writer.HasNextId) ∧
      (applied.2 ≠ .ok () → applied.1 = writer.withEntries updated.1) := by
  intro updated applied
  cases succeeded : (applyStatusUpdates updates writer.state.ledgerEntries).2 with
  | error failure => simp [applied, updated, applyLedgerPlan, plannedWrite, succeeded]
  | ok =>
    simp only [applied, updated, applyLedgerPlan, plannedWrite, succeeded, pushDrafts,
      takeNextLedgerEntryId, withEntries, HasNextId]
    cases Uuid.fromU128 (writer.nextLedgerEntryId.asU128 + 1) with
    | none => simp
    | some next => simp

theorem execute_planned {plan : ConsistentLedgerWriterPlan}
    (planned : planConsistentLedgerWrite request writer.state = .ok plan)
    (applies : plan.outcome = .apply) : let applied := writer.applyLedgerPlan plan.ledgerPlan
    (writer.executeConsistentLedgerWrite request).1 = applied.1 ∧
      ((writer.executeConsistentLedgerWrite request).2.outcome = .rejected ↔
        applied.2 ≠ .ok ()) := by
  intro applied
  rw [executeConsistentLedgerWrite, planned]
  simp only [applies]
  cases appliedEq : writer.applyLedgerPlan plan.ledgerPlan with
  | mk after result =>
    have resultEq : applied = (after, result) := appliedEq
    rw [resultEq]
    cases result with
    | error failure => simp [rejectedExecution]
    | ok => simp

theorem entries_kept_iff {draft : LedgerEntryDraft} {updates : List LedgerStatusUpdate}
    (write : AppliedWrite writer.state.ledgerEntries request draft updates) :
    let updated := applyStatusUpdates updates writer.state.ledgerEntries
    (¬ (updated.2 = .ok () ∧ writer.HasNextId) → updated.1 = writer.state.ledgerEntries) ↔
      writer.WritesWhole request := by
  cases write with
  | settle =>
    intro updated
    rw [applyStatusUpdates_ok_iff, applyStatusUpdates_eq_self_iff, WritesWhole, SettlesWhole]
    tauto
  | _ => simp [applyStatusUpdates, WritesWhole]

/-- A rejected request leaves the entries, their statuses and the next
identifier alone, unless it is a settle that planning accepts for a new key and
that stops half way. -/
theorem rejection_atomic_iff (writer : InMemoryConsistentLedgerWriter)
    (request : ConsistentLedgerWriteRequest) :
    let executed := writer.executeConsistentLedgerWrite request
    (executed.2.outcome = .rejected → executed.1.state.ledgerEntries = writer.state.ledgerEntries ∧
        executed.1.nextLedgerEntryId = writer.nextLedgerEntryId) ↔
    ((∃ plan, planConsistentLedgerWrite request writer.state = .ok plan) →
      (∀ entry ∈ writer.state.ledgerEntries, entry.idempotencyKey ≠ request.idempotencyKey) →
      writer.WritesWhole request) := by
  intro executed
  cases planned : planConsistentLedgerWrite request writer.state with
  | error failure =>
    have kept : executed.1 = writer := by
      simp [executed, executeConsistentLedgerWrite, planned]
    simp [kept]
  | ok plan =>
    obtain ⟨_, _, _, facts⟩ := planConsistentLedgerWrite_eq_ok planned
    cases outcome : plan.outcome with
    | idempotent existingEntryId =>
      have notRejected : executed.2.outcome ≠ .rejected := by
        simp [executed, executeConsistentLedgerWrite, planned, outcome]
      obtain ⟨existing, existingMem, keyEq, _⟩ :=
        planInnerLedgerWrite_replay facts.inner (by simp [← facts.outcome, outcome])
      have keyHeld : ¬ ∀ entry ∈ writer.state.ledgerEntries,
          entry.idempotencyKey ≠ request.idempotencyKey :=
        fun keyFresh => keyFresh existing existingMem keyEq
      simp [notRejected, keyHeld]
    | apply =>
      obtain ⟨draft, updates, write⟩ := exists_writePlanned planned outcome
      obtain ⟨executedEq, rejectedIff⟩ := execute_planned planned outcome
      obtain ⟨okIff, failedEq⟩ := applyLedgerPlan_plannedWrite writer request draft updates
      rw [← write.ledgerPlan] at okIff failedEq
      have keptIff := entries_kept_iff write.write
      dsimp only at keptIff
      rw [← okIff] at keptIff
      -- Rejecting leaves the updated entries, so they are compared with the old ones.
      have leftEq : executed.2.outcome = .rejected → executed.1 = writer.withEntries
            (applyStatusUpdates updates writer.state.ledgerEntries).1 :=
        fun rejected => executedEq.trans (failedEq (rejectedIff.mp rejected))
      constructor
      · intro atomic _ _
        refine keptIff.mp fun failed => ?_
        have rejected := rejectedIff.mpr failed
        have kept := (atomic rejected).1
        rwa [leftEq rejected] at kept
      · intro whole rejected
        have kept := keptIff.mpr (whole ⟨plan, rfl⟩ write.keyFresh) (rejectedIff.mp rejected)
        rw [leftEq rejected, kept]
        exact ⟨rfl, rfl⟩

def settleReserved : ConsistentLedgerWriteRequest :=
  .settle ⟨sampleId 1, none, none⟩ (sampleId 21) (sampleMoney 10) "USD"

/-- With the last identifier reached, the settle is rejected after it has
reversed its reserve. -/
theorem rejected_settle_reverses_reserve :
    let writer : InMemoryConsistentLedgerWriter := ⟨reservedState, sampleId (2 ^ 128 - 1)⟩
    let executed := writer.executeConsistentLedgerWrite settleReserved
    executed.2.outcome = .rejected ∧
      writer.state.ledgerEntries.map LedgerEntryRecord.status = [.pending] ∧
      executed.1.state.ledgerEntries.map LedgerEntryRecord.status = [.reversed] := by
  decide +kernel

/-- A settle that the wallet does not cover is rejected and leaves the reserve
pending. -/
theorem rejection_atomic_iff_settleReserved :
    let writer : InMemoryConsistentLedgerWriter := ⟨reservedState, sampleId 6⟩
    let executed := writer.executeConsistentLedgerWrite
      (.settle ⟨sampleId 1, none, none⟩ (sampleId 21) (sampleMoney 1000) "USD")
    writer.SettlesWhole (sampleId 21) ∧ executed.2.outcome = .rejected ∧
      executed.1.state.ledgerEntries = writer.state.ledgerEntries ∧
        executed.1.nextLedgerEntryId = writer.nextLedgerEntryId := by
  intro writer executed
  have whole : writer.SettlesWhole (sampleId 21) := Or.inr ⟨by decide +kernel, by decide +kernel⟩
  have rejected : executed.2.outcome = .rejected := by decide +kernel
  exact ⟨whole, rejected, (rejection_atomic_iff writer _).mpr (fun _ _ => whole) rejected⟩

end InMemoryConsistentLedgerWriter

end FuboxApi
