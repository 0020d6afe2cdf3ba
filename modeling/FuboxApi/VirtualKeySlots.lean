import FuboxApi.ChatHandlerSpec
import FuboxApi.ChatTables

/-!
# The concurrency slots of a virtual key

Every exit of the handler gives the slot back, so the counter is the number of requests that have
one. A request whose future is dropped never gives its slot back.
-/

namespace FuboxApi

open AsyncProgram

/-- How a call changes the number of slots that its request has. -/
def slotUpdate : ShareUpdate GatewayCall.Answer ℕ
  | .acquireVirtualKeyConcurrencySlot _ _, answer, held => held + (tookSlot answer).toNat
  | .releaseVirtualKeyConcurrencySlot _, _, held => held - 1
  | _, _, held => held

/-- A request takes a slot of the key when it has none, and gives back the one
it has. -/
def slotRequires (auth : AuthContext) (limit : Int32) : GatewayCall → ℕ → Prop
  | .acquireVirtualKeyConcurrencySlot caller bound, held =>
    caller = auth ∧ bound = limit ∧ held = 0
  | .releaseVirtualKeyConcurrencySlot caller, held => caller = auth ∧ held = 1
  | _, _ => True

/-- No slot is given back by a statement that fails. -/
def slotPermits (_held : ℕ) : (call : GatewayCall) → call.Answer → Prop
  | .releaseVirtualKeyConcurrencySlot auth, answer =>
    ¬ (GatewayCall.releaseVirtualKeyConcurrencySlot auth).DatabaseFailed answer
  | _, _ => True

abbrev slotContract (auth : AuthContext) (limit : Int32) : CallContract GatewayCall.Answer ℕ :=
  shareContract slotUpdate (slotRequires auth limit) slotPermits

def SlotsCounted (auth : AuthContext) (limit : Int32) (virtualKeys : VirtualKeyTable) (held : ℕ) :
    Prop :=
  ∃ row, virtualKeys.find auth.virtualKeyId = some row ∧
    row.isPresent auth.tenantId = true ∧ row.concurrencyUsed = held ∧ held ≤ limit.toInt

/-- The events of the pool: requests of the key that are answered in one piece
are started, a slot is given back by a statement that succeeds, and no request
is dropped while it has a slot. -/
def SlotsKept (auth : AuthContext) : ChatEvent ℕ → Prop
  | .started program => ∃ context : ChatContext,
      context.auth = auth ∧ context.request.stream = false ∧ program = chatCompletions context
  | .performed held call answer => slotPermits held call answer
  | .dropped process => process.share = 0

/-! ## One request -/

variable {limit : Int32} {call : GatewayCall} {held : ℕ} {auth : AuthContext}

section

variable {context : ChatContext}

structure LeavesSlots (auth : AuthContext) (limit : Int32) (call : GatewayCall) : Prop where
  requires : ∀ held, slotRequires auth limit call held
  update : ∀ answer held, slotUpdate call answer held = held

theorem LeavesSlots.meets {reading : ℕ → Prop} (leaves : LeavesSlots auth limit call)
    (before : reading held) :
    (perform call).Meets (slotContract auth limit) (fun _ => reading) held :=
  meets_of_share_kept (leaves.requires held) (fun answer => leaves.update answer held) before

theorem leavesSlots_of_neutral (neutral : call.Neutral) : LeavesSlots auth limit call := by
  cases call with
  | acquireVirtualKeyConcurrencySlot | releaseVirtualKeyConcurrencySlot => exact neutral.elim
  | _ => exact ⟨fun _ => trivial, fun _ _ => rfl⟩

theorem slotRules (limitEq : virtualKeyConcurrencyLimit context.auth = some limit) :
    HoldingRules (slotContract context.auth limit) context
      (fun slot _ _ held => held = slot.toNat) (fun _ slot _ held => held = slot.toNat)
      (fun _ _ slot _ held => held = slot.toNat) (fun held => held = 0) where
  weaken counted := counted
  finish counted := counted
  neutral neutral counted := (leavesSlots_of_neutral neutral).meets counted
  insertReserve _ counted := meets_of_share_kept trivial (fun _ => rfl) counted
  releaseReserve counted := meets_of_share_kept trivial (fun _ => rfl) counted
  acquireSlot boundEq counted := by
    have sameLimit : _ = limit := Option.some.inj (boundEq.symm.trans limitEq)
    refine ⟨⟨rfl, sameLimit, counted⟩, ?_⟩
    rintro answer next ⟨_, rfl⟩
    subst counted
    exact Nat.zero_add _
  releaseSlot counted := by
    refine ⟨⟨rfl, counted⟩, ?_⟩
    rintro answer next ⟨_, rfl⟩
    subst counted
    rfl
  acquireReservation counted := meets_of_share_kept trivial (fun _ => rfl) counted
  releaseReservation counted := meets_of_share_kept trivial (fun _ => rfl) counted
  callProvider counted := by
    refine ⟨trivial, ?_⟩
    rintro answer next ⟨_, rfl⟩
    rcases answer with _ | _ <;> exact counted
  streamEnd counted := by
    refine ⟨trivial, ?_⟩
    rintro answer next ⟨_, rfl⟩
    exact counted

theorem slots_ignore_money : HoldingRules.IgnoresMoney (slotContract context.auth limit) context
    (fun slot _ _ held => held = slot.toNat) (fun _ slot _ held => held = slot.toNat)
    (fun _ _ slot _ held => held = slot.toNat) where
  rate counted := meets_of_share_kept trivial (fun _ => rfl) counted
  settle counted := meets_of_share_kept trivial (fun _ => rfl) counted
  answered_holds counted := counted
  ended_holds counted := counted

theorem returns_chatCompletions (limitEq : virtualKeyConcurrencyLimit context.auth = some limit) :
    Returns (slotContract context.auth limit) ⟨chatCompletions context, 0⟩ :=
  HoldingRules.chatCompletions_finishes (slotRules limitEq) slots_ignore_money rfl

end

/-! ## The counter -/

open KeyedTable VirtualKeyRow

section

variable {tables next : GatewayTables}
  {answer : call.Answer} {virtualKeys : VirtualKeyTable} {rest : ℕ}

structure KeepsConcurrency (update : VirtualKeyRow → Option VirtualKeyRow) : Prop where
  id : ∀ row updated, update row = some updated → updated.id = row.id
  keeps : ∀ row updated, update row = some updated →
    updated.tenantId = row.tenantId ∧ updated.deletedAt = row.deletedAt ∧
      updated.concurrencyUsed = row.concurrencyUsed

theorem KeepsConcurrency.slotsCounted {update : VirtualKeyRow → Option VirtualKeyRow}
    (keepsConcurrency : KeepsConcurrency update) {keyId : Uuid}
    (counted : SlotsCounted auth limit virtualKeys held) :
    SlotsCounted auth limit (virtualKeys.updateAt keyId update).2 held := by
  refine exists_find_updateAt keepsConcurrency.id ?_ counted
  rintro row updated updates ⟨present, used, le⟩
  obtain ⟨tenantEq, deletedEq, usedEq⟩ := keepsConcurrency.keeps row updated updates
  refine ⟨?_, usedEq.trans used, le⟩
  rw [isPresent, tenantEq, deletedEq]
  exact present

theorem keepsConcurrency_acquireRpmSlot (tenantId : Uuid) (bound : Int32) (minuteBucket : Int) :
    KeepsConcurrency (acquireRpmSlot tenantId bound minuteBucket) := by
  constructor <;>
  · intro row updated updates
    unfold acquireRpmSlot at updates
    split at updates
    · cases updates
      first | rfl | exact ⟨rfl, rfl, rfl⟩
    · contradiction

theorem keepsConcurrency_acquireTpmCapacity (tenantId : Uuid) (bound : Int32)
    (requiredTokens : Int64) (minuteBucket : Int) : KeepsConcurrency fun row =>
      (row.acquireTpmCapacity tenantId bound requiredTokens minuteBucket).toOption.join := by
  have inversion : ∀ row updated : VirtualKeyRow,
      (row.acquireTpmCapacity tenantId bound requiredTokens minuteBucket).toOption.join =
        some updated → ∃ total, updated = { row with window := { row.window with
          tpmWindow := some minuteBucket, tpmUsed := some total } } := by
    intro row updated updates
    have executed := CheckedFold.toOption_join_eq_some_iff.mp updates
    unfold acquireTpmCapacity at executed
    split at executed
    · obtain ⟨total, _, returned⟩ := CheckedFold.bind_eq_ok.mp executed
      have updatedEq := Except.ok.inj returned
      split at updatedEq
      · exact ⟨total, (Option.some.inj updatedEq).symm⟩
      · contradiction
    · cases executed
  constructor
  · intro row updated updates
    obtain ⟨total, rfl⟩ := inversion row updated updates
    rfl
  · intro row updated updates
    obtain ⟨total, rfl⟩ := inversion row updated updates
    exact ⟨rfl, rfl, rfl⟩

theorem slotsCounted_acquire (counted : SlotsCounted auth limit virtualKeys held) :
    SlotsCounted auth limit (virtualKeys.updateAt auth.virtualKeyId
        (acquireConcurrencySlot auth.tenantId limit)).2
      (held + (virtualKeys.updateAt auth.virtualKeyId
        (acquireConcurrencySlot auth.tenantId limit)).1.toNat) := by
  obtain ⟨row, found, present, used, le⟩ := counted
  have rowKey : row.id = auth.virtualKeyId := virtualKeys.key_of_find found
  cases acquiredEq : row.acquireConcurrencySlot auth.tenantId limit with
  | none =>
    rw [updateAt_of_none found acquiredEq]
    exact ⟨row, found, present, used, le⟩
  | some updated =>
    rw [updateAt_of_some found acquiredEq]
    unfold acquireConcurrencySlot at acquiredEq
    split at acquiredEq
    · next eligible =>
      cases acquiredEq
      simp only [Bool.and_eq_true, decide_eq_true_eq, used] at eligible
      refine ⟨_, find_replace_self _ ?_, present, ?_, ?_⟩
      · exact rowKey
      · exact congrArg (· + 1) used
      · exact eligible.2
    · contradiction

theorem slotsCounted_release (counted : SlotsCounted auth limit virtualKeys (1 + rest)) :
    SlotsCounted auth limit (virtualKeys.updateAt auth.virtualKeyId
        (releaseConcurrencySlot auth.tenantId)).2 rest := by
  obtain ⟨row, found, present, used, le⟩ := counted
  have rowKey : row.id = auth.virtualKeyId := virtualKeys.key_of_find found
  have released : row.releaseConcurrencySlot auth.tenantId = some { row with
      window := { row.window with concurrencyUsed := some (max (row.concurrencyUsed - 1) 0) } } :=
    if_pos present
  rw [updateAt_of_some found released]
  refine ⟨_, find_replace_self _ ?_, present, ?_, ?_⟩
  · exact rowKey
  · have lowered : max (row.concurrencyUsed - 1) 0 = (rest : ℤ) := by omega
    exact lowered
  · omega

theorem slotsCounted_of_effects (counted : SlotsCounted auth limit tables.virtualKeys (held + rest))
    (required : slotRequires auth limit call held) (permitted : slotPermits held call answer)
    (effect : gatewayEffects call tables answer next) :
    SlotsCounted auth limit next.virtualKeys (slotUpdate call answer held + rest) := by
  by_cases keeps : call.writesVirtualKeys = false
  · have sameRows := (tables_of_effects effect).2.1 keeps
    have sameShare : slotUpdate call answer held = held := by
      cases call <;> first | rfl | cases keeps
    rw [sameRows, sameShare]
    exact counted
  · unfold gatewayEffects at effect
    cases call with
    | acquireVirtualKeyConcurrencySlot caller bound =>
      obtain ⟨rfl, rfl, rfl⟩ := required
      rcases effect with ⟨inputs, executed⟩ | ⟨⟨error, rfl⟩, rfl⟩
      · cases executed
        have acquired := slotsCounted_acquire counted
        rw [Nat.add_right_comm] at acquired
        exact acquired
      · exact counted
    | releaseVirtualKeyConcurrencySlot caller =>
      obtain ⟨rfl, rfl⟩ := required
      rcases effect with ⟨inputs, executed⟩ | ⟨failed, _⟩
      · cases executed
        have released := slotsCounted_release counted
        rw [← Nat.zero_add rest] at released
        exact released
      · exact absurd failed permitted
    | acquireVirtualKeyRpmSlot caller bound =>
      rcases effect with ⟨inputs, executed⟩ | ⟨_, rfl⟩
      · cases executed
        exact (keepsConcurrency_acquireRpmSlot _ _ _).slotsCounted counted
      · exact counted
    | acquireVirtualKeyTpmCapacity caller bound requiredTokens =>
      rcases effect with ⟨inputs, executed⟩ | ⟨_, rfl⟩
      · obtain ⟨applied, virtualKeys, acquired, _, rfl⟩ := ok_of_committed executed
        have updated := congrArg Prod.snd (updateAt_of_tryUpdateAt acquired)
        subst updated
        exact (keepsConcurrency_acquireTpmCapacity _ _ _ _).slotsCounted counted
      · exact counted
    | _ => exact absurd rfl keeps

end

/-! ## The pool -/

theorem permitted_of_slotsKept (limitEq : virtualKeyConcurrencyLimit auth = some limit)
    {event : ChatEvent ℕ} (kept : SlotsKept auth event) :
    Permitted slotUpdate (slotRequires auth limit) slotPermits event := by
  cases event with
  | started program =>
    obtain ⟨context, rfl, _, rfl⟩ := kept
    exact returns_chatCompletions limitEq
  | performed held call answer => exact kept
  | dropped process => exact kept

/-- As long as no request is dropped with a slot and no release fails: the
counter is the number of slots that the requests have, which is within the
limit; a slot is given back only by a request that has it; and a request that
has ended has none. -/
theorem slots_exact (auth : AuthContext) (limit : Int32)
    (limitEq : virtualKeyConcurrencyLimit auth = some limit) {first last : ChatPool ℕ}
    {events : List (ChatEvent ℕ)} (noRequests : first.processes = [])
    (unused : SlotsCounted auth limit first.shared.virtualKeys 0)
    (run : PoolRun gatewayEffects slotUpdate first events last)
    (kept : ∀ event ∈ events, SlotsKept auth event) :
    SlotsCounted auth limit last.shared.virtualKeys last.total ∧ (∀ held caller answer,
        .performed held (.releaseVirtualKeyConcurrencySlot caller) answer ∈ events → held = 1) ∧
      ∀ process ∈ last.processes, ∀ response, process.program = .done response →
        process.share = 0 := by
  have permitted : ∀ event ∈ events,
      Permitted slotUpdate (slotRequires auth limit) slotPermits event :=
    fun event eventMem => permitted_of_slotsKept limitEq (kept event eventMem)
  have keeps : ∀ (call : GatewayCall) (tables : GatewayTables) (answer : call.Answer)
      (next : GatewayTables) (held rest : ℕ),
      SlotsCounted auth limit tables.virtualKeys (held + rest) → slotRequires auth limit call held →
        slotPermits held call answer → gatewayEffects call tables answer next →
          SlotsCounted auth limit next.virtualKeys (slotUpdate call answer held + rest) :=
    fun _ _ _ _ _ _ => slotsCounted_of_effects
  have start : first.Accounted (slotContract auth limit)
      (fun tables => SlotsCounted auth limit tables.virtualKeys) :=
    Pool.accounted_of_no_processes noRequests unused
  have accounted := start.run keeps permitted run
  refine ⟨accounted.total_consistent, ?_, ?_⟩
  · intro held caller answer performed
    exact (start.requires_of_performed keeps permitted run performed).2
  · intro process processMem response programEq
    have returned := accounted.returns process processMem
    rw [Returns, programEq] at returned
    exact returned

theorem slotPermits_of_succeeds (held : ℕ) {answer : call.Answer}
    (succeeds : ¬ call.DatabaseFailed answer) : slotPermits held call answer := by
  cases call with
  | releaseVirtualKeyConcurrencySlot => exact succeeds
  | _ => exact trivial

/-- Requests like the sample one, with the provider answering. -/
def samplePlay (moves : List (PoolMove GatewayCall.Answer ChatResponse)) :
    Option (List (ChatEvent ℕ) × ChatPool ℕ) :=
  playMoves slotUpdate (sampleRespond sampleUsage) moves ⟨sampleGatewayTables, []⟩

section

variable {event : ChatEvent ℕ}

theorem slotsKept_of_start {requestId : Uuid} (plays : Plays (sampleRespond sampleUsage)
    (.start (chatCompletions { sampleChat with requestId })) event) :
    SlotsKept sampleAuth event := by
  cases plays
  exact ⟨_, rfl, rfl, rfl⟩

theorem slotsKept_of_call {index : Nat}
    (plays : Plays (sampleRespond sampleUsage) (.call index) event) :
    SlotsKept sampleAuth event := by
  obtain ⟨held, call, answer, tables, next, rfl, responded⟩ := plays
  exact slotPermits_of_succeeds held
    (sampleRespond_succeeds sampleUsage call tables (answer, next) responded).2

theorem poolRun_samplePlay {moves : List (PoolMove GatewayCall.Answer ChatResponse)}
    {kept : ChatEvent ℕ → Prop} {played : List (ChatEvent ℕ) × ChatPool ℕ}
    (keeps : ∀ move ∈ moves, ∀ event, Plays (sampleRespond sampleUsage) move event → kept event)
    (playedEq : samplePlay moves = some played) :
    PoolRun gatewayEffects slotUpdate ⟨sampleGatewayTables, []⟩ played.1 played.2 ∧
      ∀ event ∈ played.1, kept event :=
  poolRun_playMoves (fun call tables answered responded =>
    (sampleRespond_succeeds sampleUsage call tables answered responded).1) keeps playedEq

theorem slotsCounted_sampleGatewayTables :
    SlotsCounted sampleAuth 2 sampleGatewayTables.virtualKeys 0 :=
  ⟨_, rfl, by decide, by decide, by decide⟩

end

/-- Two requests have a slot each until the first one ends. -/
theorem slots_exact_sampleChat : ∃ (events : List (ChatEvent ℕ)) (last : ChatPool ℕ),
      PoolRun gatewayEffects slotUpdate ⟨sampleGatewayTables, []⟩ events last ∧
      (∀ event ∈ events, SlotsKept sampleAuth event) ∧ last.processes.length = 2 ∧
      last.processes.countP (·.program.isDone) = 1 ∧ last.total = 1 ∧
      SlotsCounted sampleAuth 2 last.shared.virtualKeys 1 := by
  have ends : (samplePlay (interleavedChats firstEnds)).any (fun played =>
      decide (played.2.processes.length = 2 ∧
        played.2.processes.countP (·.program.isDone) = 1 ∧ played.2.total = 1)) = true := by
    decide +kernel
  obtain ⟨played, playedEq, reached⟩ := (Option.any_eq_true _ _).mp ends
  obtain ⟨two, oneEnded, oneSlot⟩ := of_decide_eq_true reached
  obtain ⟨run, kept⟩ := poolRun_samplePlay (forall_mem_interleavedChats
    (fun _ _ => slotsKept_of_start) (fun _ _ => slotsKept_of_call)) playedEq
  have counted := (slots_exact sampleAuth 2 (by decide +kernel) rfl
    slotsCounted_sampleGatewayTables run kept).1
  exact ⟨played.1, played.2, run, kept, two, oneEnded, oneSlot, oneSlot ▸ counted⟩

/-- A client that disconnects after its request has taken a slot: no request is
left, and the counter stays at one. -/
theorem droppedRequest_keeps_slot : ∃ (events : List (ChatEvent ℕ)) (last : ChatPool ℕ),
      PoolRun gatewayEffects slotUpdate ⟨sampleGatewayTables, []⟩ events last ∧
      (∀ event ∈ events, SlotsKept sampleAuth event ∨ ∃ process, event = .dropped process) ∧
      last.processes = [] ∧
      (last.shared.virtualKeys.find sampleAuth.virtualKeyId).map concurrencyUsed =
        some 1 := by
  have disconnects : (samplePlay [.start (chatCompletions sampleChat), .call 0, .call 0, .call 0,
      .call 0, .drop 0]).any (fun played => played.2.processes.isEmpty && decide
        ((played.2.shared.virtualKeys.find sampleAuth.virtualKeyId).map
          concurrencyUsed = some 1)) = true := by
    decide +kernel
  obtain ⟨played, playedEq, reached⟩ := (Option.any_eq_true _ _).mp disconnects
  rw [Bool.and_eq_true, List.isEmpty_iff] at reached
  obtain ⟨run, kept⟩ := poolRun_samplePlay
    (by simpa using ⟨fun _ => Or.inl ∘ slotsKept_of_start, fun _ => Or.inl ∘ slotsKept_of_call,
      fun _ => Or.inr⟩) playedEq
  exact ⟨played.1, played.2, run, kept, reached.1, of_decide_eq_true reached.2⟩

/-! ## Dropped requests -/

/-- Requests of the key are started, no slot is given back by a statement that fails, and a
request may be dropped at any time. -/
def RunsKey (auth : AuthContext) : ChatEvent ℕ → Prop
  | .started program => ∃ context, context.auth = auth ∧ program = chatCompletions context
  | .performed held call answer => slotPermits held call answer
  | .dropped _ => True

/-- Whichever requests are dropped, and wherever: the counter of a key is what it was at first, with
the slots that its requests have and those that dropped requests had, and is within the limit. -/
theorem slots_within_limit (auth : AuthContext) (limit : Int32) {used : ℕ}
    (limitEq : virtualKeyConcurrencyLimit auth = some limit) {first last : ChatPool ℕ}
    {events : List (ChatEvent ℕ)} (noRequests : first.processes = [])
    (counted : SlotsCounted auth limit first.shared.virtualKeys used)
    (run : PoolRun gatewayEffects slotUpdate first events last)
    (ofKey : ∀ event ∈ events, RunsKey auth event) :
    SlotsCounted auth limit last.shared.virtualKeys
      (last.total + (used + (events.map PoolEvent.lost).sum)) := by
  have start : first.Accounted (slotContract auth limit) fun tables held =>
      SlotsCounted auth limit tables.virtualKeys (held + used) :=
    Pool.accounted_of_no_processes noRequests (by rwa [Nat.zero_add])
  refine (Pool.Accounted.run_of_losses (fun tables => SlotsCounted auth limit tables.virtualKeys)
    (fun _ _ _ _ _ _ => slotsCounted_of_effects) start (fun event member => ?_)
    run).total_consistent
  have allowed := ofKey event member
  cases event with
  | started program =>
    obtain ⟨context, rfl, rfl⟩ := allowed
    exact .inl (returns_chatCompletions limitEq)
  | performed held call answer => exact .inl allowed
  | dropped process => exact .inr ⟨process, rfl⟩

theorem runsKey_of_slotsKept {event : ChatEvent ℕ} (kept : SlotsKept auth event) :
    RunsKey auth event := by
  cases event with
  | started program =>
    obtain ⟨context, authEq, _, programEq⟩ := kept
    exact ⟨context, authEq, programEq⟩
  | performed held call answer => exact kept
  | dropped process => trivial

/-- Of two requests that have a slot, one is dropped. -/
theorem slots_within_limit_dropped : ∃ (events : List (ChatEvent ℕ)) (last : ChatPool ℕ),
    last.total = 1 ∧ (events.map PoolEvent.lost).sum = 1 ∧
      SlotsCounted sampleAuth 2 last.shared.virtualKeys (1 + (0 + 1)) := by
  have drops : (samplePlay (interleavedChats (firstEnds.take 8) ++ [.drop 1])).any (fun played =>
      decide (played.2.total = 1 ∧ (played.1.map PoolEvent.lost).sum = 1)) = true := by
    decide +kernel
  obtain ⟨played, playedEq, reached⟩ := (Option.any_eq_true _ _).mp drops
  obtain ⟨oneSlot, oneLost⟩ := of_decide_eq_true reached
  obtain ⟨run, ofKey⟩ := poolRun_samplePlay (List.forall_mem_append.mpr
    ⟨forall_mem_interleavedChats (fun _ _ => runsKey_of_slotsKept ∘ slotsKept_of_start)
      (fun _ _ => runsKey_of_slotsKept ∘ slotsKept_of_call), by
      rintro _ (_ | ⟨_, ⟨⟩⟩) _ ⟨process, rfl⟩
      trivial⟩) playedEq
  have counted := slots_within_limit sampleAuth 2 (by decide +kernel) rfl
    slotsCounted_sampleGatewayTables run ofKey
  rw [oneSlot, oneLost] at counted
  exact ⟨played.1, played.2, oneSlot, oneLost, counted⟩

end FuboxApi
