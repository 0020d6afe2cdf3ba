import FuboxApi.ChatHandler
import FuboxApi.ProcessPools
import FuboxApi.VirtualKeyWindows

/-!
# The tables behind the chat handler

A statement commits its answer and its changes, or fails and changes nothing; every other call may
have any answer and changes nothing here.
-/

namespace FuboxApi

open AsyncProgram

structure ChannelRow where
  id : Uuid
  tenantId : Uuid
  providerId : Uuid
  deletedAt : Option Nat

structure GatewayTables where
  ledger : GatewayLedger
  channels : KeyedTable ChannelRow.id
  providerKeys : ProviderKeyTable
  virtualKeys : VirtualKeyTable

/-- What a statement takes from outside these tables: the time in microseconds,
a generated identifier, and the rows of the budget query. -/
structure StatementInputs where
  now : Int
  rowId : Uuid
  budgets : List (String × ℚ)

def StatementInputs.minuteBucket (inputs : StatementInputs) : Int :=
  inputs.now / 60000000

/-- `UPDATE_PROVIDER_KEY_RUNTIME_STATUS_SQL` on a row. -/
def ProviderKeyRow.updateRuntimeStatus (channels : KeyedTable ChannelRow.id) (tenantId : Uuid)
    (channelId providerId : Uuid) (status : ProviderKeyRuntimeStatus) (row : ProviderKeyRow) :
    Option ProviderKeyRow :=
  if row.tenantId = tenantId ∧ row.channelId = channelId ∧
      row.status ≠ .manualDisabled ∧ row.status ≠ .deleted ∧
      (channels.find row.channelId).any (fun channel =>
        channel.tenantId = row.tenantId && channel.providerId = providerId &&
          channel.deletedAt.isNone) then
    some { row with status := status.status }
  else none

/-! ## Statements -/

namespace GatewayTables

def succeeded {Value : Type} (value : Value) : ApiResult Value :=
  .ok value

/-- A statement that was not aborted. -/
def committed {Error Value Table : Type} (result : Except Error (Value × Table))
    (install : Table → GatewayTables) : Option (ApiResult Value × GatewayTables) :=
  match result with
  | .ok (value, table) => some (.ok value, install table)
  | .error _ => none

def updateVirtualKey (tables : GatewayTables) (auth : AuthContext)
    (update : VirtualKeyRow → Option VirtualKeyRow) : Bool × GatewayTables :=
  let updated := tables.virtualKeys.updateAt auth.virtualKeyId update
  (updated.1, { tables with virtualKeys := updated.2 })

def updateProviderKeyRuntimeStatus (tables : GatewayTables) (auth : AuthContext)
    (providerKeyId channelId providerId : Uuid) (status : ProviderKeyRuntimeStatus) :
    Bool × GatewayTables :=
  let updated := tables.providerKeys.updateAt providerKeyId
    (ProviderKeyRow.updateRuntimeStatus tables.channels auth.tenantId channelId providerId status)
  (updated.1, { tables with providerKeys := updated.2 })

/-- A call as a statement on the tables: its answer and what it leaves. There is
none for an aborted statement and for the calls that read or write other things. -/
def statement (inputs : StatementInputs) (tables : GatewayTables) :
    (call : GatewayCall) → Option (call.Answer × GatewayTables)
  | .virtualKeyPaidHotPathBetaEnabled auth =>
    some (succeeded ((tables.virtualKeys.find auth.virtualKeyId).any fun row =>
      row.isPresent auth.tenantId && row.active && row.paidHotPathBetaEnabled), tables)
  | .resolvePreAuthorizeReadModel auth currency =>
    let query : BalanceQuery := ⟨auth.tenantId, auth.projectId, currency, inputs.now⟩
    let readModel : PreAuthorizeReadModel :=
      ⟨query.preAuthorizeWalletBalance tables.ledger.database, inputs.budgets⟩
    some (succeeded readModel, tables)
  | .insertPendingPaidReserve auth entry =>
    committed (tables.ledger.insertPendingPaidReserveLedgerEntry auth inputs.now inputs.rowId
      entry) fun ledger => { tables with ledger }
  | .releasePendingPaidReserve auth requestId _ =>
    let released := tables.ledger.releasePendingPaidReserve auth requestId
    some (succeeded released.1, { tables with ledger := released.2 })
  | .insertConfirmedSettle auth entry =>
    committed (tables.ledger.insertConfirmedSettleLedgerEntry auth inputs.rowId entry)
      fun ledger => { tables with ledger }
  | .acquireVirtualKeyConcurrencySlot auth limit =>
    let updated := tables.updateVirtualKey auth
      (VirtualKeyRow.acquireConcurrencySlot auth.tenantId limit)
    some (succeeded updated.1, updated.2)
  | .releaseVirtualKeyConcurrencySlot auth =>
    let updated := tables.updateVirtualKey auth (VirtualKeyRow.releaseConcurrencySlot auth.tenantId)
    some (succeeded (), updated.2)
  | .acquireVirtualKeyRpmSlot auth limit =>
    let updated := tables.updateVirtualKey auth
      (VirtualKeyRow.acquireRpmSlot auth.tenantId limit inputs.minuteBucket)
    some (succeeded updated.1, updated.2)
  | .acquireVirtualKeyTpmCapacity auth limit requiredTokens =>
    committed (tables.virtualKeys.tryUpdateAt auth.virtualKeyId
      (VirtualKeyRow.acquireTpmCapacity auth.tenantId limit requiredTokens inputs.minuteBucket))
      fun virtualKeys => { tables with virtualKeys }
  | .executeProviderKeyRateLimitReservation input =>
    committed (executeProviderKeyRateLimitReservation input tables.providerKeys)
      fun providerKeys => { tables with providerKeys }
  | .updateProviderKeyRuntimeStatus auth providerKeyId channelId providerId status =>
    let updated := tables.updateProviderKeyRuntimeStatus auth providerKeyId channelId
      providerId status
    some (succeeded updated.1, updated.2)
  | _ => none

end GatewayTables

/-! ## Effects -/

/-- Requests that run over the tables, each with a share of something. -/
abbrev ChatPool (Share : Type) := Pool GatewayCall.Answer ChatResponse Share GatewayTables

abbrev ChatEvent (Share : Type) := PoolEvent GatewayCall.Answer ChatResponse Share

/-- The calls that are answered from these tables. -/
def GatewayCall.isStatement : GatewayCall → Bool
  | virtualKeyPaidHotPathBetaEnabled _ | resolvePreAuthorizeReadModel _ _
  | insertPendingPaidReserve _ _ | releasePendingPaidReserve _ _ _ | insertConfirmedSettle _ _
  | acquireVirtualKeyConcurrencySlot _ _ | releaseVirtualKeyConcurrencySlot _
  | acquireVirtualKeyRpmSlot _ _ | acquireVirtualKeyTpmCapacity _ _ _
  | executeProviderKeyRateLimitReservation _ | updateProviderKeyRuntimeStatus _ _ _ _ _ => true
  | _ => false

def gatewayEffects : Effects GatewayCall.Answer GatewayTables := fun call tables answer next =>
  if call.isStatement then
    (∃ inputs, tables.statement inputs call = some (answer, next)) ∨
      call.DatabaseFailed answer ∧ next = tables
  else next = tables

/-- The effects as long as no call fails in the database. -/
def succeedingEffects : Effects GatewayCall.Answer GatewayTables :=
  fun call tables answer next =>
    gatewayEffects call tables answer next ∧ ¬ call.DatabaseFailed answer

open GatewayTables

section

variable {call : GatewayCall} {tables next : GatewayTables} {answer : call.Answer}

theorem statement_of_succeedingEffects (isStatement : call.isStatement = true)
    (effect : succeedingEffects call tables answer next) :
    ∃ inputs, tables.statement inputs call = some (answer, next) := by
  obtain ⟨performed, succeeds⟩ := effect
  rw [gatewayEffects, if_pos isStatement] at performed
  exact performed.resolve_right fun failed => succeeds failed.1

theorem ok_of_committed {Error Value Table : Type} {result : Except Error (Value × Table)}
    {install : Table → GatewayTables} {answer : ApiResult Value}
    (executed : committed result install = some (answer, next)) :
    ∃ value table, result = .ok (value, table) ∧ answer = .ok value ∧ next = install table := by
  rcases result with _ | ⟨value, table⟩
  · cases executed
  · cases executed
    exact ⟨value, table, rfl, rfl, rfl⟩

def GatewayCall.writesLedger : GatewayCall → Bool
  | insertPendingPaidReserve _ _ | releasePendingPaidReserve _ _ _
  | insertConfirmedSettle _ _ => true
  | _ => false

/-- The statements on the row of the virtual key. -/
def GatewayCall.writesVirtualKeys : GatewayCall → Bool
  | acquireVirtualKeyConcurrencySlot _ _ | releaseVirtualKeyConcurrencySlot _
  | acquireVirtualKeyRpmSlot _ _ | acquireVirtualKeyTpmCapacity _ _ _ => true
  | _ => false

/-- The statements on the row of a provider key. -/
def GatewayCall.writesProviderKeys : GatewayCall → Bool
  | executeProviderKeyRateLimitReservation _ | updateProviderKeyRuntimeStatus _ _ _ _ _ => true
  | _ => false

/-- What a call does not write stays as it was. -/
def GatewayCall.KeepsUnwritten (call : GatewayCall) (tables next : GatewayTables) : Prop :=
  (call.writesLedger = false → next.ledger = tables.ledger) ∧
    (call.writesVirtualKeys = false → next.virtualKeys = tables.virtualKeys) ∧
    (call.writesProviderKeys = false → next.providerKeys = tables.providerKeys)

theorem tables_of_statement {inputs : StatementInputs}
    (executed : tables.statement inputs call = some (answer, next)) :
    call.KeepsUnwritten tables next := by
  cases call with
  | virtualKeyPaidHotPathBetaEnabled | resolvePreAuthorizeReadModel
  | releasePendingPaidReserve | acquireVirtualKeyConcurrencySlot
  | releaseVirtualKeyConcurrencySlot | acquireVirtualKeyRpmSlot
  | updateProviderKeyRuntimeStatus =>
    cases executed
    refine ⟨fun writes => ?_, fun writes => ?_, fun writes => ?_⟩ <;>
      first | rfl | cases writes
  | insertPendingPaidReserve | insertConfirmedSettle | acquireVirtualKeyTpmCapacity
  | executeProviderKeyRateLimitReservation =>
    obtain ⟨_, _, _, _, rfl⟩ := ok_of_committed executed
    refine ⟨fun writes => ?_, fun writes => ?_, fun writes => ?_⟩ <;>
      first | rfl | cases writes
  | _ => cases executed

theorem tables_of_effects (effect : gatewayEffects call tables answer next) :
    call.KeepsUnwritten tables next := by
  unfold gatewayEffects at effect
  split at effect
  · rcases effect with ⟨inputs, executed⟩ | ⟨_, rfl⟩
    · exact tables_of_statement executed
    · exact ⟨fun _ => rfl, fun _ => rfl, fun _ => rfl⟩
  · subst effect
    exact ⟨fun _ => rfl, fun _ => rfl, fun _ => rfl⟩

end

/-! ## Playing a request -/

/-- The tables answer the statements, and a function every other call. -/
def GatewayTables.respond (tables : GatewayTables) (inputs : StatementInputs)
    (outside : (call : GatewayCall) → call.Answer) (call : GatewayCall) :
    Option (call.Answer × GatewayTables) :=
  if call.isStatement then tables.statement inputs call else some (outside call, tables)

variable {inputs : StatementInputs}

theorem not_databaseFailed_of_statement {call : GatewayCall} {tables next : GatewayTables}
    {answer : call.Answer} (executed : tables.statement inputs call = some (answer, next)) :
    ¬ call.DatabaseFailed answer := by
  cases call with
  | virtualKeyPaidHotPathBetaEnabled | resolvePreAuthorizeReadModel
  | releasePendingPaidReserve | acquireVirtualKeyConcurrencySlot
  | releaseVirtualKeyConcurrencySlot | acquireVirtualKeyRpmSlot
  | updateProviderKeyRuntimeStatus =>
    cases executed
    rintro ⟨error, failed⟩
    cases failed
  | insertPendingPaidReserve | insertConfirmedSettle | executeProviderKeyRateLimitReservation
  | acquireVirtualKeyTpmCapacity =>
    obtain ⟨_, _, _, rfl, _⟩ := ok_of_committed executed
    rintro ⟨error, failed⟩
    cases failed
  | _ => cases executed

theorem succeedingEffects_of_respond {outside : (call : GatewayCall) → call.Answer}
    (succeeds : ∀ call : GatewayCall, ¬ call.DatabaseFailed (outside call)) (call : GatewayCall)
    (tables : GatewayTables) (answered : call.Answer × GatewayTables)
    (responded : tables.respond inputs outside call = some answered) :
    succeedingEffects call tables answered.1 answered.2 := by
  unfold succeedingEffects gatewayEffects
  unfold respond at responded
  split at responded
  · next isStatement =>
    rw [if_pos isStatement]
    exact ⟨.inl ⟨inputs, responded⟩, not_databaseFailed_of_statement responded⟩
  · next notStatement =>
    cases responded
    rw [if_neg notStatement]
    exact ⟨rfl, succeeds call⟩

/-! A request for worked cases: on the paid path, with a limit of two concurrent
requests for its virtual key and of three for its provider key. -/

def sampleAuth : AuthContext :=
  ⟨sampleId 1, sampleId 2, sampleId 3, .object [("concurrency_limit", .integer 2)]⟩

def sampleRoute : ResolvedChatRoute where
  canonicalModelId := sampleId 4
  providerId := sampleId 5
  channelId := sampleId 6
  providerKeyId := sampleId 7
  protocolMode := "openai"
  providerKeyLimits := ⟨none, none, some 3⟩
  providerKeyCurrentWindowState := .object [("concurrency", .object [("used", .integer 0)])]

def sampleChat : ChatContext where
  environment := ⟨true, fun _ => none⟩
  auth := sampleAuth
  requestId := sampleId 8
  request := ⟨false, fun _ => .ok (), fun _ => .ok (), fun _ => .ok ()⟩
  selectedRoute := sampleRoute
  fallbackRoutes := []
  requiredTokens := 1
  requiredTokens_nonneg := by decide

/-- An empty wallet of the tenant that may be overdrawn by 10. -/
def sampleLedger : GatewayLedger where
  wallets := [⟨sampleId 9, sampleId 1, none, "USD", .active, -10, 0, none⟩]
  creditGrants := []
  rows := []

def sampleProviderKey : ProviderKeyRow where
  tenantId := sampleId 1
  id := sampleId 7
  channelId := sampleId 6
  status := .enabled
  deletedAt := none
  limits := ⟨none, none, some 3⟩
  currentWindowState := .object [("concurrency", .object [("used", .integer 0)])]

def sampleGatewayTables : GatewayTables where
  ledger := sampleLedger
  channels := .empty
  providerKeys := KeyedTable.empty.replace sampleProviderKey
  virtualKeys := KeyedTable.empty.replace
    ⟨sampleId 3, sampleId 1, true, none, false, ⟨none, none, none, none, none⟩⟩

/-- A price of 1 for a request and nothing for its tokens. -/
def samplePriceVersion : ResolvedPriceVersion where
  id := sampleId 10
  pricingRules := some ⟨"USD", defaultMoneyScale, sampleMoney 0, sampleMoney 0, sampleMoney 0,
    sampleMoney 0, sampleMoney (10 ^ 8)⟩

/-- The outside world: the provider has one answer, a stream is cancelled, and
everything else succeeds. -/
def sampleAnswers (provider : AdapterResult ProviderPayload) : (call : GatewayCall) → call.Answer
  | .virtualKeyPaidHotPathBetaEnabled _ => succeeded true
  | .resolveActivePriceVersion _ _ => succeeded (some samplePriceVersion)
  | .resolvePreAuthorizeReadModel _ _ => succeeded (PreAuthorizeReadModel.mk none [])
  | .insertPendingPaidReserve _ _ => succeeded PaidReserveOutcome.applied
  | .releasePendingPaidReserve _ _ _ => succeeded true
  | .insertConfirmedSettle _ _ => succeeded true
  | .acquireVirtualKeyConcurrencySlot _ _ => succeeded true
  | .releaseVirtualKeyConcurrencySlot _ => succeeded ()
  | .acquireVirtualKeyRpmSlot _ _ => succeeded true
  | .acquireVirtualKeyTpmCapacity _ _ _ => succeeded true
  | .executeProviderKeyRateLimitReservation _ =>
    succeeded ProviderKeyRateLimitReservationExecutionStatus.applied
  | .updateProviderKeyRuntimeStatus _ _ _ _ _ => succeeded true
  | .createProviderAttemptStarted _ _ => succeeded (sampleId 11)
  | .openProviderKeyForRoute _ => succeeded ()
  | .writeLog _ => succeeded ()
  | .validateProviderEndpoint _ => (Except.ok () : AdapterResult Unit)
  | .callProvider _ => provider
  | .openProviderStream _ => (Except.ok () : AdapterResult Unit)
  | .streamEnd => (StreamEndReason.clientCancel, RequestUsageUpdate.mk none none)

theorem sampleAnswers_succeed (provider : AdapterResult ProviderPayload)
    (call : GatewayCall) : ¬ call.DatabaseFailed (sampleAnswers provider call) := by
  cases call <;> simp [GatewayCall.DatabaseFailed, sampleAnswers, succeeded]

/-- The world of the worked cases. -/
def sampleRespond (provider : AdapterResult ProviderPayload) (call : GatewayCall)
    (tables : GatewayTables) : Option (call.Answer × GatewayTables) :=
  tables.respond ⟨0, sampleId 12, []⟩ (sampleAnswers provider) call

theorem sampleRespond_succeeds (provider : AdapterResult ProviderPayload) (call : GatewayCall)
    (tables : GatewayTables) (answered : call.Answer × GatewayTables)
    (responded : sampleRespond provider call tables = some answered) :
    succeedingEffects call tables answered.1 answered.2 :=
  succeedingEffects_of_respond (sampleAnswers_succeed provider) call tables answered responded

/-- Two requests that make calls in turn. The second one is the first process of the pool. -/
def interleavedChats (calls : List Nat) : List (PoolMove GatewayCall.Answer ChatResponse) :=
  .start (chatCompletions sampleChat) ::
    .start (chatCompletions { sampleChat with requestId := sampleId 13 }) :: calls.map .call

theorem forall_mem_interleavedChats {holds : PoolMove GatewayCall.Answer ChatResponse → Prop}
    {calls : List Nat}
    (starts : ∀ requestId, holds (.start (chatCompletions { sampleChat with requestId })))
    (called : ∀ index, holds (.call index)) : ∀ move ∈ interleavedChats calls, holds move := by
  refine List.forall_mem_cons.mpr ⟨starts _, List.forall_mem_cons.mpr ⟨starts _, ?_⟩⟩
  exact List.forall_mem_map.mpr fun index _ => called index

/-- Both requests get as far as their slots, and then the first one runs to its end. -/
def firstEnds : List Nat := (List.replicate 4 [1, 0]).flatten ++ List.replicate 15 1

/-- The provider answers with its usage. -/
def sampleUsage : AdapterResult ProviderPayload := .ok ⟨some ⟨some 3, some 4⟩, .ok none⟩

end FuboxApi
