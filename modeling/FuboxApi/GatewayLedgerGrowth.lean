import FuboxApi.ChatTables
import FuboxApi.GrowingLists

/-!
# The ledger of the gateway only grows

Three statements of the chat handler write to the ledger. Whatever requests run, fail and are
dropped, they append rows that are for new operations, and reverse pending reserves.
-/

namespace FuboxApi.GatewayLedger

open AsyncProgram GrowingLists

/-- A row as it was written, or a pending reserve that has been reversed. -/
def StoredAs (row stored : GatewayLedgerRow) : Prop :=
  stored = row ∨ row.entryType = .reserve ∧ row.status = .pending ∧ stored = reverse row

/-- Two rows that are for different operations, and do not both charge one request. -/
def Apart (other row : GatewayLedgerRow) : Prop :=
  other.tenantId = row.tenantId → other.idempotencyKey ≠ row.idempotencyKey ∧
    ¬ (row.entryType = .settle ∧ other.entryType = .settle ∧ other.requestId = row.requestId ∧
      other.status.IsActive)

/-- The rows that have grown out of initial ones. -/
structure Grown (initial rows : List GatewayLedgerRow) : Prop where
  grows : Grows StoredAs initial rows
  apart : rows.Pairwise Apart

section

variable {auth : AuthContext} {requestId : Uuid} {initial rows : List GatewayLedgerRow}
  {ledger : GatewayLedger} {row : GatewayLedgerRow} {call : GatewayCall}
  {tables next : GatewayTables} {answer : call.Answer}

theorem reserve_of_isPendingPaidReserve (pending : isPendingPaidReserve auth requestId row = true) :
    row.entryType = .reserve ∧ row.status = .pending := by
  simp only [isPendingPaidReserve, Bool.and_eq_true, decide_eq_true_eq] at pending
  exact ⟨pending.1.1.2, pending.1.2⟩

theorem Grown.reverse (grown : Grown initial rows) :
    Grown initial (reversePendingPaidReserves auth requestId rows) where
  grows := by
    refine grown.grows.map fun row stored form => ?_
    split
    · next pending =>
      obtain ⟨isReserve, isPending⟩ := reserve_of_isPendingPaidReserve pending
      rcases form with rfl | ⟨_, _, rfl⟩
      · exact .inr ⟨isReserve, isPending, rfl⟩
      · cases isPending
    · exact form
  apart := by
    refine List.pairwise_map.mpr (grown.apart.imp fun {other row} apart => ?_)
    split
    · split <;> exact fun sameTenant => ⟨(apart sameTenant).1, fun twice =>
        LedgerEntryStatus.not_isActive_reversed twice.2.2.2⟩
    · split <;> exact apart

theorem Grown.append (grown : Grown initial ledger.rows) (free : ledger.conflicts row = false) :
    Grown initial (ledger.rows ++ [row]) where
  grows := grown.grows.append [row]
  apart := by
    refine List.pairwise_append.mpr ⟨grown.apart, List.pairwise_singleton _ _, ?_⟩
    rintro other member _ isNew
    cases List.mem_singleton.mp isNew
    have noConflict := List.any_eq_false.mp free other member
    simp only [Bool.and_eq_true, Bool.or_eq_true, decide_eq_true_eq, not_and, not_or] at noConflict
    exact fun sameTenant => ⟨(noConflict sameTenant).1, fun twice =>
      (noConflict sameTenant).2 ⟨⟨twice.1, twice.2.1⟩, twice.2.2.1⟩ twice.2.2.2⟩

theorem Grown.of_effects (effect : gatewayEffects call tables answer next)
    (grown : Grown initial tables.ledger.rows) : Grown initial next.ledger.rows := by
  by_cases keeps : call.writesLedger = false
  · rw [(tables_of_effects effect).1 keeps]
    exact grown
  · unfold gatewayEffects at effect
    cases call with
    | insertPendingPaidReserve auth entry =>
      rcases effect with ⟨inputs, executed⟩ | ⟨_, rfl⟩
      · obtain ⟨_, ledger, inserted, _, rfl⟩ := ok_of_committed executed
        rcases insertPendingPaidReserve_cases inserted with
          ⟨_, rfl⟩ | ⟨_, _, _, _, _, _, free, rfl⟩
        · exact grown
        · exact grown.append free
      · exact grown
    | releasePendingPaidReserve auth requestId _ =>
      rcases effect with ⟨inputs, executed⟩ | ⟨_, rfl⟩
      · cases executed
        exact grown.reverse
      · exact grown
    | insertConfirmedSettle auth entry =>
      rcases effect with ⟨inputs, executed⟩ | ⟨_, rfl⟩
      · obtain ⟨_, ledger, inserted, _, rfl⟩ := ok_of_committed executed
        rcases insertConfirmedSettle_cases inserted with
          rfl | ⟨_, _, rows, _, _, rfl | ⟨free, rfl⟩, rfl⟩
        · exact grown
        · exact grown.reverse
        · exact (grown.append free).reverse
      · exact grown
    | _ => exact absurd rfl keeps

end

/-- However the requests of the gateway interleave, fail and are dropped: rows of the ledger stay at
their places, all that changes of one is that a pending reserve is reversed, no operation is written
twice and no request is charged twice. -/
theorem ledger_grows {Share : Type} [AddCommMonoid Share]
    {update : ShareUpdate GatewayCall.Answer Share} {first last : ChatPool Share}
    {events : List (ChatEvent Share)} (run : PoolRun gatewayEffects update first events last)
    (apart : first.shared.ledger.rows.Pairwise Apart) :
    Grown first.shared.ledger.rows last.shared.ledger.rows :=
  run.shared_invariant (fun tables => Grown first.shared.ledger.rows tables.ledger.rows)
    ⟨grows_refl (fun _ => .inl rfl) _, apart⟩ fun _ _ _ _ effect grown => grown.of_effects effect

/-- A settled request, and the reserve of one that is sent again. -/
def earlierRows : List GatewayLedgerRow :=
  [settleRow sampleAuth (sampleId 14) ⟨sampleId 15, sampleMoney (10 ^ 8), "USD"⟩ 1,
    reserveRow sampleAuth (sampleId 16) (sampleId 9) ⟨sampleId 8, sampleMoney (10 ^ 8), "USD"⟩ (-1)]

def sampleFirst : ChatPool ℕ :=
  ⟨{ sampleGatewayTables with ledger := { sampleLedger with rows := earlierRows } }, []⟩

/-- Another request reserves, and the one that is sent again settles: its reserve is reversed. -/
theorem ledger_grows_sampleChat : ∃ (events : List (ChatEvent ℕ)) (last : ChatPool ℕ),
    PoolRun gatewayEffects (fun _ _ share => share) sampleFirst events last ∧
      last.shared.ledger.rows.map (fun row => (row.entryType, row.status)) =
        [(.settle, .confirmed), (.reserve, .reversed), (.reserve, .pending),
          (.settle, .confirmed)] ∧
      Grown earlierRows last.shared.ledger.rows := by
  have settles : (playMoves (fun _ _ share => share) (sampleRespond sampleUsage)
      (interleavedChats firstEnds) sampleFirst).any (fun played =>
        decide (played.2.shared.ledger.rows.map (fun row => (row.entryType, row.status)) =
          [(.settle, .confirmed), (.reserve, .reversed), (.reserve, .pending),
            (.settle, .confirmed)])) = true := by
    decide +kernel
  obtain ⟨played, playedEq, reached⟩ := (Option.any_eq_true _ _).mp settles
  have run := (poolRun_playMoves (fun call tables answered responded =>
    (sampleRespond_succeeds sampleUsage call tables answered responded).1)
    (fun _ _ _ _ => trivial) playedEq).1
  have apart : earlierRows.Pairwise Apart := by
    simp only [earlierRows, List.pairwise_pair]
    exact fun _ => ⟨by decide +kernel, fun twice => by cases twice.1⟩
  exact ⟨played.1, played.2, run, of_decide_eq_true reached, ledger_grows run apart⟩

end FuboxApi.GatewayLedger
