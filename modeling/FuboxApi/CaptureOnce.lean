import FuboxApi.PaymentReversalSpec
import FuboxApi.TransitionRuns

/-!
# How often a payment intent is credited

Webhooks are recorded one by one and executed in any order; a capture is one transaction that holds
the lock of its intent. Its keys only exclude a second capture under the same event identifier.
-/

namespace FuboxApi

open CheckedFold CreditWriters KeyedRows PaymentWebhooks PaymentReversal Relation
  TransitionRuns

/-- The tables and the recorded events that wait for their execution. -/
structure WebhookWorkers where
  database : BillingDatabase
  pending : List RecordedPaymentEvent

/-- A webhook arrives, or a waiting event is executed. -/
inductive WebhookAction where
  | receive (newEventId : Uuid) (webhook : ProviderWebhook)
  | execute (index : Nat) (inputs : TransactionInputs)

namespace WebhookWorkers

def step (runtime : ControlPlaneRuntime) (workers : WebhookWorkers) :
    WebhookAction → WebhookWorkers × AdminResult PaymentPlanOutcome
  | .receive newEventId webhook =>
    match recordPaymentProviderWebhook runtime newEventId webhook
        workers.database with
    | .error failure => (workers, .error failure)
    | .ok (event, recorded) =>
      (⟨recorded, workers.pending ++ [event]⟩, .ok (.notRun "recorded"))
  | .execute index inputs =>
    match workers.pending[index]? with
    | none => (workers, .ok (.notRun "no_event"))
    | some event =>
      let result := executeVerifiedPaymentProviderBusinessPlan runtime inputs event workers.database
      (⟨result.1, workers.pending.eraseIdx index⟩, result.2)

end WebhookWorkers

namespace PaymentIntentRow

variable (intent : PaymentIntentRow)

def IsCaptureOf (capture : PaymentCaptureRow) : Prop :=
  capture.tenantId = intent.tenantId ∧ capture.paymentIntentId = intent.id

instance (capture : PaymentCaptureRow) : Decidable (intent.IsCaptureOf capture) :=
  inferInstanceAs (Decidable (_ ∧ _))

def isGrantOf (grant : CreditGrantRow) : Bool :=
  grant.tenantId = intent.tenantId ∧ grant.metadata.paymentIntentId = some intent.id

def captureCount (database : BillingDatabase) : Nat :=
  database.paymentCaptures.countP fun capture => intent.IsCaptureOf capture

/-- The total of the grants written for the intent. -/
def granted (database : BillingDatabase) : ℚ :=
  selectedSum intent.isGrantOf CreditGrantRow.amount database.creditGrants

def CreditedAtMostOnce (database : BillingDatabase) : Prop :=
  intent.granted database ≤ intent.amount

/-- The grants of the intent come from its captures, one from each. -/
structure Accounted (database : BillingDatabase) : Prop where
  amounts : ∀ other ∈ database.paymentIntents, other.tenantId = intent.tenantId →
    other.id = intent.id → other.amount = intent.amount
  linked : ∀ capture ∈ database.paymentCaptures, intent.IsCaptureOf capture →
    capture.creditGrantId ≠ none
  granted_eq : intent.granted database = intent.captureCount database • intent.amount

variable {intent}

theorem Accounted.creditedAtMostOnce_iff {database : BillingDatabase}
    (accounted : intent.Accounted database) :
    intent.CreditedAtMostOnce database ↔ intent.captureCount database ≤ 1 := by
  have positive := intent.amount_pos
  rw [CreditedAtMostOnce, accounted.granted_eq, nsmul_eq_mul, mul_le_iff_le_one_left positive]
  exact_mod_cast Iff.rfl

section

variable {before after : BillingDatabase}

/-- What changes neither the captures of the intent nor its grants keeps its
account. -/
structure SameAccount (intent : PaymentIntentRow) (before after : BillingDatabase) : Prop where
  accounted : intent.Accounted before → intent.Accounted after
  count_eq : intent.captureCount after = intent.captureCount before

theorem sameAccount_of_sameMoney (same : SameMoney before after) :
    intent.SameAccount before after := by
  have grants : after.creditGrants = before.creditGrants := by rw [same.ledger]
  have count : intent.captureCount after = intent.captureCount before := by
    rw [captureCount, same.paymentCaptures, ← captureCount]
  refine ⟨fun accounted => ⟨?_, ?_, ?_⟩, count⟩
  · rw [same.paymentIntents]
    exact accounted.amounts
  · rw [same.paymentCaptures]
    exact accounted.linked
  · rw [count, granted, grants]
    exact accounted.granted_eq

theorem granted_map_voided (voids : CreditGrantRow → Prop) [DecidablePred voids]
    (grants : List CreditGrantRow) : selectedSum intent.isGrantOf CreditGrantRow.amount
        (grants.map fun grant => if voids grant then voidedGrant grant else grant) =
      selectedSum intent.isGrantOf CreditGrantRow.amount grants := by
  induction grants with
  | nil => rfl
  | cons grant rest ih =>
    rw [List.map_cons, selectedSum_cons, selectedSum_cons, ih]
    split <;> rfl

theorem sameAccount_of_statement {capture : PaymentCaptureRow}
    (statement : ReversalStatement capture before after) : intent.SameAccount before after := by
  cases statement with
  | unrelated same => exact sameAccount_of_sameMoney same
  | appendsEntry =>
    exact ⟨fun accounted => ⟨accounted.amounts, accounted.linked, accounted.granted_eq⟩, rfl⟩
  | @voidsGrant voids =>
    refine ⟨fun accounted => ⟨accounted.amounts, accounted.linked, ?_⟩, rfl⟩
    rw [granted, granted_map_voided]
    exact accounted.granted_eq

theorem sameAccount_of_statements {capture : PaymentCaptureRow}
    (statements : ReflTransGen (ReversalStatement capture) before after) :
    intent.SameAccount before after := by
  induction statements with
  | refl => exact ⟨fun accounted => accounted, rfl⟩
  | @tail middle after _ statement ih =>
    have last : intent.SameAccount middle after := sameAccount_of_statement statement
    exact ⟨fun accounted => last.accounted (ih.accounted accounted),
      last.count_eq.trans ih.count_eq⟩

end

variable {runtime : ControlPlaneRuntime} {inputs : TransactionInputs}
  {event : RecordedPaymentEvent} {captured : PaymentIntentRow}
  {capture : PaymentCaptureRow} {start database after : BillingDatabase}
  {outcome : CreditOutcome}

/-- Whether an intent is the one that another row stands for. -/
def SameIntent (intent captured : PaymentIntentRow) : Prop :=
  captured.tenantId = intent.tenantId ∧ captured.id = intent.id

/-- A capture event that names the intent and passes the checks of the plan. -/
def AcceptedIn (intent : PaymentIntentRow) (event : RecordedPaymentEvent)
    (database : BillingDatabase) : Prop :=
  ∃ captured, intent.SameIntent captured ∧ CapturesIntent event database captured

theorem captureCount_withCaptureCredit : intent.captureCount
        (withCaptureCredit runtime inputs event captured capture database) =
      intent.captureCount database := by
  simp only [captureCount, withCaptureCredit, linkCredit, List.countP_map]
  apply List.countP_congr
  intro other _
  simp only [Function.comp_apply]
  split <;> rfl

theorem granted_withCaptureCredit_same (same : intent.SameIntent captured)
    (captures : CapturesIntent event start captured) : intent.granted
        (withCaptureCredit runtime inputs event captured capture database) =
      intent.granted database + captured.amount := by
  have counts : intent.isGrantOf (capturedGrant inputs event captured) = true := by
    have tenant : event.request.tenantId = intent.tenantId := captures.tenant.symm.trans same.1
    simp [isGrantOf, capturedGrant, immediateGrant, CreditGrantDraft.row, tenant, same.2]
  simp only [granted, withCaptureCredit, linkCredit, selectedSum_append,
    selectedSum_singleton, contribution, counts, if_true]
  rw [← captures.amount]
  rfl

theorem granted_withCaptureCredit_other (other : ¬ intent.SameIntent captured)
    (captures : CapturesIntent event start captured) : intent.granted
        (withCaptureCredit runtime inputs event captured capture database) =
      intent.granted database := by
  have counts : intent.isGrantOf (capturedGrant inputs event captured) = false := by
    rw [SameIntent, captures.tenant] at other
    simpa [isGrantOf, capturedGrant, immediateGrant, CreditGrantDraft.row] using other
  simp [granted, withCaptureCredit, linkCredit, selectedSum_singleton, contribution, counts]

theorem linked_withCaptureCredit
    (linked : ∀ other ∈ database.paymentCaptures, intent.IsCaptureOf other →
      other.creditGrantId ≠ none ∨ other.tenantId = event.request.tenantId ∧ other.id = capture.id ∧
          other.creditGrantId = none ∧ other.ledgerEntryId = none) :
    ∀ other ∈ (withCaptureCredit runtime inputs event captured capture database).paymentCaptures,
      intent.IsCaptureOf other → other.creditGrantId ≠ none := by
  intro other otherMem isCapture
  obtain ⟨original, originalMem, rfl⟩ := List.mem_map.mp otherMem
  by_cases selected : original.tenantId = event.request.tenantId ∧
      original.id = capture.id ∧ original.creditGrantId = none ∧
      original.ledgerEntryId = none
  · simp [selected]
  · rw [if_neg selected] at isCapture ⊢
    exact (linked original originalMem isCapture).resolve_right selected

theorem amounts_withCapture (accounted : intent.Accounted database) :
    ∀ other ∈ (withCapture event capture database).paymentIntents,
      other.tenantId = intent.tenantId → other.id = intent.id → other.amount = intent.amount := by
  intro other otherMem tenant idEq
  obtain ⟨original, originalMem, rfl⟩ := List.mem_map.mp otherMem
  by_cases selected : original.tenantId = event.request.tenantId ∧
      original.id = capture.paymentIntentId
  · rw [if_pos selected] at tenant idEq ⊢
    exact accounted.amounts original originalMem tenant idEq
  · rw [if_neg selected] at tenant idEq ⊢
    exact accounted.amounts original originalMem tenant idEq

theorem captureCount_withCapture : intent.captureCount (withCapture event capture database) =
      intent.captureCount database + if intent.IsCaptureOf capture then 1 else 0 := by
  simp [captureCount, withCapture, markCaptured, List.countP_append, List.countP_singleton]

theorem linked_withCapture (accounted : intent.Accounted database)
    (isNew : IsNewCapture inputs.newRowId event captured database capture) :
    ∀ other ∈ (withCapture event capture database).paymentCaptures,
      intent.IsCaptureOf other → other.creditGrantId ≠ none ∨
        other.tenantId = event.request.tenantId ∧ other.id = capture.id ∧
          other.creditGrantId = none ∧ other.ledgerEntryId = none := by
  intro other otherMem isCapture
  rcases List.mem_append.mp otherMem with earlier | last
  · exact .inl (accounted.linked other earlier isCapture)
  · rw [List.mem_singleton.mp last]
    exact .inr ⟨isNew.tenant, rfl, isNew.noGrant, isNew.noEntry⟩

theorem isCaptureOf_iff (captures : CapturesIntent event start captured)
    (agrees : AgreesWithCapture event captured capture) :
    intent.IsCaptureOf capture ↔ intent.SameIntent captured := by
  rw [IsCaptureOf, SameIntent, agrees.tenant, agrees.intent_eq, captures.tenant]

/-- How the execution of an event changes the account of an intent. -/
inductive AccountEffect (intent : PaymentIntentRow) (event : RecordedPaymentEvent)
    (database after : BillingDatabase) : Prop
  | kept (accounted : intent.Accounted after)
      (count_eq : intent.captureCount after = intent.captureCount database)
  | captured (accounted : intent.Accounted after)
      (count_eq : intent.captureCount after = intent.captureCount database + 1)
      (accepted : intent.AcceptedIn event database)
      (fresh : ∀ capture ∈ database.paymentCaptures, intent.IsCaptureOf capture →
        capture.providerReferenceHash ≠ event.externalEventIdHash)

variable (accounted : intent.Accounted database)

include accounted

theorem Accounted.captureResult
    (result : CaptureResult runtime inputs event database outcome after) :
    AccountEffect intent event database after := by
  cases result with
  | unchanged => exact .kept accounted rfl
  | @completed captured capture captures mem agrees noGrant =>
    have other : ¬ intent.SameIntent captured := by
      intro same
      exact accounted.linked capture mem ((isCaptureOf_iff captures agrees).mpr same) noGrant
    refine .kept ⟨accounted.amounts, ?_, ?_⟩ captureCount_withCaptureCredit
    · exact linked_withCaptureCredit fun stored storedMem isCapture =>
        .inl (accounted.linked stored storedMem isCapture)
    · rw [granted_withCaptureCredit_other other captures, captureCount_withCaptureCredit]
      exact accounted.granted_eq
  | @captured captured capture captures isNew =>
    have granted : intent.granted (withCapture event capture database) =
        intent.captureCount database • intent.amount :=
      accounted.granted_eq
    have count : intent.captureCount (withCaptureCredit runtime inputs event
        captured capture (withCapture event capture database)) = _ :=
      captureCount_withCaptureCredit.trans captureCount_withCapture
    by_cases same : intent.SameIntent captured
    · have amountEq := accounted.amounts captured captures.mem same.1 same.2
      rw [if_pos ((isCaptureOf_iff captures isNew.agrees).mpr same)] at count
      refine .captured ⟨amounts_withCapture accounted,
        linked_withCaptureCredit (linked_withCapture accounted isNew), ?_⟩ count
        ⟨captured, same, captures⟩ ?_
      · refine (granted_withCaptureCredit_same same captures).trans ?_
        rw [count, succ_nsmul, ← granted, amountEq]
      · intro stored storedMem isCapture referenceEq
        apply isNew.freshReference stored storedMem
        exact ⟨isCapture.1.trans (same.1.symm.trans captures.tenant),
          isCapture.2.trans same.2.symm, referenceEq⟩
    · rw [if_neg (mt (isCaptureOf_iff captures isNew.agrees).mp same), add_zero] at count
      refine .kept ⟨amounts_withCapture accounted,
        linked_withCaptureCredit (linked_withCapture accounted isNew), ?_⟩ count
      refine (granted_withCaptureCredit_other same captures).trans ?_
      rw [count]
      exact granted

theorem Accounted.reversalPlan : intent.Accounted
        (executePaymentProviderReversalPlan runtime inputs event database).1 ∧ intent.captureCount
          (executePaymentProviderReversalPlan runtime inputs event database).1 =
        intent.captureCount database := by
  rcases executePaymentProviderReversalPlan_statements with
    unchanged | ⟨capture, _, statements⟩
  · rw [unchanged]
    exact ⟨accounted, rfl⟩
  · have same : intent.SameAccount database _ := sameAccount_of_statements statements
    exact ⟨same.accounted accounted, same.count_eq⟩

theorem Accounted.businessPlan : AccountEffect intent event database
      (executeVerifiedPaymentProviderBusinessPlan runtime inputs event database).1 := by
  unfold executeVerifiedPaymentProviderBusinessPlan
  split
  · exact .kept accounted rfl
  · split
    · exact .kept accounted rfl
    · next executed =>
      exact accounted.captureResult (executePaymentProviderCapturePlan_result executed)
  · exact .kept accounted.reversalPlan.1 accounted.reversalPlan.2
  · exact .kept accounted.reversalPlan.1 accounted.reversalPlan.2

end PaymentIntentRow

namespace WebhookWorkers

open PaymentIntentRow

variable {runtime : ControlPlaneRuntime} {intent : PaymentIntentRow} {workers : WebhookWorkers}

/-- A waiting event that is accepted for the intent has the event identifier of
every capture that the intent already has. -/
def RepeatsReference (intent : PaymentIntentRow) (workers : WebhookWorkers) : WebhookAction → Prop
  | .receive _ _ => True
  | .execute index _ =>
    ∀ event, workers.pending[index]? = some event → intent.AcceptedIn event workers.database →
        ∀ capture ∈ workers.database.paymentCaptures, intent.IsCaptureOf capture →
            capture.providerReferenceHash = event.externalEventIdHash

/-- An intent that no capture and no grant refers to yet. -/
structure Uncaptured (intent : PaymentIntentRow) (database : BillingDatabase) :
    Prop where
  amounts : ∀ other ∈ database.paymentIntents, other.tenantId = intent.tenantId →
    other.id = intent.id → other.amount = intent.amount
  noCapture : ∀ capture ∈ database.paymentCaptures, ¬ intent.IsCaptureOf capture
  noGrant : ∀ grant ∈ database.creditGrants, intent.isGrantOf grant = false

section

variable {database : BillingDatabase} (uncaptured : Uncaptured intent database)

include uncaptured

theorem Uncaptured.captureCount_eq : intent.captureCount database = 0 := by
  apply List.countP_eq_zero.mpr
  intro capture captureMem
  simpa using uncaptured.noCapture capture captureMem

theorem Uncaptured.accounted : intent.Accounted database where
  amounts := uncaptured.amounts
  linked capture captureMem isCapture :=
    absurd isCapture (uncaptured.noCapture capture captureMem)
  granted_eq := by
    have noGrants : database.creditGrants.filter intent.isGrantOf = [] := by
      apply List.filter_eq_nil_iff.mpr
      intro grant grantMem
      simp [uncaptured.noGrant grant grantMem]
    rw [uncaptured.captureCount_eq, zero_nsmul, granted, selectedSum, noGrants]
    rfl

theorem Uncaptured.creditedAtMostOnce : intent.CreditedAtMostOnce database := by
  rw [uncaptured.accounted.creditedAtMostOnce_iff, uncaptured.captureCount_eq]
  omega

end

/-- A step keeps the account of an intent, and it keeps the intent credited at
most once when it repeats the reference of the stored captures. -/
theorem step_account (action : WebhookAction) (accounted : intent.Accounted workers.database) :
    intent.Accounted (step runtime workers action).1.database ∧
      (intent.CreditedAtMostOnce workers.database → RepeatsReference intent workers action →
          intent.CreditedAtMostOnce (step runtime workers action).1.database) := by
  cases action with
  | receive newEventId webhook =>
    simp only [step]
    split
    · exact ⟨accounted, fun once _ => once⟩
    · next event recorded eventRecorded =>
      obtain ⟨_, events, rfl⟩ := recordPaymentProviderWebhook_eq_ok eventRecorded
      exact ⟨⟨accounted.amounts, accounted.linked, accounted.granted_eq⟩, fun once _ => once⟩
  | execute index inputs =>
    simp only [step]
    split
    · exact ⟨accounted, fun once _ => once⟩
    · next event waiting =>
      have effect : AccountEffect intent event workers.database
          (executeVerifiedPaymentProviderBusinessPlan runtime inputs event workers.database).1 :=
        accounted.businessPlan
      cases effect with
      | kept after count =>
        refine ⟨after, fun once _ => ?_⟩
        rw [after.creditedAtMostOnce_iff, count]
        exact accounted.creditedAtMostOnce_iff.mp once
      | captured after count accepted fresh =>
        refine ⟨after, fun _ repeats => ?_⟩
        have noCapture : intent.captureCount workers.database = 0 := by
          apply List.countP_eq_zero.mpr
          intro capture captureMem isCapture
          rw [decide_eq_true_eq] at isCapture
          exact fresh capture captureMem isCapture
            (repeats event waiting accepted capture captureMem isCapture)
        rw [after.creditedAtMostOnce_iff, count, noCapture]

/-- From an uncaptured intent on, it is credited at most once in every state of
a run whose accepted events have the event identifier of the captures stored
before them. -/
theorem creditedAtMostOnce_throughout_of_repeats (uncaptured : Uncaptured intent workers.database)
    (actions : List WebhookAction)
    (repeats : ∀ earlier action later, actions = earlier ++ action :: later →
      RepeatsReference intent (stateAfter (step runtime) workers earlier) action) :
    ∀ earlier later, actions = earlier ++ later → intent.CreditedAtMostOnce
        (stateAfter (step runtime) workers earlier).database := by
  have kept (current : WebhookWorkers) (action : WebhookAction)
      (repeatsNow : RepeatsReference intent current action)
      (held : intent.Accounted current.database ∧ intent.CreditedAtMostOnce current.database) :
      intent.Accounted (step runtime current action).1.database ∧
        intent.CreditedAtMostOnce (step runtime current action).1.database := by
    obtain ⟨accountedAfter, onceAfter⟩ := step_account action held.1
    exact ⟨accountedAfter, onceAfter held.2 repeatsNow⟩
  intro earlier later split
  exact (stateAfter_invariant_of_stepsMeet kept ⟨uncaptured.accounted,
    uncaptured.creditedAtMostOnce⟩ (stepsMeet_iff.mpr repeats) earlier later split).2

theorem repeatsReference_of_shared (reference : String) {index : Nat} {inputs : TransactionInputs}
    (captures : ∀ capture ∈ workers.database.paymentCaptures,
      capture.providerReferenceHash = reference)
    (pending : ∀ event ∈ workers.pending, event.externalEventIdHash = reference) :
    RepeatsReference intent workers (.execute index inputs) := by
  intro event waiting _ capture captureMem _
  rw [captures capture captureMem, pending event (List.mem_of_getElem? waiting)]

/-- Two events of the provider about one payment, received one after the other
and then executed. -/
def receivedBoth (first second : ProviderWebhook) : List WebhookAction :=
  [.receive (sampleId 60) first, .receive (sampleId 70) second,
    .execute 0 ⟨5, sampleId 61, sampleId 62, sampleId 63⟩,
    .execute 0 ⟨5, sampleId 71, sampleId 72, sampleId 73⟩]

def twoEvents : List WebhookAction :=
  receivedBoth (sampleWebhook "payment_intent.succeeded" "evt_1" none)
    (sampleWebhook "charge.succeeded" "evt_2" none)

theorem uncaptured_intentDatabase : Uncaptured sampleIntent intentDatabase :=
  ⟨by decide +kernel, by decide +kernel, by decide +kernel⟩

/-- The intent of 10 is credited with 20. -/
theorem twoEvents_credit_twice : sampleIntent.amount = 10 ∧ sampleIntent.granted
        (stateAfter (step sampleRuntime) ⟨intentDatabase, []⟩ twoEvents).database = 20 ∧
      ¬ sampleIntent.CreditedAtMostOnce (stateAfter (step sampleRuntime) ⟨intentDatabase, []⟩
          twoEvents).database := by
  unfold CreditedAtMostOnce
  decide +kernel

def oneEventTwice : List WebhookAction :=
  receivedBoth (sampleWebhook "charge.succeeded" "evt_1" none)
    (sampleWebhook "charge.succeeded" "evt_1" none)

theorem stepsMeet_oneEventTwice : StepsMeet (step sampleRuntime) (RepeatsReference sampleIntent)
    ⟨intentDatabase, []⟩ oneEventTwice := by
  refine ⟨trivial, trivial, ?_, ?_, trivial⟩
  · apply repeatsReference_of_shared
      (externalEventIdHash sampleRuntime "stripe_like_sandbox" "evt_1") <;> decide +kernel
  · apply repeatsReference_of_shared
      (externalEventIdHash sampleRuntime "stripe_like_sandbox" "evt_1") <;> decide +kernel

theorem creditedAtMostOnce_oneEventTwice : Uncaptured sampleIntent intentDatabase ∧
      ∀ earlier later, oneEventTwice = earlier ++ later → sampleIntent.CreditedAtMostOnce
          (stateAfter (step sampleRuntime) ⟨intentDatabase, []⟩ earlier).database :=
  ⟨uncaptured_intentDatabase, @creditedAtMostOnce_throughout_of_repeats _ _
    ⟨intentDatabase, []⟩ uncaptured_intentDatabase oneEventTwice
    (stepsMeet_iff.mp stepsMeet_oneEventTwice)⟩

end WebhookWorkers

end FuboxApi
