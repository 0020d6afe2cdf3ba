import FuboxApi.LastWrites
import FuboxApi.SseChunking
import FuboxApi.StreamProtocols

/-!
# What remains of the events of a stream

A terminal event overwrites the terminal kind, and an event that carries usage overwrites the whole
usage. So a count that the last usage does not repeat is lost.
-/

namespace FuboxApi

open CheckedFold LastWrites

/-! ## The events of a stream, observed -/

section

variable (protocol : SseEvent → ChunkResult StreamEventObservation)

/-- What the protocol observes; an event that it refuses counts for nothing. -/
def observationOf (event : SseEvent) : StreamEventObservation :=
  match protocol event with
  | .ok observation => observation
  | .error _ => ⟨.none, none⟩

def terminalKindOf (event : SseEvent) : TerminalEventKind :=
  (observationOf protocol event).terminalKind

def usageOf (event : SseEvent) : Option RequestUsageUpdate :=
  (observationOf protocol event).usage

/-- The terminal kind that an event writes. -/
def writtenKind (kind : TerminalEventKind) : Option TerminalEventKind :=
  if kind.isTerminal then some kind else none

end

variable {events : List SseEvent}

namespace StreamProgress

variable {progress next : StreamProgress} {event : SseEvent}

/-- What has been observed, as a function of what had been observed before. -/
structure Observed (progress after : StreamProgress) (usage : Option RequestUsageUpdate)
    (kind : Option TerminalEventKind) : Prop where
  protocol : after.protocol = progress.protocol
  decoder : after.decoder = progress.decoder
  maxChunkBytes : after.maxChunkBytes = progress.maxChunkBytes
  usage : after.usage = usage.getD progress.usage
  terminalKind : after.terminalKind = kind.getD progress.terminalKind

theorem Observed.trans {after : StreamProgress} {usage laterUsage : Option RequestUsageUpdate}
    {kind laterKind : Option TerminalEventKind} (first : Observed progress next usage kind)
    (second : Observed next after laterUsage laterKind) :
    Observed progress after (laterUsage.or usage) (laterKind.or kind) where
  protocol := second.protocol.trans first.protocol
  decoder := second.decoder.trans first.decoder
  maxChunkBytes := second.maxChunkBytes.trans first.maxChunkBytes
  usage := by rw [second.usage, first.usage, Option.getD_or]
  terminalKind := by rw [second.terminalKind, first.terminalKind, Option.getD_or]

theorem observed_observeEvent (observed : progress.observeEvent event = .ok next) :
    Observed progress next (usageOf progress.protocol event)
      (writtenKind (terminalKindOf progress.protocol event)) := by
  obtain ⟨observation, protocolEq, returned⟩ := bind_eq_ok.mp observed
  obtain rfl := Except.ok.inj returned
  have observationEq : observationOf progress.protocol event = observation := by
    rw [observationOf, protocolEq]
  unfold usageOf terminalKindOf writtenKind
  rw [observationEq]
  cases terminal : observation.terminalKind.isTerminal with
  | true | false => exact ⟨rfl, rfl, rfl, rfl, rfl⟩

theorem observed_observeEvents (observed : (progress.observeEvents events).1 = .ok ()) :
    Observed progress (progress.observeEvents events).2
      (lastWritten (usageOf progress.protocol) events)
      (lastWritten (writtenKind ∘ terminalKindOf progress.protocol) events) := by
  induction events generalizing progress with
  | nil => exact ⟨rfl, rfl, rfl, rfl, rfl⟩
  | cons event later ih =>
    cases first : progress.observeEvent event with
    | error error => simp [observeEvents, first] at observed
    | ok next =>
      simp only [observeEvents, first] at observed ⊢
      have step := observed_observeEvent first
      have rest := ih observed
      rw [step.protocol] at rest
      rw [lastWritten_cons, lastWritten_cons]
      exact step.trans rest

theorem observeEvents_append_eq_ok {first second : List SseEvent}
    (observed : (progress.observeEvents (first ++ second)).1 = .ok ()) :
    (progress.observeEvents first).1 = .ok () := by
  induction first generalizing progress with
  | nil => rfl
  | cons event later ih =>
    rw [List.cons_append] at observed
    cases stepEq : progress.observeEvent event with
    | error error => simp [observeEvents, stepEq] at observed
    | ok next =>
      simp only [observeEvents, stepEq] at observed ⊢
      exact ih observed

/-- A response that arrives in chunks and then ends. -/
def observeStream (progress : StreamProgress) :
    List Bytes → ChunkResult StreamEndReason × StreamProgress
  | [] => progress.observeEof
  | chunk :: later =>
    match progress.observeChunk chunk with
    | (.ok _, next) => next.observeStream later
    | (.error error, next) => (.error error, next)

theorem observed_observeDecoded {decoded : Except SseDecodeError (List SseEvent) × SseDecoder}
    (observed : (progress.observeDecoded decoded).1 = .ok ()) : ∃ events, decoded.1 = .ok events ∧
      Observed { progress with decoder := decoded.2 } (progress.observeDecoded decoded).2
        (lastWritten (usageOf progress.protocol) events)
        (lastWritten (writtenKind ∘ terminalKindOf progress.protocol) events) := by
  obtain ⟨result, decoder⟩ := decoded
  cases result with
  | error error => simp [observeDecoded] at observed
  | ok events => exact ⟨events, rfl, observed_observeEvents observed⟩

structure ReadToEnd (progress : StreamProgress) (events : List SseEvent) (after : StreamProgress)
    (reason : StreamEndReason) : Prop where
  usage : after.usage = (lastWritten (usageOf progress.protocol) events).getD progress.usage
  terminalKind : after.terminalKind =
    (lastWritten (writtenKind ∘ terminalKindOf progress.protocol) events).getD progress.terminalKind
  reason : reason = streamEndReasonForTerminalKind after.terminalKind .upstreamEof

theorem ReadToEnd.after_step {after : StreamProgress} {first rest : List SseEvent}
    {decoder : SseDecoder} {reason : StreamEndReason} (readRest : ReadToEnd next rest after reason)
    (step : Observed { progress with decoder := decoder } next
      (lastWritten (usageOf progress.protocol) first)
      (lastWritten (writtenKind ∘ terminalKindOf progress.protocol) first)) :
    ReadToEnd progress (first ++ rest) after reason := by
  obtain ⟨usage, terminalKind, reason⟩ := readRest
  rw [step.protocol] at usage terminalKind
  refine ⟨?_, ?_, reason⟩
  · rw [usage, step.usage, lastWritten_append, Option.getD_or]
  · rw [terminalKind, step.terminalKind, lastWritten_append, Option.getD_or]

theorem readToEnd_observeEof {reason : StreamEndReason}
    (ended : progress.observeEof.1 = .ok reason) :
    ∃ events, progress.decoder.finish.1 = .ok events ∧
      ReadToEnd progress events progress.observeEof.2 reason := by
  obtain ⟨⟨⟩, decodedOk, rfl⟩ := map_eq_ok.mp ended
  obtain ⟨events, finished, observed⟩ := observed_observeDecoded decodedOk
  exact ⟨events, finished, observed.usage, observed.terminalKind, rfl⟩

theorem readToEnd_observeStream {chunks : List Bytes} {reason : StreamEndReason}
    (ended : (progress.observeStream chunks).1 = .ok reason) :
    ∃ events, progress.decoder.decodeChunks chunks = .ok events ∧
      ReadToEnd progress events (progress.observeStream chunks).2 reason := by
  induction chunks generalizing progress with
  | nil => exact readToEnd_observeEof ended
  | cons chunk later ih =>
    cases chunkEq : progress.observeChunk chunk with
    | mk observed next =>
    cases observed with
    | error error => simp [observeStream, chunkEq] at ended
    | ok =>
      simp only [observeStream, chunkEq] at ended ⊢
      unfold observeChunk at chunkEq
      split at chunkEq
      · simp at chunkEq
      · have chunkOk := congrArg Prod.fst chunkEq
        obtain ⟨first, pushed, step⟩ := observed_observeDecoded chunkOk
        simp only [chunkEq] at step
        obtain ⟨rest, decoded, readRest⟩ := ih ended
        rw [step.decoder] at decoded
        refine ⟨first ++ rest,
          bind_eq_ok.mpr ⟨first, pushed, bind_eq_ok.mpr ⟨rest, decoded, rfl⟩⟩, ?_⟩
        exact readRest.after_step step

end StreamProgress

/-! ## Failures -/

/-- If a terminal event failed, then the last one did. -/
def FailureIsLast (kinds : List TerminalEventKind) : Prop :=
  .failed ∈ kinds → lastWritten writtenKind kinds = some .failed

section

variable {kinds : List TerminalEventKind}

theorem writtenKind_eq_some {kind written : TerminalEventKind}
    (writes : writtenKind kind = some written) : kind = written ∧ kind ≠ .none := by
  unfold writtenKind at writes
  split at writes
  · next terminal =>
    exact ⟨Option.some.inj writes, by simpa [TerminalEventKind.isTerminal] using terminal⟩
  · cases writes

theorem lastTerminal_cases (kinds : List TerminalEventKind) :
    (lastWritten writtenKind kinds = none ∧ .completed ∉ kinds ∧ .failed ∉ kinds) ∨
      (lastWritten writtenKind kinds = some .completed ∧ .completed ∈ kinds) ∨
        (lastWritten writtenKind kinds = some .failed ∧ .failed ∈ kinds) := by
  cases last : lastWritten writtenKind kinds with
  | none =>
    have silent := lastWritten_eq_none_iff.mp last
    refine .inl ⟨rfl, fun completed => ?_, fun failed => ?_⟩
    · exact absurd (silent _ completed) (by decide)
    · exact absurd (silent _ failed) (by decide)
  | some kind =>
    obtain ⟨item, member, writes⟩ := exists_of_lastWritten last
    obtain ⟨rfl, terminal⟩ := writtenKind_eq_some writes
    cases item with
    | none => exact absurd rfl terminal
    | completed => exact .inr (.inl ⟨rfl, member⟩)
    | failed => exact .inr (.inr ⟨rfl, member⟩)

theorem streamEndReason_completed_iff :
    streamEndReasonForTerminalKind ((lastWritten writtenKind kinds).getD .none) .upstreamEof =
        .completed ↔ lastWritten writtenKind kinds = some .completed := by
  rcases lastTerminal_cases kinds with ⟨last, _⟩ | ⟨last, _⟩ | ⟨last, _⟩ <;>
    rw [last] <;> decide

/-- The last terminal event tells the truth about the whole stream exactly if no
completion follows the last failure. -/
theorem last_completed_iff :
    (lastWritten writtenKind kinds = some .completed ↔ .completed ∈ kinds ∧ .failed ∉ kinds) ↔
      FailureIsLast kinds := by
  unfold FailureIsLast
  rcases lastTerminal_cases kinds with
    ⟨last, noCompleted, noFailed⟩ | ⟨last, completed⟩ | ⟨last, failed⟩
  · simp [last, noCompleted, noFailed]
  · simp [last, completed]
  · simp [last, failed]

end

/-- For every protocol and every response that is read to its end without an error: the
end reason is completed exactly for the streams with a completed and without a failed
terminal event, if and only if the last terminal event of a failed stream failed. -/
theorem completed_unless_failed_iff (protocol : GatewayStreamProtocol)
    (parse : JsonParser) (maxEventBytes maxChunkBytes : Nat)
    (chunks : List Bytes) (reason : StreamEndReason)
    (ended : ((StreamProgress.new (protocol.observeEvent parse) maxEventBytes
      maxChunkBytes).observeStream chunks).1 = .ok reason) :
    ∃ events, (SseDecoder.new maxEventBytes).decodeChunks chunks = .ok events ∧
      ((reason = .completed ↔
          .completed ∈ events.map (terminalKindOf (protocol.observeEvent parse)) ∧
            .failed ∉ events.map (terminalKindOf (protocol.observeEvent parse))) ↔
        FailureIsLast (events.map (terminalKindOf (protocol.observeEvent parse)))) := by
  obtain ⟨events, decoded, read⟩ := StreamProgress.readToEnd_observeStream ended
  have kindEq := read.terminalKind
  rw [lastWritten_comp] at kindEq
  refine ⟨events, decoded, ?_⟩
  rw [read.reason, kindEq, ← last_completed_iff]
  exact iff_congr streamEndReason_completed_iff Iff.rfl

def openaiStreamMaxEventBytes : Nat := 4 * 1024 * 1024

def openaiStreamMaxChunkBytes : Nat := openaiStreamMaxEventBytes

/-- An event of the messages protocol with nothing but its type. -/
def typedEventBlock (type : String) : Bytes :=
  asciiBytes ("event: " ++ type ++ "\ndata: \x7b\"type\":\"" ++ type ++ "\"\x7d\n\n")

def parseTypedEvent (types : List String) (bytes : Bytes) : Except String JsonDocument :=
  match types.find? fun type => bytes = asciiBytes ("\x7b\"type\":\"" ++ type ++ "\"\x7d") with
  | some type => .ok (.object [("type", .string type)])
  | none => .error "expected value at line 1 column 1"

def typedProgress : StreamProgress :=
  .new (GatewayStreamProtocol.anthropicMessages.observeEvent
    (parseTypedEvent ["error", "message_stop"])) openaiStreamMaxEventBytes
    openaiStreamMaxChunkBytes

/-- The end of the message, and then an error. -/
theorem completed_unless_failed_iff_stopped :
    ((typedProgress.observeStream [typedEventBlock "message_stop", typedEventBlock "error"]).1 =
        .ok .upstreamError) ∧
      ∃ events, typedProgress.decoder.decodeChunks
          [typedEventBlock "message_stop", typedEventBlock "error"] = .ok events ∧
        ((StreamEndReason.upstreamError = .completed ↔
            .completed ∈ events.map (terminalKindOf typedProgress.protocol) ∧
              .failed ∉ events.map (terminalKindOf typedProgress.protocol)) ↔
          FailureIsLast (events.map (terminalKindOf typedProgress.protocol))) :=
  ⟨by decide +kernel, completed_unless_failed_iff .anthropicMessages _ _ openaiStreamMaxChunkBytes
    _ _ (by decide +kernel)⟩

/-- An error, and then the end of the message: the stream counts as completed. -/
theorem completed_after_failure :
    (typedProgress.observeStream [typedEventBlock "error", typedEventBlock "message_stop"]).1 =
        .ok .completed ∧ (typedProgress.decoder.decodeChunks
          [typedEventBlock "error", typedEventBlock "message_stop"]).toOption.map
          (List.map (terminalKindOf typedProgress.protocol)) = some [.failed, .completed] := by
  decide +kernel

/-! ## Usage -/

/-- The counts that a document reports, where its protocol puts them: a message that starts
carries them inside the message, and a response may carry them at any time. -/
def documentCounts (protocol : GatewayStreamProtocol) (data : JsonDocument) : AdapterUsage :=
  let reported : Option AdapterUsage :=
    match protocol with
    | .openAiChatCompletions =>
      (data.field "usage").map fun usage =>
        ⟨tokenCount usage "prompt_tokens", tokenCount usage "completion_tokens"⟩
    | .openAiResponses =>
      (openaiUsage data).or (((data.field "response").bind openaiUsage).or
        ((data.field "error").bind openaiUsage))
    | .anthropicMessages =>
      if textField data "type" = some "message_start" then
        (data.field "message").bind anthropicUsage
      else anthropicUsage data
    | .geminiGenerateContent => geminiUsage data
  reported.getD ⟨none, none⟩

/-- The documents whose counts stand where the adapter looks for them. -/
def reportsInPlace (protocol : GatewayStreamProtocol) (data : JsonDocument) : Bool :=
  match protocol with
  | .openAiChatCompletions | .geminiGenerateContent => true
  | .openAiResponses =>
    textField data "type" ∈ ["response.completed", "response.failed", "error"].map some ∨
      (data.field "response").bind (textField · "status") ∈
        ["completed", "failed", "cancelled", "incomplete"].map some
  | .anthropicMessages => textField data "type" ≠ some "message_start"

/-- A message that starts has no usage beside that inside the message. -/
def isDocumented (protocol : GatewayStreamProtocol) (data : JsonDocument) : Bool :=
  match protocol with
  | .anthropicMessages =>
    textField data "type" = some "message_start" → data.field "usage" = none
  | _ => true

section

variable (parse : JsonParser) (protocol : GatewayStreamProtocol)

/-- The document of an event, unless the event is empty or ends a chat stream. -/
def eventDocument (event : SseEvent) : Option JsonDocument :=
  match protocol with
  | .openAiChatCompletions =>
    if event.data.isEmpty || (terminalEventKind .openAiChatCompletions event).isTerminal then none
    else (parse event.data).toOption
  | _ => if event.data.isEmpty then none else (parse (trimAscii event.data)).toOption

def reportedCounts (event : SseEvent) : AdapterUsage :=
  ((eventDocument parse protocol event).map (documentCounts protocol)).getD ⟨none, none⟩

def lastReported (events : List SseEvent) : AdapterUsage :=
  ⟨lastWritten (fun event => (reportedCounts parse protocol event).promptTokens) events,
    lastWritten (fun event => (reportedCounts parse protocol event).completionTokens) events⟩

end

namespace AdapterUsage

/-- The counts after a report: those that it has, and the earlier ones otherwise. -/
def updatedBy (before reported : AdapterUsage) : AdapterUsage :=
  ⟨reported.promptTokens.or before.promptTokens,
    reported.completionTokens.or before.completionTokens⟩

/-- The counts are numbers of the type in which they are stored. -/
def fits (usage : AdapterUsage) : Bool :=
  usage.promptTokens.all (·.toNat < 2 ^ 63) ∧ usage.completionTokens.all (·.toNat < 2 ^ 63)

def repeats (reported before : AdapterUsage) : Bool :=
  (before.promptTokens.isSome → reported.promptTokens.isSome) ∧
    (before.completionTokens.isSome → reported.completionTokens.isSome)

end AdapterUsage

/-- A document that reports counts in their place has all that were reported before it, none too
large to be stored, and one that reports them elsewhere says nothing new. -/
def keepsUp (protocol : GatewayStreamProtocol) (before : AdapterUsage) (data : JsonDocument) :
    Bool :=
  let reported := documentCounts protocol data
  if reportsInPlace protocol data then
    reported.fits ∧ (reported = ⟨none, none⟩ ∨ reported.repeats before)
  else before.updatedBy reported = before

namespace RequestUsageUpdate

def isComplete (usage : RequestUsageUpdate) : Bool :=
  usage.inputTokens.isSome && usage.outputTokens.isSome

def counts (usage : RequestUsageUpdate) : AdapterUsage :=
  ⟨usage.inputTokens.bind i64ToU64, usage.outputTokens.bind i64ToU64⟩

end RequestUsageUpdate

/-- The usage consists of the last counts, and suffices for rating once both counts have
been reported. -/
structure UsageFollows (parse : JsonParser)
    (protocol : GatewayStreamProtocol) (events : List SseEvent) (usage : RequestUsageUpdate) :
    Prop where
  counts : usage.counts = lastReported parse protocol events
  complete : (∃ event ∈ events, (reportedCounts parse protocol event).promptTokens.isSome) →
    (∃ event ∈ events, (reportedCounts parse protocol event).completionTokens.isSome) →
      usage.isComplete = true ∧ usage.tokenUsageForRating.isSome

section

variable {count : Option UInt64}

theorem stored_eq_or_iff {before : Option UInt64} :
    (count.bind u64ToI64).bind i64ToU64 = count.or before ↔
      count.all (·.toNat < 2 ^ 63) = true ∧ (before.isSome → count.isSome) := by
  cases count with
  | none => cases before <;> simp
  | some value =>
    rw [Option.bind_some, bind_u64ToI64]
    split <;> simp_all

theorem eq_none_of_unread (unread : count.bind u64ToI64 = none)
    (small : count.all (·.toNat < 2 ^ 63) = true) : count = none := by
  cases count with
  | none => rfl
  | some value =>
    rw [Option.bind_some, u64ToI64, if_pos (of_decide_eq_true small)] at unread
    cases unread

/-- A stored count is small, so what is too large to be stored is not among the stored ones. -/
theorem all_small_of_or_eq {stored : Option Int64}
    (same : stored.bind i64ToU64 = count.or (stored.bind i64ToU64)) :
    count.all (·.toNat < 2 ^ 63) = true := by
  cases count with
  | none => rfl
  | some value =>
    obtain ⟨signed, -, read⟩ := Option.bind_eq_some_iff.mp same
    unfold i64ToU64 at read
    split at read
    · next nonneg =>
      obtain rfl := Option.some.inj read
      have nonneg : 0 ≤ signed.toBitVec.toInt := Int64.le_iff_toInt_le.mp nonneg
      rw [BitVec.toInt_eq_toNat_cond] at nonneg
      refine decide_eq_true (show signed.toBitVec.toNat < 2 ^ 63 from ?_)
      split at nonneg <;> omega
    · cases read

end

/-- What is stored after a report in its place. -/
theorem counts_stored_iff (usage : RequestUsageUpdate) (reported : AdapterUsage) :
    ((streamUsageFromAdapterUsage reported).getD usage).counts = usage.counts.updatedBy reported ↔
      reported.fits = true ∧ (reported = ⟨none, none⟩ ∨ reported.repeats usage.counts = true) := by
  obtain ⟨prompt, completion⟩ := reported
  unfold streamUsageFromAdapterUsage observedUsage
  dsimp only
  split
  · next read =>
    have reports : AdapterUsage.mk prompt completion ≠ ⟨none, none⟩ := by
      rintro ⟨⟩
      simp at read
    rw [Option.getD_some, RequestUsageUpdate.counts, AdapterUsage.updatedBy, AdapterUsage.mk.injEq,
      stored_eq_or_iff, stored_eq_or_iff]
    simp only [AdapterUsage.fits, AdapterUsage.repeats, reports, decide_eq_true_eq, false_or]
    tauto
  · next unread =>
    simp only [Bool.or_eq_true, not_or, Option.not_isSome_iff_eq_none] at unread
    constructor
    · intro same
      obtain ⟨promptEq, completionEq⟩ := AdapterUsage.mk.inj same
      obtain rfl := eq_none_of_unread unread.1 (all_small_of_or_eq promptEq)
      obtain rfl := eq_none_of_unread unread.2 (all_small_of_or_eq completionEq)
      exact ⟨rfl, .inl rfl⟩
    · rintro ⟨small, -⟩
      simp only [AdapterUsage.fits, decide_eq_true_eq] at small
      obtain rfl := eq_none_of_unread unread.1 small.1
      obtain rfl := eq_none_of_unread unread.2 small.2
      rfl

theorem isTerminal_openaiResponses (data : JsonDocument) :
    (openaiResponsesStreamTerminalKind data).isTerminal = reportsInPlace .openAiResponses data := by
  unfold openaiResponsesStreamTerminalKind reportsInPlace
  split
  · next typeEq => simp [typeEq, TerminalEventKind.isTerminal]
  · next typeEq => simp [typeEq, TerminalEventKind.isTerminal]
  · next typeEq => simp [typeEq, TerminalEventKind.isTerminal]
  · split <;> simp_all [TerminalEventKind.isTerminal]

theorem openaiStreamUsage_eq (data : JsonDocument) : openaiStreamUsageFromValue data =
      streamUsageFromAdapterUsage (documentCounts .openAiChatCompletions data) := by
  unfold openaiStreamUsageFromValue documentCounts
  cases data.field "usage" with
  | none => rfl
  | some usage => cases usage <;> rfl

section

variable {parse : JsonParser} {protocol : GatewayStreamProtocol} {usage : RequestUsageUpdate}

theorem usageOf_adapter (event : SseEvent) (kind : JsonDocument → TerminalEventKind)
    (usage : JsonDocument → Option AdapterUsage) :
    usageOf (GatewayStreamProtocol.adapterStreamEventObservation parse protocol kind usage) event =
      (if event.data.isEmpty then none else (parse (trimAscii event.data)).toOption).bind
        fun data => streamUsageFromAdapterUsage ((usage data).getD ⟨none, none⟩) := by
  unfold usageOf observationOf GatewayStreamProtocol.adapterStreamEventObservation
  cases event.data.isEmpty with
  | true => rfl
  | false =>
    cases parse (trimAscii event.data) with
    | error message => rfl
    | ok data =>
      have unreported (usage : Option AdapterUsage) : usage.bind streamUsageFromAdapterUsage =
          streamUsageFromAdapterUsage (usage.getD ⟨none, none⟩) := by
        cases usage <;> rfl
      exact unreported (usage data)

/-- The usage of an event is what its document reports in its place. -/
theorem usageOf_observeEvent (event : SseEvent)
    (documented : ∀ data ∈ eventDocument parse protocol event, isDocumented protocol data = true) :
    usageOf (protocol.observeEvent parse) event =
      (eventDocument parse protocol event).bind fun data =>
        if reportsInPlace protocol data then
          streamUsageFromAdapterUsage (documentCounts protocol data)
        else none := by
  cases protocol with
  | openAiChatCompletions =>
    unfold usageOf observationOf GatewayStreamProtocol.observeEvent
      GatewayStreamProtocol.openaiChatStreamEventObservation eventDocument
    by_cases skipped : (event.data.isEmpty ||
        (terminalEventKind .openAiChatCompletions event).isTerminal) = true
    · rw [if_pos skipped, if_pos skipped]
      rfl
    · rw [if_neg skipped, if_neg skipped]
      cases parse event.data with
      | error message => rfl
      | ok data => exact openaiStreamUsage_eq data
  | openAiResponses =>
    refine (usageOf_adapter _ _ _).trans (Option.bind_congr fun data _ => ?_)
    rw [responsesStreamUsage, isTerminal_openaiResponses]
    split <;> rfl
  | anthropicMessages =>
    refine (usageOf_adapter _ _ _).trans (Option.bind_congr fun data parsed => ?_)
    by_cases starts : textField data "type" = some "message_start"
    · have unreported := of_decide_eq_true (documented data parsed) starts
      simp only [anthropicUsage, unreported, reportsInPlace, starts]
      rfl
    · simp [documentCounts, reportsInPlace, starts]
  | geminiGenerateContent => exact usageOf_adapter _ _ _

theorem lastReported_concat (event : SseEvent) : lastReported parse protocol (events ++ [event]) =
      (lastReported parse protocol events).updatedBy (reportedCounts parse protocol event) := by
  simp [lastReported, AdapterUsage.updatedBy, lastWritten_append]

theorem isSome_lastWritten {write : SseEvent → Option UInt64}
    (reported : ∃ event ∈ events, (write event).isSome) : (lastWritten write events).isSome := by
  obtain ⟨event, member, some⟩ := reported
  rw [Option.isSome_iff_ne_none]
  intro none
  rw [lastWritten_eq_none_iff.mp none event member] at some
  cases some

theorem isComplete_of_tokenUsageForRating {tokens : TokenUsage}
    (rated : usage.tokenUsageForRating = some tokens) : usage.isComplete = true := by
  obtain ⟨inputCount, inputEq, rest⟩ := Option.bind_eq_some_iff.mp rated
  obtain ⟨outputCount, outputEq, _⟩ := Option.bind_eq_some_iff.mp rest
  obtain ⟨input, inputTokens, _⟩ := Option.bind_eq_some_iff.mp inputEq
  obtain ⟨output, outputTokens, _⟩ := Option.bind_eq_some_iff.mp outputEq
  simp [RequestUsageUpdate.isComplete, inputTokens, outputTokens]

theorem usageFollows_iff : UsageFollows parse protocol events usage ↔
      usage.counts = lastReported parse protocol events := by
  refine ⟨UsageFollows.counts, fun countsEq => ⟨countsEq, fun input output => ?_⟩⟩
  have inputSome : (usage.inputTokens.bind i64ToU64).isSome := by
    rw [show usage.inputTokens.bind i64ToU64 = _ from congrArg AdapterUsage.promptTokens countsEq]
    exact isSome_lastWritten input
  have outputSome : (usage.outputTokens.bind i64ToU64).isSome := by
    rw [show usage.outputTokens.bind i64ToU64 = _ from
      congrArg AdapterUsage.completionTokens countsEq]
    exact isSome_lastWritten output
  obtain ⟨inputCount, inputEq⟩ := Option.isSome_iff_exists.mp inputSome
  obtain ⟨outputCount, outputEq⟩ := Option.isSome_iff_exists.mp outputSome
  have rated : usage.tokenUsageForRating = some ⟨inputCount, outputCount⟩ := by
    simp [RequestUsageUpdate.tokenUsageForRating, inputEq, outputEq]
  exact ⟨isComplete_of_tokenUsageForRating rated, by rw [rated]; rfl⟩

def finalUsage (parse : JsonParser) (protocol : GatewayStreamProtocol)
    (events : List SseEvent) : RequestUsageUpdate :=
  (lastWritten (usageOf (protocol.observeEvent parse)) events).getD ⟨none, none⟩

theorem counts_finalUsage_concat
    (before : (finalUsage parse protocol events).counts = lastReported parse protocol events)
    (event : SseEvent) (documented : ∀ data ∈ eventDocument parse protocol event,
      isDocumented protocol data = true) :
    (finalUsage parse protocol (events ++ [event])).counts =
        lastReported parse protocol (events ++ [event]) ↔
      ∀ data ∈ eventDocument parse protocol event,
        keepsUp protocol (lastReported parse protocol events) data = true := by
  have overwritten : finalUsage parse protocol (events ++ [event]) =
      (usageOf (protocol.observeEvent parse) event).getD (finalUsage parse protocol events) := by
    simp [finalUsage, lastWritten_append, Option.getD_or]
  rw [overwritten, lastReported_concat, ← before, usageOf_observeEvent event documented,
    reportedCounts]
  cases eventDocument parse protocol event with
  | none => simp [AdapterUsage.updatedBy]
  | some data =>
    rw [Option.bind_some, Option.map_some, Option.getD_some]
    simp only [Option.mem_def, Option.some.injEq, forall_eq', keepsUp]
    split
    · rw [counts_stored_iff, decide_eq_true_eq]
    · rw [decide_eq_true_eq, Option.getD_none, eq_comm]

end

/-- For every protocol and all documented events that are observed without an error: the usage
follows the reports at every point of the stream if and only if every document keeps up with the
reports before it. -/
theorem usage_follows_reports_iff (protocol : GatewayStreamProtocol)
    (parse : JsonParser) (maxEventBytes maxChunkBytes : Nat)
    (events : List SseEvent)
    (observed : ((StreamProgress.new (protocol.observeEvent parse) maxEventBytes
      maxChunkBytes).observeEvents events).1 = .ok ())
    (documented : ∀ event ∈ events, ∀ data ∈ eventDocument parse protocol event,
      isDocumented protocol data = true) :
    (∀ earlier later, events = earlier ++ later → UsageFollows parse protocol earlier
          ((StreamProgress.new (protocol.observeEvent parse) maxEventBytes
            maxChunkBytes).observeEvents earlier).2.usage) ↔
      ∀ earlier event later, events = earlier ++ event :: later →
        ∀ data ∈ eventDocument parse protocol event,
          keepsUp protocol (lastReported parse protocol earlier) data = true := by
  have follows_iff : ∀ earlier later, events = earlier ++ later →
      (UsageFollows parse protocol earlier
          ((StreamProgress.new (protocol.observeEvent parse) maxEventBytes
            maxChunkBytes).observeEvents earlier).2.usage ↔
        (finalUsage parse protocol earlier).counts = lastReported parse protocol earlier) := by
    rintro earlier later rfl
    have shorterOk := StreamProgress.observeEvents_append_eq_ok observed
    rw [(StreamProgress.observed_observeEvents shorterOk).usage]
    exact usageFollows_iff
  constructor
  · rintro throughout earlier event later rfl
    have before := (follows_iff earlier _ rfl).mp (throughout earlier _ rfl)
    have split : earlier ++ event :: later = (earlier ++ [event]) ++ later := by simp
    have after := (follows_iff _ _ split).mp (throughout _ _ split)
    exact (counts_finalUsage_concat before event (documented event (by simp))).mp after
  · intro reads earlier later split
    refine (follows_iff earlier later split).mpr ?_
    -- the usage of the shorter stream is right, and the last event keeps it so
    induction earlier using List.reverseRecOn generalizing later with
    | nil => rfl
    | append_singleton shorter event ih =>
      have longer : events = shorter ++ event :: later := by simp [split]
      exact (counts_finalUsage_concat (ih _ longer) event
        (documented event (by simp [longer]))).mpr (reads _ _ _ longer)

/-- The events of a message with 25 tokens of input and 15 of output, and their
documents. -/
def messageStart : SseEvent :=
  ⟨some "message_start".toList, asciiBytes ("\x7b\"type\":\"message_start\",\"message\":" ++
    "\x7b\"usage\":\x7b\"input_tokens\":25,\"output_tokens\":1\x7d\x7d\x7d")⟩

def messageDelta (usage : String) : SseEvent :=
  ⟨some "message_delta".toList,
    asciiBytes ("\x7b\"type\":\"message_delta\",\"usage\":\x7b" ++ usage ++ "\x7d\x7d")⟩

def deltaDocument (usage : List (String × JsonDocument)) : JsonDocument :=
  .object [("type", .string "message_delta"), ("usage", .object usage)]

def outputDelta : SseEvent :=
  messageDelta "\"output_tokens\":15"

def firstTotals : SseEvent :=
  messageDelta "\"input_tokens\":25,\"output_tokens\":1"

def lastTotals : SseEvent :=
  messageDelta "\"input_tokens\":25,\"output_tokens\":15"

def parseMessageEvent (bytes : Bytes) : Except String JsonDocument :=
  if bytes = messageStart.data then
    .ok (.object [("type", .string "message_start"), ("message",
      .object [("usage", .object [("input_tokens", .integer 25), ("output_tokens", .integer 1)])])])
  else if bytes = outputDelta.data then .ok (deltaDocument [("output_tokens", .integer 15)])
  else if bytes = firstTotals.data then
    .ok (deltaDocument [("input_tokens", .integer 25), ("output_tokens", .integer 1)])
  else if bytes = lastTotals.data then
    .ok (deltaDocument [("input_tokens", .integer 25), ("output_tokens", .integer 15)])
  else .error "expected value at line 1 column 1"

def messageProgress : StreamProgress :=
  .new (GatewayStreamProtocol.anthropicMessages.observeEvent parseMessageEvent)
    openaiStreamMaxEventBytes openaiStreamMaxChunkBytes

/-- The input count of the start is not read, and the usage of the delta has none. -/
theorem input_count_lost : (messageProgress.observeEvents [messageStart, outputDelta]).1 = .ok () ∧
      lastReported parseMessageEvent .anthropicMessages [messageStart, outputDelta] =
        ⟨some 25, some 15⟩ ∧
      (messageProgress.observeEvents [messageStart, outputDelta]).2.usage = ⟨none, some 15⟩ ∧
      (messageProgress.observeEvents
        [messageStart, outputDelta]).2.usage.tokenUsageForRating = none := by
  decide +kernel

/-- Two reports of both counts. -/
theorem usage_follows_reports_iff_totals :
    (messageProgress.observeEvents [firstTotals, lastTotals]).2.usage.counts =
      ⟨some 25, some 15⟩ := by
  have follows := (usage_follows_reports_iff .anthropicMessages parseMessageEvent
    openaiStreamMaxEventBytes openaiStreamMaxChunkBytes [firstTotals, lastTotals]
    (by decide +kernel) (by decide +kernel)).mpr (by
      intro earlier event later split
      rcases earlier with _ | ⟨first, _ | ⟨second, earlier⟩⟩
      · obtain ⟨rfl, rfl⟩ := List.cons.inj split
        decide +kernel
      · obtain ⟨rfl, last⟩ := List.cons.inj split
        obtain ⟨rfl, rfl⟩ := List.cons.inj last
        decide +kernel
      · simp at split)
  exact (follows [firstTotals, lastTotals] [] rfl).counts.trans (by decide +kernel)

end FuboxApi
