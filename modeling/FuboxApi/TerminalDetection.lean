import FuboxApi.JsonProbes
import FuboxApi.StreamObservation

/-!
# What content can change about the end of a stream

The adapter reads the type of the document and the status of its response. The scanner takes a
`type` at any depth for that of the event, so two events with one name, type and status can differ
in kind.
-/

namespace FuboxApi

open GatewayStreamProtocol JsonProbes

/-- The texts that end a stream as the name of an event or as a `type` in its body. -/
structure TerminalTexts where
  completed : List String
  failed : List String

def responsesTexts : TerminalTexts where
  completed := ["response.completed"]
  failed := ["response.failed", "response.incomplete", "response.cancelled"]

def anthropicTexts : TerminalTexts where
  completed := ["message_stop"]
  failed := ["error"]

/-- A member as it is written in the body of an event, at whatever depth. -/
def typeMember (text : String) : JsonMember :=
  ⟨asciiBytes "type", quoted (asciiBytes text)⟩

namespace TerminalTexts

variable (texts : TerminalTexts)

def Names (name : Option (List Char)) : Prop :=
  ∃ text ∈ texts.completed ++ texts.failed, name.map String.ofList = some text

def CompletedBy (members : List JsonMember) : Prop :=
  ∃ text ∈ texts.completed, typeMember text ∈ members

def FailedBy (members : List JsonMember) : Prop :=
  ∃ text ∈ texts.failed, typeMember text ∈ members

/-- Members that come to the same beside what the adapter reads: a failure that it reads covers
both, and a completion covers all but a failure. -/
def AgreeOn (read : TerminalEventKind) (first second : List JsonMember) : Prop :=
  match read with
  | .failed => True
  | .completed => texts.FailedBy first ∧ ¬ texts.CompletedBy first ↔
      texts.FailedBy second ∧ ¬ texts.CompletedBy second
  | .none => (texts.CompletedBy first ↔ texts.CompletedBy second) ∧
      (texts.CompletedBy first ∨ texts.FailedBy first ↔
        texts.CompletedBy second ∨ texts.FailedBy second)

def kind (found : String → Bool) : TerminalEventKind :=
  if texts.completed.any found then .completed
  else if texts.failed.any found then .failed
  else .none

variable {texts} {first second : String → Bool} {firstMembers secondMembers : List JsonMember}

theorem mergeTerminalKinds_kind_eq_iff (read : TerminalEventKind)
    (firstFound : ∀ text ∈ texts.completed ++ texts.failed,
      first text = true ↔ typeMember text ∈ firstMembers)
    (secondFound : ∀ text ∈ texts.completed ++ texts.failed,
      second text = true ↔ typeMember text ∈ secondMembers) :
    mergeTerminalKinds (texts.kind first) read = mergeTerminalKinds (texts.kind second) read ↔
      texts.AgreeOn read firstMembers secondMembers := by
  rw [List.forall_mem_append] at firstFound secondFound
  have found {values : List String} {found : String → Bool} {members : List JsonMember}
      (foundIff : ∀ text ∈ values, found text = true ↔ typeMember text ∈ members) :
      (∃ text ∈ values, typeMember text ∈ members) ↔ values.any found = true := by
    rw [List.any_eq_true]
    exact exists_congr fun text => and_congr_right fun mem => (foundIff text mem).symm
  unfold AgreeOn CompletedBy FailedBy kind
  rw [found firstFound.1, found firstFound.2, found secondFound.1, found secondFound.2]
  cases texts.completed.any first <;> cases texts.failed.any first <;>
    cases texts.completed.any second <;> cases texts.failed.any second <;> cases read <;> decide

end TerminalTexts

/-- Where the name is not one of the texts, the scanner decides. -/
structure ScannedBy (protocol : GatewayStreamProtocol) (texts : TerminalTexts) : Prop where
  named {event other} : texts.Names event.event → event.event = other.event →
    terminalEventKind protocol event = terminalEventKind protocol other
  scanned {event} : ¬ texts.Names event.event →
    terminalEventKind protocol event = texts.kind (jsonKeyStringValueEq event.data "type")
  plain : ∀ text ∈ texts.completed ++ texts.failed, reverseSolidus ∉ asciiBytes text

theorem scannedBy_responsesTexts : ScannedBy .openAiResponses responsesTexts where
  named {event other} names same := by
    simp only [TerminalTexts.Names, responsesTexts, List.cons_append, List.nil_append,
      List.mem_cons, List.not_mem_nil, or_false] at names
    obtain ⟨text, rfl | rfl | rfl | rfl, nameEq⟩ := names <;>
      simp [terminalEventKind, responsesTerminalEventKind, ← same, nameEq]
  scanned {event} unnamed := by
    simp only [terminalEventKind, responsesTerminalEventKind]
    split
    iterate 4 next nameEq => exact absurd ⟨_, by simp [responsesTexts], nameEq⟩ unnamed
    simp [TerminalTexts.kind, responsesTexts, Bool.or_assoc]
  plain := by decide +kernel

theorem scannedBy_anthropicTexts : ScannedBy .anthropicMessages anthropicTexts where
  named {event other} names same := by
    simp only [TerminalTexts.Names, anthropicTexts, List.cons_append, List.nil_append,
      List.mem_cons, List.not_mem_nil, or_false] at names
    obtain ⟨text, rfl | rfl, nameEq⟩ := names <;>
      simp [terminalEventKind, anthropicTerminalEventKind, ← same, nameEq]
  scanned {event} unnamed := by
    simp only [terminalEventKind, anthropicTerminalEventKind]
    split
    · next nameEq => exact absurd ⟨_, by simp [anthropicTexts], nameEq⟩ unnamed
    · next nameEq => exact absurd ⟨_, by simp [anthropicTexts], nameEq⟩ unnamed
    · simp [TerminalTexts.kind, anthropicTexts]
  plain := by decide +kernel

section

variable {parse : JsonParser}

/-- An event with a body that the parser accepts. -/
def ParsesTo (parse : JsonParser) (event : SseEvent) (data : JsonDocument) : Prop :=
  event.data ≠ [] ∧ parse (trimAscii event.data) = .ok data

theorem ParsesTo.terminalKindOf {event : SseEvent} {data : JsonDocument}
    (parsed : ParsesTo parse event data) (protocol : GatewayStreamProtocol)
    (read : JsonDocument → TerminalEventKind) (usage : JsonDocument → Option AdapterUsage) :
    terminalKindOf (adapterStreamEventObservation parse protocol read usage) event =
      mergeTerminalKinds (terminalEventKind protocol event) (read data) := by
  have filled : event.data.isEmpty = false := by simpa using parsed.1
  simp [FuboxApi.terminalKindOf, observationOf, adapterStreamEventObservation, filled, parsed.2,
    Except.mapError, bind, Except.bind, pure, Except.pure]

/-- Events of one name for which the adapter reads the same differ by their members alone. -/
theorem terminalKindOf_eq_iff {protocol : GatewayStreamProtocol} {texts : TerminalTexts}
    (scannedBy : ScannedBy protocol texts) {first second : SseEvent}
    {firstData secondData : JsonDocument} {firstMembers secondMembers : List JsonMember}
    (firstParsed : ParsesTo parse first firstData)
    (secondParsed : ParsesTo parse second secondData)
    (firstJson : IsJson first.data firstMembers) (secondJson : IsJson second.data secondMembers)
    (sameName : first.event = second.event) {read otherRead : JsonDocument → TerminalEventKind}
    (sameRead : read firstData = otherRead secondData)
    (usage : JsonDocument → Option AdapterUsage) :
    terminalKindOf (adapterStreamEventObservation parse protocol read usage) first =
        terminalKindOf (adapterStreamEventObservation parse protocol otherRead usage) second ↔
      texts.Names first.event ∨ texts.AgreeOn (read firstData) firstMembers secondMembers := by
  rw [firstParsed.terminalKindOf, secondParsed.terminalKindOf, ← sameRead]
  by_cases names : texts.Names first.event
  · simp [names, scannedBy.named names sameName]
  · have found {data : Bytes} {members : List JsonMember} (isJson : IsJson data members) :
        ∀ text ∈ texts.completed ++ texts.failed,
          jsonKeyStringValueEq data "type" text = true ↔ typeMember text ∈ members :=
      fun text mem => scanForKey_stringValue_iff isJson (by decide) (scannedBy.plain text mem)
    rw [scannedBy.scanned names, scannedBy.scanned (sameName ▸ names), or_iff_right names]
    exact TerminalTexts.mergeTerminalKinds_kind_eq_iff _ (found firstJson) (found secondJson)

/-- For every two events with one name whose bodies are JSON and whose documents have one type, and
for the responses protocol one status of the response: the terminal kinds are the same if and only
if the name is terminal, or the members named `type` at any depth of the two bodies agree beside
what the adapter reads. -/
theorem terminal_kinds_eq_iff (parse : JsonParser)
    (first second : SseEvent) (firstData secondData : JsonDocument)
    (firstMembers secondMembers : List JsonMember)
    (firstParsed : ParsesTo parse first firstData) (secondParsed : ParsesTo parse second secondData)
    (firstJson : IsJson first.data firstMembers) (secondJson : IsJson second.data secondMembers)
    (sameName : first.event = second.event)
    (sameType : textField firstData "type" = textField secondData "type") :
    ((firstData.field "response").bind (textField · "status") =
        (secondData.field "response").bind (textField · "status") →
      (terminalKindOf (openaiResponsesStreamEventObservation parse) first =
          terminalKindOf (openaiResponsesStreamEventObservation parse) second ↔
        responsesTexts.Names first.event ∨
          responsesTexts.AgreeOn (openaiResponsesStreamTerminalKind firstData) firstMembers
            secondMembers)) ∧
      (terminalKindOf (anthropicMessagesStreamEventObservation parse) first =
          terminalKindOf (anthropicMessagesStreamEventObservation parse) second ↔
        anthropicTexts.Names first.event ∨
          anthropicTexts.AgreeOn (anthropicStreamTerminalKind first.event firstData) firstMembers
            secondMembers) := by
  constructor
  · intro sameStatus
    refine terminalKindOf_eq_iff scannedBy_responsesTexts firstParsed secondParsed firstJson
      secondJson sameName ?_ responsesStreamUsage
    unfold openaiResponsesStreamTerminalKind
    rw [sameType, sameStatus]
  · refine terminalKindOf_eq_iff scannedBy_anthropicTexts firstParsed secondParsed firstJson
      secondJson sameName ?_ anthropicUsage
    unfold anthropicStreamTerminalKind
    rw [sameType, sameName]

end

/-- A tool that was called with a document of its own. -/
def toolCallBody (arguments : Bytes) : Bytes :=
  objectText (pairText
    (memberText (asciiBytes "type") (quoted (asciiBytes "response.output_item.done")))
    (memberText (asciiBytes "arguments") arguments))

def toolCallMembers (arguments : Bytes) (members : List JsonMember) : List JsonMember :=
  [typeMember "response.output_item.done", ⟨asciiBytes "arguments", arguments⟩] ++ members

theorem isJson_toolCallBody {arguments : Bytes} {members : List JsonMember}
    (written : Written none arguments members) :
    IsJson (toolCallBody arguments) (toolCallMembers arguments members) := by
  have itemType : Written none (quoted (asciiBytes "response.output_item.done")) [] :=
    .string (.of_plain (by decide +kernel))
  exact ((itemType.memberText (.of_plain (by decide +kernel))).pairText
    (written.memberText (.of_plain (by decide +kernel)))).objectText.isJson

def plainArguments : Bytes :=
  objectText []

def forgingArguments : Bytes :=
  objectText (memberText (asciiBytes "type") (quoted (asciiBytes "response.completed")))

theorem written_plainArguments : Written none plainArguments [] :=
  have noWs : IsWs [] := nofun
  .empty .object noWs

theorem written_forgingArguments :
    Written none forgingArguments [typeMember "response.completed"] := by
  have completed : Written none (quoted (asciiBytes "response.completed")) [] :=
    .string (.of_plain (by decide +kernel))
  exact (completed.memberText (.of_plain (by decide +kernel))).objectText

def plainToolCall : SseEvent :=
  ⟨none, toolCallBody plainArguments⟩

def forgingToolCall : SseEvent :=
  ⟨none, toolCallBody forgingArguments⟩

def toolCallDocument (arguments : JsonDocument) : JsonDocument :=
  .object [("type", .string "response.output_item.done"), ("arguments", arguments)]

/-- The parser on the two bodies. -/
def toolCallParse (body : Bytes) : Except String JsonDocument :=
  if body = plainToolCall.data then .ok (toolCallDocument (.object []))
  else if body = forgingToolCall.data then
    .ok (toolCallDocument (.object [("type", .string "response.completed")]))
  else .error "expected value"

theorem parsesTo_plainToolCall :
    ParsesTo toolCallParse plainToolCall (toolCallDocument (.object [])) :=
  ⟨by decide +kernel, if_pos (by decide +kernel)⟩

theorem parsesTo_forgingToolCall : ParsesTo toolCallParse forgingToolCall
    (toolCallDocument (.object [("type", .string "response.completed")])) :=
  ⟨by decide +kernel, (if_neg (by decide +kernel)).trans (if_pos (by decide +kernel))⟩

/-- The arguments of a tool end the stream. -/
theorem tool_arguments_complete_stream :
    ParsesTo toolCallParse plainToolCall (toolCallDocument (.object [])) ∧
      ParsesTo toolCallParse forgingToolCall
        (toolCallDocument (.object [("type", .string "response.completed")])) ∧
      plainToolCall.event = forgingToolCall.event ∧
      terminalKindOf (openaiResponsesStreamEventObservation toolCallParse) plainToolCall = .none ∧
      terminalKindOf (openaiResponsesStreamEventObservation toolCallParse) forgingToolCall =
        .completed :=
  ⟨parsesTo_plainToolCall, parsesTo_forgingToolCall, rfl, by decide +kernel, by decide +kernel⟩

/-- The member that the arguments add is what the two events differ by. -/
theorem terminal_kinds_eq_iff_toolCalls :
    ParsesTo toolCallParse plainToolCall (toolCallDocument (.object [])) ∧
      ParsesTo toolCallParse forgingToolCall
        (toolCallDocument (.object [("type", .string "response.completed")])) ∧
      (terminalKindOf (openaiResponsesStreamEventObservation toolCallParse) plainToolCall =
          terminalKindOf (openaiResponsesStreamEventObservation toolCallParse) forgingToolCall ↔
        responsesTexts.Names none ∨ responsesTexts.AgreeOn .none (toolCallMembers plainArguments [])
          (toolCallMembers forgingArguments [typeMember "response.completed"])) :=
  ⟨parsesTo_plainToolCall, parsesTo_forgingToolCall,
    (terminal_kinds_eq_iff toolCallParse plainToolCall forgingToolCall _ _ _ _
      parsesTo_plainToolCall parsesTo_forgingToolCall (isJson_toolCallBody written_plainArguments)
      (isJson_toolCallBody written_forgingArguments) rfl rfl).1 rfl⟩

end FuboxApi
