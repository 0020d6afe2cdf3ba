import FuboxApi.JsonDocument
import FuboxApi.StreamFinalization

/-!
# What the stream protocols make of an event

For every event the protocol of a stream tells whether it is terminal and which usage it carries: a
scanner looks for a key in the bytes, and an adapter looks at the parsed document. The parser of
documents is a parameter.
-/

namespace FuboxApi

/-! ## Scanning the bytes of an event -/

def asciiBytes (text : String) : Bytes :=
  text.toList.map fun character => UInt8.ofNat character.toNat

def quotationMark : UInt8 := 0x22

def reverseSolidus : UInt8 := 0x5C

def colon : UInt8 := 0x3A

/-- `json_string_matches`, behind the opening quotation mark: whether the string is the
expected one, and what follows it. -/
def jsonStringMatches (expected : Bytes) (expectedIndex : Nat) (isMatch : Bool) :
    Bytes → Option (Bool × Bytes)
  | [] => none
  | byte :: rest =>
    if byte = reverseSolidus then
      match rest with
      | [] => none
      | _ :: rest => jsonStringMatches expected expectedIndex false rest
    else if byte = quotationMark then
      some (isMatch && expectedIndex = expected.length, rest)
    else
      jsonStringMatches expected (expectedIndex + 1)
        (isMatch && expected[expectedIndex]? = some byte) rest

theorem length_jsonStringMatches {expected input rest : Bytes} {expectedIndex : Nat}
    {isMatch result : Bool}
    (found : jsonStringMatches expected expectedIndex isMatch input = some (result, rest)) :
    rest.length < input.length := by
  fun_induction jsonStringMatches expected expectedIndex isMatch input with
  | case1 => cases found
  | case2 => cases found
  | case3 expectedIndex isMatch _ tail ih =>
    have shorter := ih found
    simp only [List.length_cons]
    omega
  | case4 =>
    obtain ⟨-, rfl⟩ := Prod.mk.inj (Option.some.inj found)
    simp
  | case5 expectedIndex isMatch byte tail _ _ ih =>
    have shorter := ih found
    simp only [List.length_cons]
    omega

def skipJsonWs (input : Bytes) : Bytes :=
  input.dropWhile RustText.isAsciiWhitespace

def behindColon (input : Bytes) : Option Bytes :=
  match skipJsonWs input with
  | [] => none
  | byte :: rest => if byte = colon then some (skipJsonWs rest) else none

/-- What the value of a key decides: that the scan ends with an answer, or that it goes
on. -/
def stringValueDecides (value input : Bytes) : Option Bool :=
  match behindColon input with
  | none | some [] => none
  | some (byte :: rest) =>
    if byte = quotationMark then
      match jsonStringMatches value 0 true rest with
      | none => some false
      | some (true, _) => some true
      | some (false, _) => none
    else none

def jsonStringIsClosed : Bytes → Bool
  | [] => false
  | byte :: rest =>
    if byte = reverseSolidus then
      match rest with
      | [] => false
      | _ :: rest => jsonStringIsClosed rest
    else byte = quotationMark || jsonStringIsClosed rest

def jsonValueIsNonNull : Bytes → Bool
  | [] => false
  | byte :: rest =>
    if byte = quotationMark then jsonStringIsClosed rest
    else byte ∈ asciiBytes "\x7b[tf-0123456789"

/-- `json_key_has_non_null_value` answers with the first key that has a value. -/
def nonNullValueDecides (input : Bytes) : Option Bool :=
  (behindColon input).map jsonValueIsNonNull

/-- The loop of the two scanners: the strings of the input, until the value behind one
that is the key decides. -/
def scanForKey (key : Bytes) (decides : Bytes → Option Bool) : Bytes → Bool
  | [] => false
  | byte :: rest =>
    if byte = quotationMark then
      match _found : jsonStringMatches key 0 true rest with
      | none => false
      | some (keyMatches, stringEnd) =>
        ((if keyMatches then decides stringEnd else none).getD (scanForKey key decides stringEnd))
    else scanForKey key decides rest
termination_by input => input.length
decreasing_by
  · have shorter := length_jsonStringMatches _found
    simp only [List.length_cons]
    omega
  · simp

def jsonKeyStringValueEq (input : Bytes) (key value : String) : Bool :=
  scanForKey (asciiBytes key) (stringValueDecides (asciiBytes value)) input

def jsonKeyHasNonNullValue (input : Bytes) (key : String) : Bool :=
  scanForKey (asciiBytes key) nonNullValueDecides input

inductive GatewayStreamProtocol where
  | openAiChatCompletions
  | openAiResponses
  | anthropicMessages
  | geminiGenerateContent

def responsesTerminalEventKind (event : SseEvent) : TerminalEventKind :=
  match event.event.map String.ofList with
  | some "response.completed" => .completed
  | some "response.failed" | some "response.incomplete" | some "response.cancelled" => .failed
  | _ =>
    if jsonKeyStringValueEq event.data "type" "response.completed" then .completed
    else if jsonKeyStringValueEq event.data "type" "response.failed" ||
        jsonKeyStringValueEq event.data "type" "response.incomplete" ||
        jsonKeyStringValueEq event.data "type" "response.cancelled" then .failed
    else .none

def anthropicTerminalEventKind (event : SseEvent) : TerminalEventKind :=
  match event.event.map String.ofList with
  | some "message_stop" => .completed
  | some "error" => .failed
  | _ =>
    if jsonKeyStringValueEq event.data "type" "message_stop" then .completed
    else if jsonKeyStringValueEq event.data "type" "error" then .failed
    else .none

def terminalEventKind (protocol : GatewayStreamProtocol) (event : SseEvent) : TerminalEventKind :=
  match protocol with
  | .openAiChatCompletions =>
    if trimAscii event.data = asciiBytes "[DONE]" then .completed else .none
  | .openAiResponses => responsesTerminalEventKind event
  | .anthropicMessages => anthropicTerminalEventKind event
  | .geminiGenerateContent =>
    if jsonKeyHasNonNullValue event.data "finishReason" ||
        jsonKeyHasNonNullValue event.data "finish_reason" then .completed
    else .none

def mergeTerminalKinds : TerminalEventKind → TerminalEventKind → TerminalEventKind
  | .failed, _ | _, .failed => .failed
  | .completed, _ | _, .completed => .completed
  | .none, .none => .none

/-! ## The adapters -/

/-- The count under a name, if it is an integer of 64 bits. -/
def tokenCount (usage : JsonDocument) (name : String) : Option UInt64 :=
  (usage.field name).bind JsonDocument.asU64

def anthropicUsage (response : JsonDocument) : Option AdapterUsage :=
  (response.field "usage").map fun usage =>
    ⟨tokenCount usage "input_tokens", tokenCount usage "output_tokens"⟩

/-- The totals decide whether there is usage at all. -/
def openaiUsage (response : JsonDocument) : Option AdapterUsage := do
  let usage ← response.field "usage"
  let promptTokens :=
    ((usage.field "prompt_tokens").or (usage.field "input_tokens")).bind JsonDocument.asU64
  let completionTokens :=
    ((usage.field "completion_tokens").or (usage.field "output_tokens")).bind JsonDocument.asU64
  if promptTokens.isNone && completionTokens.isNone && (tokenCount usage "total_tokens").isNone
  then none
  else some ⟨promptTokens, completionTokens⟩

def checkedSubU64 (total part : UInt64) : Option UInt64 :=
  if part ≤ total then some (total - part) else none

def geminiUsage (response : JsonDocument) : Option AdapterUsage :=
  (response.field "usageMetadata").map fun usage =>
    let promptTokens := tokenCount usage "promptTokenCount"
    let derived := do
      let totalTokens ← tokenCount usage "totalTokenCount"
      checkedSubU64 totalTokens (← promptTokens)
    ⟨promptTokens, (tokenCount usage "candidatesTokenCount").or derived⟩

def textField (document : JsonDocument) (name : String) : Option String :=
  (document.field name).bind JsonDocument.asStr

def anthropicStreamTerminalKind (event : Option (List Char)) (data : JsonDocument) :
    TerminalEventKind :=
  match (event.map RustText.trim).map String.ofList with
  | some "message_stop" => .completed
  | some "error" => .failed
  | _ =>
    match textField data "type" with
    | some "message_stop" => .completed
    | some "error" => .failed
    | _ => .none

def openaiResponsesStreamTerminalKind (data : JsonDocument) : TerminalEventKind :=
  match textField data "type" with
  | some "response.completed" => .completed
  | some "response.failed" => .failed
  | some "error" => .failed
  | _ =>
    match (data.field "response").bind (textField · "status") with
    | some "completed" => .completed
    | some "failed" | some "cancelled" | some "incomplete" => .failed
    | _ => .none

/-- Whether a candidate of an answer tells why it ended. -/
def hasFinishReason (candidate : JsonDocument) : Bool :=
  (textField candidate "finishReason").any fun reason =>
    !(RustText.trim reason.toList).isEmpty

def geminiStreamTerminalKind (data : JsonDocument) : TerminalEventKind :=
  if (data.field "error").any JsonDocument.isObject then .failed
  else if (((data.field "candidates").bind JsonDocument.asArray).getD []).any hasFinishReason
  then .completed
  else .none

/-- Only a terminal event of the responses protocol carries usage. -/
def responsesStreamUsage (data : JsonDocument) : Option AdapterUsage :=
  if (openaiResponsesStreamTerminalKind data).isTerminal then
    (openaiUsage data).or (((data.field "response").bind openaiUsage).or
      ((data.field "error").bind openaiUsage))
  else none

/-! ## The observation of an event -/

/-- A usage with at least one count. -/
def observedUsage (promptTokens completionTokens : Option UInt64) : Option RequestUsageUpdate :=
  let update : RequestUsageUpdate := ⟨promptTokens.bind u64ToI64, completionTokens.bind u64ToI64⟩
  if update.inputTokens.isSome || update.outputTokens.isSome then some update else none

def streamUsageFromAdapterUsage (usage : AdapterUsage) : Option RequestUsageUpdate :=
  observedUsage usage.promptTokens usage.completionTokens

def openaiStreamUsageFromValue (payload : JsonDocument) : Option RequestUsageUpdate := do
  let usage ← payload.field "usage"
  if usage.isNull then none
  else observedUsage (tokenCount usage "prompt_tokens") (tokenCount usage "completion_tokens")

/-- The message of an adapter that was given something other than a document. -/
def upstreamInvalidJson (message : String) : StreamChunkError :=
  .protocolParser ("upstream returned non-JSON response with HTTP 200: " ++ message)

abbrev JsonParser :=
  Bytes → Except String JsonDocument

namespace GatewayStreamProtocol

variable (parse : JsonParser)

def openaiChatStreamEventObservation (event : SseEvent) : ChunkResult StreamEventObservation := do
  let terminalKind := terminalEventKind .openAiChatCompletions event
  if event.data.isEmpty || terminalKind.isTerminal then return ⟨terminalKind, none⟩
  else
    let payload ← (parse event.data).mapError .protocolParser
    return ⟨terminalKind, openaiStreamUsageFromValue payload⟩

/-- The three adapters with a document for every event: the terminal kind of the bytes
merged with that of the document, and the usage of the document. -/
def adapterStreamEventObservation (protocol : GatewayStreamProtocol)
    (adapterTerminalKind : JsonDocument → TerminalEventKind)
    (adapterUsage : JsonDocument → Option AdapterUsage) (event : SseEvent) :
    ChunkResult StreamEventObservation := do
  if event.data.isEmpty then return ⟨.none, none⟩
  else
    let data ← (parse (trimAscii event.data)).mapError upstreamInvalidJson
    return ⟨mergeTerminalKinds (terminalEventKind protocol event) (adapterTerminalKind data),
      (adapterUsage data).bind streamUsageFromAdapterUsage⟩

def openaiResponsesStreamEventObservation (event : SseEvent) : ChunkResult StreamEventObservation :=
  adapterStreamEventObservation parse .openAiResponses openaiResponsesStreamTerminalKind
    responsesStreamUsage event

def anthropicMessagesStreamEventObservation (event : SseEvent) :
    ChunkResult StreamEventObservation :=
  adapterStreamEventObservation parse .anthropicMessages (anthropicStreamTerminalKind event.event)
    anthropicUsage event

def geminiGenerateContentStreamEventObservation (event : SseEvent) :
    ChunkResult StreamEventObservation :=
  adapterStreamEventObservation parse .geminiGenerateContent geminiStreamTerminalKind geminiUsage
    event

def observeEvent (protocol : GatewayStreamProtocol) (event : SseEvent) :
    ChunkResult StreamEventObservation :=
  match protocol with
  | .openAiChatCompletions => openaiChatStreamEventObservation parse event
  | .openAiResponses => openaiResponsesStreamEventObservation parse event
  | .anthropicMessages => anthropicMessagesStreamEventObservation parse event
  | .geminiGenerateContent => geminiGenerateContentStreamEventObservation parse event

end GatewayStreamProtocol

end FuboxApi
