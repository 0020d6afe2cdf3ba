import FuboxApi.DelimitedFrames
import FuboxApi.RustText
import FuboxApi.Uuid

/-!
# The decoder of server-sent events

An event block ends at an empty line, written with bare line feeds or with carriage returns; `push`
decodes every block that is complete and `finish` what is left when the response ends.
-/

namespace FuboxApi

open RustText DelimitedFrames

inductive StreamEndReason where
  | completed
  | clientCancel
  | upstreamEof
  | upstreamError
  | parserError
  | timeout
  | gatewayAbort
deriving DecidableEq

inductive TerminalEventKind where
  | none
  | completed
  | failed
deriving DecidableEq

structure SseEvent where
  event : Option (List Char)
  data : Bytes
deriving DecidableEq

inductive SseParseError where
  | eventTooLarge
deriving DecidableEq

inductive SseDecodeError where
  | parse (error : SseParseError)
  | bufferTooLarge
deriving DecidableEq

structure SseParser where
  maxEventBytes : Nat

def lineFeed : UInt8 := 0x0A

def carriageReturn : UInt8 := 0x0D

def eventField : Bytes := [0x65, 0x76, 0x65, 0x6E, 0x74, 0x3A]

def dataField : Bytes := [0x64, 0x61, 0x74, 0x61, 0x3A]

def trimCr (line : Bytes) : Bytes :=
  if line.getLast? = some carriageReturn then line.dropLast else line

def trimOneLeadingSpace (line : Bytes) : Bytes :=
  (line.dropPrefix? [0x20]).getD line

def trimAscii (value : Bytes) : Bytes :=
  (value.dropWhile isAsciiWhitespace).rdropWhile isAsciiWhitespace

namespace SseParser

/-- What one line adds to the event under construction. -/
def parseLine (partialEvent : SseEvent) (rawLine : Bytes) : SseEvent :=
  let line := trimCr rawLine
  match line.dropPrefix? eventField with
  | some value => { partialEvent with event := some (trim (fromUtf8Lossy value)) }
  | none =>
    match line.dropPrefix? dataField with
    | some value =>
      let separator := if partialEvent.data.isEmpty then [] else [lineFeed]
      { partialEvent with data := partialEvent.data ++ separator ++ trimOneLeadingSpace value }
    | none => partialEvent

def parseBlock (parser : SseParser) (block : Bytes) : Except SseParseError SseEvent :=
  if block.length > parser.maxEventBytes then .error .eventTooLarge
  else .ok ((block.splitOn lineFeed).foldl parseLine ⟨none, []⟩)

end SseParser

/-- The bytes between two blocks, with bare line feeds. -/
def lfBoundary : Bytes := [lineFeed, lineFeed]

/-- The bytes between two blocks, with carriage returns. -/
def crlfBoundary : Bytes := [carriageReturn, lineFeed, carriageReturn, lineFeed]

def findSseBoundary (buffer : Bytes) : Option (Nat × Nat) :=
  let lf := (windowPosition lfBoundary buffer).map fun index => (index, 2)
  let crlf := (windowPosition crlfBoundary buffer).map fun index => (index, 4)
  match lf, crlf with
  | some lf, some crlf => some (if lf.1 ≤ crlf.1 then lf else crlf)
  | some lf, none => some lf
  | none, some crlf => some crlf
  | none, none => none

theorem lfBoundary_ne_nil : lfBoundary ≠ [] := by
  simp [lfBoundary]

theorem crlfBoundary_ne_nil : crlfBoundary ≠ [] := by
  simp [crlfBoundary]

variable {buffer : Bytes} {offset width : Nat}

theorem findSseBoundary_eq_some_iff : findSseBoundary buffer = some (offset, width) ↔
      (windowPosition lfBoundary buffer = some offset ∧ width = 2 ∧
        ∀ index, windowPosition crlfBoundary buffer = some index → offset ≤ index) ∨
      (windowPosition crlfBoundary buffer = some offset ∧ width = 4 ∧
        ∀ index, windowPosition lfBoundary buffer = some index → offset < index) := by
  unfold findSseBoundary
  cases windowPosition lfBoundary buffer <;> cases windowPosition crlfBoundary buffer
  · simp
  · simp [eq_comm]
  · simp [eq_comm]
  · next lf crlf =>
    simp only [Option.map_some, Option.some.injEq, forall_eq']
    split
    · next lfFirst =>
      simp only [Prod.mk.injEq]
      omega
    · next crlfFirst =>
      simp only [Prod.mk.injEq]
      omega

theorem lf_ne_crlf_succ {lf crlf : Nat} (lfFound : windowPosition lfBoundary buffer = some lf)
    (crlfFound : windowPosition crlfBoundary buffer = some crlf) : lf ≠ crlf + 1 := by
  rintro rfl
  obtain ⟨lfRest, lfEq⟩ := ((windowPosition_eq_some_iff lfBoundary_ne_nil).mp lfFound).1
  obtain ⟨crlfRest, crlfEq⟩ := ((windowPosition_eq_some_iff crlfBoundary_ne_nil).mp crlfFound).1
  rw [← List.drop_drop, ← crlfEq] at lfEq
  simp [lfBoundary, crlfBoundary, lineFeed, carriageReturn] at lfEq

theorem findSseBoundary_append (found : findSseBoundary buffer = some (offset, width))
    (more : Bytes) : findSseBoundary (buffer ++ more) = some (offset, width) := by
  have lfAppend := windowPosition_append_iff lfBoundary_ne_nil buffer more
  have crlfAppend := windowPosition_append_iff crlfBoundary_ne_nil buffer more
  have lfLength : lfBoundary.length = 2 := rfl
  have crlfLength : crlfBoundary.length = 4 := rfl
  rw [findSseBoundary_eq_some_iff] at found ⊢
  rcases found with ⟨lfFound, widthEq, crlfLater⟩ | ⟨crlfFound, widthEq, lfLater⟩
  · left
    obtain ⟨lfFoundLonger, lfFits⟩ := (lfAppend offset).mp lfFound
    refine ⟨lfFoundLonger, widthEq, ?_⟩
    intro index crlfFoundLonger
    by_cases crlfFits : index + crlfBoundary.length ≤ buffer.length
    · exact crlfLater index ((crlfAppend index).mpr ⟨crlfFoundLonger, crlfFits⟩)
    · have notSucc := lf_ne_crlf_succ lfFoundLonger crlfFoundLonger
      omega
  · right
    obtain ⟨crlfFoundLonger, crlfFits⟩ := (crlfAppend offset).mp crlfFound
    refine ⟨crlfFoundLonger, widthEq, ?_⟩
    intro index lfFoundLonger
    by_cases lfFits : index + lfBoundary.length ≤ buffer.length
    · exact lfLater index ((lfAppend index).mpr ⟨lfFoundLonger, lfFits⟩)
    · omega

theorem findSseBoundary_bounds (found : findSseBoundary buffer = some (offset, width)) :
    0 < width ∧ offset + width ≤ buffer.length := by
  rcases findSseBoundary_eq_some_iff.mp found with
    ⟨lfFound, rfl, _⟩ | ⟨crlfFound, rfl, _⟩
  · exact ⟨by decide, windowPosition_le lfBoundary_ne_nil lfFound⟩
  · exact ⟨by decide, windowPosition_le crlfBoundary_ne_nil crlfFound⟩

/-- The empty line between two event blocks. -/
def sseBoundary : Delimiter UInt8 where
  find := findSseBoundary
  width_pos found := (findSseBoundary_bounds found).1
  within found := (findSseBoundary_bounds found).2
  stable found more := findSseBoundary_append found more

structure SseDecoder where
  parser : SseParser
  buffer : Bytes

/-- Whether a block holds nothing but white space. -/
def blankBlock (block : Bytes) : Bool :=
  (trimAscii block).isEmpty

namespace SseDecoder

def new (maxEventBytes : Nat) : SseDecoder :=
  ⟨⟨maxEventBytes⟩, []⟩

/-- The loop of `push`: takes the complete blocks off the buffer and decodes
them, up to the first error. -/
def drainBlocks (parser : SseParser) (buffer : Bytes) :
    Except SseDecodeError (List SseEvent) × Bytes :=
  match _found : findSseBoundary buffer with
  | none => (.ok [], buffer)
  | some (boundary, boundaryLen) =>
    if blankBlock (buffer.take boundary) then
      drainBlocks parser (buffer.drop (boundary + boundaryLen))
    else
      match parser.parseBlock (buffer.take boundary) with
      | .error error => (.error (.parse error), buffer.drop (boundary + boundaryLen))
      | .ok event =>
        ((drainBlocks parser (buffer.drop (boundary + boundaryLen))).1.map (event :: ·),
          (drainBlocks parser (buffer.drop (boundary + boundaryLen))).2)
termination_by buffer.length
decreasing_by all_goals exact sseBoundary.length_drop_lt _found

def push (decoder : SseDecoder) (chunk : Bytes) :
    Except SseDecodeError (List SseEvent) × SseDecoder :=
  let buffer := decoder.buffer ++ chunk
  if buffer.length > decoder.parser.maxEventBytes && (findSseBoundary buffer).isNone then
    (.error .bufferTooLarge, { decoder with buffer })
  else
    let drained := drainBlocks decoder.parser buffer
    (drained.1, { decoder with buffer := drained.2 })

def finish (decoder : SseDecoder) : Except SseDecodeError (List SseEvent) × SseDecoder :=
  if blankBlock decoder.buffer then (.ok [], { decoder with buffer := [] })
  else if decoder.buffer.length > decoder.parser.maxEventBytes then
    (.error .bufferTooLarge, decoder)
  else
    ((decoder.parser.parseBlock decoder.buffer).mapError .parse |>.map fun event => [event],
      { decoder with buffer := [] })

end SseDecoder

end FuboxApi
