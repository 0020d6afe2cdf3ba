import FuboxApi.SseDecoder

/-!
# The data of an event block

The parser writes a line feed before a value only if there is some data already, so that empty
values at the beginning of a block leave no trace.
-/

namespace FuboxApi

open RustText

/-! ## What the lines of a block say -/

/-- The lines of a block, each ended by a line feed or by a carriage return and a
line feed. -/
def blockLines (block : Bytes) : List Bytes :=
  (block.splitOn lineFeed).map trimCr

def dataValue (line : Bytes) : Option Bytes :=
  (line.dropPrefix? dataField).map trimOneLeadingSpace

def dataValues (block : Bytes) : List Bytes :=
  (blockLines block).filterMap dataValue

def eventName (line : Bytes) : Option (List Char) :=
  (line.dropPrefix? eventField).map fun value => trim (fromUtf8Lossy value)

/-- What a block says: the name on its last event line, and the values of its data
lines joined with line feeds. -/
def blockEvent (block : Bytes) : SseEvent where
  event := ((blockLines block).filterMap eventName).getLast?
  data := [lineFeed].intercalate (dataValues block)

/-! ## What the parser makes of them -/

namespace SseParser

/-- Data, and the value of one more line. -/
def appendData (data value : Bytes) : Bytes :=
  data ++ (if data.isEmpty then [] else [lineFeed]) ++ value

theorem dataValue_eq_none_of_eventName {line : Bytes} {name : List Char}
    (named : eventName line = some name) : dataValue line = none := by
  obtain ⟨value, stripped, _⟩ := Option.map_eq_some_iff.mp named
  obtain ⟨field, lineEq, same⟩ := List.dropPrefix?_eq_some_iff.mp stripped
  rw [lineEq, eq_of_beq same]
  rfl

theorem parseLine_eq (event : SseEvent) (rawLine : Bytes) : parseLine event rawLine =
      ⟨(eventName (trimCr rawLine)).or event.event,
        (dataValue (trimCr rawLine)).elim event.data (appendData event.data)⟩ := by
  cases named : (trimCr rawLine).dropPrefix? eventField with
  | some value =>
    have isEvent : eventName (trimCr rawLine) = some (trim (fromUtf8Lossy value)) := by
      simp [eventName, named]
    rw [dataValue_eq_none_of_eventName isEvent, isEvent]
    simp [parseLine, named]
  | none =>
    cases stripped : (trimCr rawLine).dropPrefix? dataField <;>
      simp [parseLine, eventName, dataValue, named, stripped, appendData]

theorem foldl_parseLine (rawLines : List Bytes) (event : SseEvent) :
    rawLines.foldl parseLine event =
      ⟨((rawLines.map trimCr).filterMap eventName).getLast?.or event.event,
        ((rawLines.map trimCr).filterMap dataValue).foldl appendData event.data⟩ := by
  induction rawLines generalizing event with
  | nil => rfl
  | cons rawLine later ih =>
    rw [List.foldl_cons, ih, parseLine_eq, List.map_cons]
    congr 1
    · cases named : eventName (trimCr rawLine) with
      | none => rw [List.filterMap_cons_none named, Option.none_or]
      | some name =>
        rw [List.filterMap_cons_some named, List.getLast?_cons]
        cases ((later.map trimCr).filterMap eventName).getLast? <;> rfl
    · cases stripped : dataValue (trimCr rawLine) with
      | none => rw [List.filterMap_cons_none stripped, Option.elim_none]
      | some value => rw [List.filterMap_cons_some stripped, Option.elim_some, List.foldl_cons]

theorem foldl_appendData {data : Bytes} (begun : data ≠ []) (values : List Bytes) :
    values.foldl appendData data = data ++ (values.map (lineFeed :: ·)).flatten := by
  induction values generalizing data with
  | nil => simp
  | cons value later ih =>
    have longer : appendData data value = data ++ lineFeed :: value := by
      simp [appendData, begun]
    rw [List.foldl_cons, longer, ih (by simp)]
    simp

theorem intercalate_cons (value : Bytes) (later : List Bytes) :
    [lineFeed].intercalate (value :: later) = value ++ (later.map (lineFeed :: ·)).flatten := by
  induction later generalizing value with
  | nil => simp
  | cons next later ih =>
    rw [List.intercalate_cons_cons, ih]
    simp

theorem foldl_appendData_nil (values : List Bytes) :
    values.foldl appendData [] = [lineFeed].intercalate (values.dropWhile List.isEmpty) := by
  induction values with
  | nil => rfl
  | cons value later ih =>
    cases value with
    | nil => exact ih
    | cons byte bytes =>
      rw [List.dropWhile_cons_of_neg (by simp), intercalate_cons, List.foldl_cons]
      exact foldl_appendData (by simp [appendData]) later

theorem parseBlock_eq {parser : SseParser} {block : Bytes}
    (fits : block.length ≤ parser.maxEventBytes) : parser.parseBlock block = .ok
      { blockEvent block with
        data := [lineFeed].intercalate ((dataValues block).dropWhile List.isEmpty) } := by
  rw [parseBlock, if_neg (not_lt.mpr fits), foldl_parseLine, foldl_appendData_nil, Option.or_none]
  rfl

theorem length_intercalate_dropWhile_le (values : List Bytes) :
    ([lineFeed].intercalate (values.dropWhile List.isEmpty)).length ≤
      ([lineFeed].intercalate values).length := by
  induction values with
  | nil => exact le_rfl
  | cons value later ih =>
    cases value with
    | cons byte bytes => exact le_rfl
    | nil =>
      cases later with
      | nil => exact le_rfl
      | cons next later =>
        rw [List.intercalate_cons_cons, List.length_append]
        exact ih.trans (Nat.le_add_left _ _)

theorem intercalate_dropWhile_isEmpty_iff (values : List Bytes) :
    [lineFeed].intercalate (values.dropWhile List.isEmpty) = [lineFeed].intercalate values ↔
      values.length ≤ 1 ∨ values.head? ≠ some [] := by
  cases values with
  | nil => simp
  | cons value later =>
    cases value with
    | cons byte bytes => simp
    | nil =>
      cases later with
      | nil => simp
      | cons next later =>
        -- the line feed behind the empty value is missing
        have shorter := length_intercalate_dropWhile_le (next :: later)
        have differ : [lineFeed].intercalate (([] :: next :: later).dropWhile
            List.isEmpty) ≠ [lineFeed].intercalate ([] :: next :: later) := by
          intro same
          have lengths := congrArg List.length same
          rw [List.intercalate_cons_cons, List.length_append] at lengths
          change ([lineFeed].intercalate ((next :: later).dropWhile List.isEmpty)).length =
            1 + _ at lengths
          omega
        simpa using differ

/-- The parser joins the values of the data lines as the event stream has them
exactly if there is at most one, or the first one is not empty; the name of the
event is right in any case. -/
theorem parseBlock_joins_data_iff (parser : SseParser) (block : Bytes)
    (fits : block.length ≤ parser.maxEventBytes) :
    parser.parseBlock block = .ok (blockEvent block) ↔
      (dataValues block).length ≤ 1 ∨ (dataValues block).head? ≠ some [] := by
  rw [parseBlock_eq fits, ← intercalate_dropWhile_isEmpty_iff]
  simp [blockEvent]

/-- The lines `event: tick`, `data: a`, `data:` and `data:b`, the first of them
ended by a carriage return as well. -/
def tickBlock : Bytes :=
  List.flatten [eventField, [0x20, 0x74, 0x69, 0x63, 0x6B, carriageReturn, lineFeed],
    dataField, [0x20, 0x61, lineFeed], dataField, [lineFeed], dataField, [0x62]]

theorem parseBlock_joins_data_tickBlock :
    SseParser.parseBlock ⟨64⟩ tickBlock = .ok (blockEvent tickBlock) ∧ blockEvent tickBlock =
        ⟨some ['t', 'i', 'c', 'k'], [0x61, lineFeed, lineFeed, 0x62]⟩ :=
  ⟨(parseBlock_joins_data_iff ⟨64⟩ tickBlock (by decide)).mpr (.inr (by decide)), by decide +kernel⟩

/-- Two data lines, of which the first one is empty: its line feed is lost. -/
theorem parseBlock_drops_first_empty_line :
    SseParser.parseBlock ⟨64⟩ (List.flatten [dataField, [lineFeed], dataField, [0x61]]) =
        .ok ⟨none, [0x61]⟩ ∧ blockEvent (List.flatten [dataField, [lineFeed], dataField, [0x61]]) =
        ⟨none, [lineFeed, 0x61]⟩ := by
  decide +kernel

end SseParser

end FuboxApi
