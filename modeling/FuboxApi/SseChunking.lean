import FuboxApi.SseDecoder

/-!
# Decoding does not depend on the chunks

A decoder that has accepted some chunks has decoded the frames of the bytes so far and holds the
remainder, whatever the chunks were.
-/

namespace FuboxApi

open DelimitedFrames CheckedFold

namespace SseParser

/-- The events of a list of blocks, without the blank ones. -/
def parseBlocks (parser : SseParser) (blocks : List Bytes) : Except SseParseError (List SseEvent) :=
  (blocks.filter fun block => !blankBlock block).mapM parser.parseBlock

variable {block : Bytes} {parser : SseParser}

theorem parseBlocks_cons_blank (blank : blankBlock block) (later : List Bytes) :
    parser.parseBlocks (block :: later) = parser.parseBlocks later := by
  simp [parseBlocks, blank]

theorem parseBlocks_cons_ok (notBlank : ¬ blankBlock block) {event : SseEvent}
    (parsed : parser.parseBlock block = .ok event) {later : List Bytes}
    {events : List SseEvent} (laterParsed : parser.parseBlocks later = .ok events) :
    parser.parseBlocks (block :: later) = .ok (event :: events) := by
  unfold parseBlocks at laterParsed ⊢
  simp only [notBlank, Bool.not_false, List.filter_cons_of_pos, List.mapM_cons, parsed, laterParsed]
  rfl

theorem parseBlocks_append {first second : List Bytes} {firstEvents secondEvents : List SseEvent}
    (firstParsed : parser.parseBlocks first = .ok firstEvents)
    (secondParsed : parser.parseBlocks second = .ok secondEvents) :
    parser.parseBlocks (first ++ second) = .ok (firstEvents ++ secondEvents) := by
  unfold parseBlocks at firstParsed secondParsed ⊢
  rw [List.filter_append, List.mapM_append, firstParsed, secondParsed]
  rfl

end SseParser

namespace SseDecoder

variable {events : List SseEvent} {parser : SseParser} {chunks : List Bytes}

theorem drainBlocks_eq_ok {buffer rest : Bytes}
    (drained : drainBlocks parser buffer = (.ok events, rest)) :
    parser.parseBlocks (sseBoundary.split buffer).1 = .ok events ∧
      rest = (sseBoundary.split buffer).2 := by
  fun_induction drainBlocks parser buffer generalizing events rest with
  | case1 buffer found =>
    obtain ⟨eventsEq, rfl⟩ := Prod.mk.inj drained
    rw [sseBoundary.split_of_none found, ← Except.ok.inj eventsEq]
    exact ⟨rfl, rfl⟩
  | case2 buffer boundary boundaryLen found blank ih =>
    rw [sseBoundary.split_of_some found, parser.parseBlocks_cons_blank blank]
    exact ih drained
  | case3 buffer boundary boundaryLen found notBlank error failed =>
    simp at drained
  | case4 buffer boundary boundaryLen found notBlank event parsed ih =>
    obtain ⟨mapped, rfl⟩ := Prod.mk.inj drained
    obtain ⟨laterEvents, laterOk, rfl⟩ := map_eq_ok.mp mapped
    obtain ⟨laterParsed, restEq⟩ := ih (Prod.ext laterOk rfl)
    rw [sseBoundary.split_of_some found]
    exact ⟨parser.parseBlocks_cons_ok notBlank parsed laterParsed, restEq⟩

theorem push_eq_ok {decoder : SseDecoder} {chunk : Bytes}
    (pushed : (decoder.push chunk).1 = .ok events) :
    decoder.parser.parseBlocks (sseBoundary.split (decoder.buffer ++ chunk)).1 = .ok events ∧
      (decoder.push chunk).2 =
        { decoder with buffer := (sseBoundary.split (decoder.buffer ++ chunk)).2 } := by
  simp only [push] at pushed ⊢
  split at pushed
  · simp at pushed
  · next accepted =>
    obtain ⟨parsed, restEq⟩ := drainBlocks_eq_ok (Prod.ext pushed rfl)
    rw [if_neg accepted]
    exact ⟨parsed, congrArg (SseDecoder.mk decoder.parser) restEq⟩

/-- The events of a response that arrives in chunks and then ends. -/
def decodeChunks (decoder : SseDecoder) : List Bytes → Except SseDecodeError (List SseEvent)
  | [] => decoder.finish.1
  | chunk :: later => do
      let events ← (decoder.push chunk).1
      let laterEvents ← decodeChunks (decoder.push chunk).2 later
      return events ++ laterEvents

/-- The events of a whole stream: those of its frames and that of the remainder. -/
def DecodesTo (parser : SseParser) (stream : Bytes) (events : List SseEvent) : Prop :=
  ∃ blockEvents lastEvents, parser.parseBlocks (sseBoundary.split stream).1 = .ok blockEvents ∧
      (finish ⟨parser, (sseBoundary.split stream).2⟩).1 = .ok lastEvents ∧
      events = blockEvents ++ lastEvents

theorem DecodesTo.unique {stream : Bytes} {first second : List SseEvent}
    (firstDecodes : DecodesTo parser stream first) (secondDecodes : DecodesTo parser stream second)
    : first = second := by
  obtain ⟨firstBlocks, firstLast, firstParsed, firstFinished, rfl⟩ := firstDecodes
  obtain ⟨secondBlocks, secondLast, secondParsed, secondFinished, rfl⟩ := secondDecodes
  rw [firstParsed] at secondParsed
  rw [firstFinished] at secondFinished
  rw [Except.ok.inj secondParsed, Except.ok.inj secondFinished]

theorem decodeChunks_eq_ok {bytes : Bytes} {before : List SseEvent}
    (parsed : parser.parseBlocks (sseBoundary.split bytes).1 = .ok before)
    (decoded : decodeChunks ⟨parser, (sseBoundary.split bytes).2⟩ chunks = .ok events) :
    DecodesTo parser (bytes ++ chunks.flatten) (before ++ events) := by
  induction chunks generalizing bytes before events with
  | nil =>
    rw [List.flatten_nil, List.append_nil]
    exact ⟨before, events, parsed, decoded, rfl⟩
  | cons chunk later ih =>
    obtain ⟨chunkEvents, pushed, continued⟩ := bind_eq_ok.mp decoded
    obtain ⟨laterEvents, laterDecoded, returned⟩ := bind_eq_ok.mp continued
    obtain ⟨chunkParsed, decoderEq⟩ := push_eq_ok pushed
    have longerParsed : parser.parseBlocks (sseBoundary.split (bytes ++ chunk)).1 =
        .ok (before ++ chunkEvents) := by
      rw [sseBoundary.split_append]
      exact parser.parseBlocks_append parsed chunkParsed
    have restEq : (sseBoundary.split (bytes ++ chunk)).2 =
        (sseBoundary.split ((sseBoundary.split bytes).2 ++ chunk)).2 := by
      rw [sseBoundary.split_append]
    rw [decoderEq, ← restEq] at laterDecoded
    have whole := ih longerParsed laterDecoded
    rw [List.append_assoc, List.append_assoc] at whole
    rw [List.flatten_cons, ← Except.ok.inj returned]
    exact whole

theorem decodesTo_of_decodeChunks {maxEventBytes : Nat}
    (decoded : (new maxEventBytes).decodeChunks chunks = .ok events) :
    DecodesTo ⟨maxEventBytes⟩ chunks.flatten events := by
  have splitNil : sseBoundary.split [] = ([], []) := sseBoundary.split_of_none (by decide)
  have parsed : SseParser.parseBlocks ⟨maxEventBytes⟩ (sseBoundary.split []).1 = .ok [] := by
    rw [splitNil]
    rfl
  have decodedFromNil :
      decodeChunks ⟨⟨maxEventBytes⟩, (sseBoundary.split []).2⟩ chunks = .ok events := by
    rw [splitNil]
    exact decoded
  exact decodeChunks_eq_ok parsed decodedFromNil

/-- However a stream is cut into chunks, the decoder that accepts it yields the
same events. -/
theorem decodeChunks_independent_of_cut (maxEventBytes : Nat)
    (firstCut secondCut : List Bytes) (firstEvents secondEvents : List SseEvent)
    (sameStream : firstCut.flatten = secondCut.flatten)
    (firstDecoded : (new maxEventBytes).decodeChunks firstCut = .ok firstEvents)
    (secondDecoded : (new maxEventBytes).decodeChunks secondCut = .ok secondEvents) :
    firstEvents = secondEvents := by
  have firstWhole := decodesTo_of_decodeChunks firstDecoded
  have secondWhole := decodesTo_of_decodeChunks secondDecoded
  rw [sameStream] at firstWhole
  exact firstWhole.unique secondWhole

/-- Two blocks, `data: a` and `data:b`, with carriage returns between them. -/
def sampleStream : Bytes :=
  dataField ++ [0x20, 0x61] ++ crlfBoundary ++ dataField ++ [0x62]

/-- The second cut goes through the boundary. -/
theorem decodeChunks_independent_of_cut_sampleStream :
    ∃ events, (new 16).decodeChunks [sampleStream.take 9, sampleStream.drop 9] = .ok events ∧
      [⟨none, [0x61]⟩, ⟨none, [0x62]⟩] = events := by
  have decodedInTwo : (new 16).decodeChunks [sampleStream.take 9, sampleStream.drop 9] =
      .ok [⟨none, [0x61]⟩, ⟨none, [0x62]⟩] := by
    decide +kernel
  have decodedInOne : (new 16).decodeChunks [sampleStream] =
      .ok [⟨none, [0x61]⟩, ⟨none, [0x62]⟩] := by
    decide +kernel
  have sameStream : [sampleStream].flatten =
      [sampleStream.take 9, sampleStream.drop 9].flatten := by
    decide
  exact ⟨_, decodedInTwo,
    decodeChunks_independent_of_cut 16 _ _ _ _ sameStream decodedInOne decodedInTwo⟩

end SseDecoder

end FuboxApi
