import FuboxApi.SseChunking

/-!
# The size limit of the decoder

The decoder refuses a response when the bytes that it holds without a boundary exceed the limit of
an event. A boundary of which the last byte is missing counts among them.
-/

namespace FuboxApi

open DelimitedFrames

theorem prompt_sseBoundary : sseBoundary.Prompt := by
  intro buffer offset width found
  have fits := (findSseBoundary_bounds found).2
  have takeLength : (buffer.take (offset + width)).length = offset + width :=
    List.length_take_of_le fits
  have lf := windowPosition_append_iff lfBoundary_ne_nil (buffer.take (offset + width))
    (buffer.drop (offset + width))
  have crlf := windowPosition_append_iff crlfBoundary_ne_nil (buffer.take (offset + width))
    (buffer.drop (offset + width))
  rw [List.take_append_drop, takeLength] at lf crlf
  change findSseBoundary _ = _
  rw [findSseBoundary_eq_some_iff]
  rcases findSseBoundary_eq_some_iff.mp found with
    ⟨lfFound, rfl, crlfLater⟩ | ⟨crlfFound, rfl, lfLater⟩
  · exact .inl ⟨(lf offset).mpr ⟨lfFound, le_rfl⟩, rfl,
      fun index isCrlf => crlfLater index ((crlf index).mp isCrlf).1⟩
  · exact .inr ⟨(crlf offset).mpr ⟨crlfFound, le_rfl⟩, rfl,
      fun index isLf => lfLater index ((lf index).mp isLf).1⟩

/-- The blocks of a stream: the bytes between its boundaries. -/
def eventBlocks (stream : Bytes) : List Bytes :=
  (sseBoundary.split stream).1 ++ [(sseBoundary.split stream).2]

namespace SseDecoder

section

variable {parser : SseParser} {decoder : SseDecoder} {buffer chunk : Bytes}

theorem push_eq_bufferTooLarge (absent : findSseBoundary (decoder.buffer ++ chunk) = none)
    (large : decoder.parser.maxEventBytes < (decoder.buffer ++ chunk).length) :
    (decoder.push chunk).1 = .error .bufferTooLarge := by
  simp only [push, absent, Option.isNone_none, Bool.and_true]
  rw [if_pos (decide_eq_true large)]

theorem exists_drainBlocks_eq_ok
    (fits : ∀ block ∈ (sseBoundary.split buffer).1, block.length ≤ parser.maxEventBytes) :
    ∃ events, (drainBlocks parser buffer).1 = .ok events := by
  fun_induction drainBlocks parser buffer with
  | case1 buffer found => exact ⟨[], rfl⟩
  | case2 buffer boundary boundaryLen found blank ih =>
    rw [sseBoundary.split_of_some found] at fits
    exact ih (List.forall_mem_cons.mp fits).2
  | case3 buffer boundary boundaryLen found notBlank error failed =>
    rw [sseBoundary.split_of_some found] at fits
    have small := (List.forall_mem_cons.mp fits).1
    rw [SseParser.parseBlock, if_neg (not_lt.mpr small)] at failed
    cases failed
  | case4 buffer boundary boundaryLen found notBlank event parsed ih =>
    rw [sseBoundary.split_of_some found] at fits
    obtain ⟨events, drained⟩ := ih (List.forall_mem_cons.mp fits).2
    exact ⟨event :: events, by rw [drained]; rfl⟩

theorem exists_push_eq_ok (fits : ∀ block ∈ (sseBoundary.split (decoder.buffer ++ chunk)).1,
      block.length ≤ decoder.parser.maxEventBytes)
    (held : (sseBoundary.split (decoder.buffer ++ chunk)).2.length ≤ decoder.parser.maxEventBytes) :
    ∃ events, (decoder.push chunk).1 = .ok events := by
  have accepted : ¬ ((decoder.buffer ++ chunk).length > decoder.parser.maxEventBytes &&
      (findSseBoundary (decoder.buffer ++ chunk)).isNone) = true := by
    intro refused
    simp only [Bool.and_eq_true, decide_eq_true_eq, Option.isNone_iff_eq_none] at refused
    rw [sseBoundary.split_of_none refused.2] at held
    exact absurd refused.1 (not_lt.mpr held)
  rw [push, if_neg accepted]
  exact exists_drainBlocks_eq_ok fits

theorem exists_finish_eq_ok (held : decoder.buffer.length ≤ decoder.parser.maxEventBytes) :
    ∃ events, decoder.finish.1 = .ok events := by
  unfold finish
  split
  · exact ⟨[], rfl⟩
  · rw [if_neg (not_lt.mpr held), SseParser.parseBlock, if_neg (not_lt.mpr held)]
    exact ⟨_, rfl⟩

end

section

variable {parser : SseParser} {stream : Bytes}

/-- The rest of a response is accepted in whatever chunks, if the blocks fit and the
decoder never has to hold too much. -/
theorem exists_decodeChunks_eq_ok
    (fits : ∀ block ∈ (sseBoundary.split stream).1, block.length ≤ parser.maxEventBytes)
    (held : ∀ count, (sseBoundary.split (stream.take count)).2.length ≤ parser.maxEventBytes)
    {bytes : Bytes} {chunks : List Bytes} (whole : bytes ++ chunks.flatten = stream) :
    ∃ events, decodeChunks ⟨parser, (sseBoundary.split bytes).2⟩ chunks = .ok events := by
  induction chunks generalizing bytes with
  | nil =>
    rw [List.flatten_nil, List.append_nil] at whole
    have heldLast := held stream.length
    rw [List.take_length, ← whole] at heldLast
    exact exists_finish_eq_ok heldLast
  | cons chunk later ih =>
    rw [List.flatten_cons, ← List.append_assoc] at whole
    have pendingEq : (sseBoundary.split (bytes ++ chunk)).2 =
        (sseBoundary.split ((sseBoundary.split bytes).2 ++ chunk)).2 := by
      rw [sseBoundary.split_append]
    have chunkFits : ∀ block ∈ (sseBoundary.split ((sseBoundary.split bytes).2 ++ chunk)).1,
        block.length ≤ parser.maxEventBytes := by
      intro block member
      refine fits block ?_
      rw [← whole, sseBoundary.split_append, sseBoundary.split_append]
      exact List.mem_append_left _ (List.mem_append_right _ member)
    have chunkHeld := held (bytes ++ chunk).length
    rw [← whole, List.take_left, pendingEq] at chunkHeld
    have accepted : ∃ events, (push ⟨parser, (sseBoundary.split bytes).2⟩ chunk).1 = .ok events :=
      exists_push_eq_ok chunkFits chunkHeld
    obtain ⟨events, pushed⟩ := accepted
    have decoderEq := (push_eq_ok pushed).2
    obtain ⟨laterEvents, decoded⟩ := ih whole
    refine ⟨events ++ laterEvents, ?_⟩
    simp only [decodeChunks, pushed, decoderEq, ← pendingEq, decoded]
    rfl

/-- A response that is accepted in whatever chunks never makes the decoder hold too
much: the bytes that it would hold may arrive as one chunk. -/
theorem length_pending_le_of_decodable (decodable : ∀ chunks : List Bytes, chunks.flatten = stream →
      ∃ events, decodeChunks ⟨parser, []⟩ chunks = .ok events) (count : Nat) :
    (sseBoundary.split (stream.take count)).2.length ≤ parser.maxEventBytes := by
  obtain ⟨before, cut, nothing⟩ :=
    Delimiter.exists_before_pending prompt_sseBoundary (stream.take count)
  by_contra large
  have whole : [before, (sseBoundary.split (stream.take count)).2, stream.drop count].flatten =
      stream := by
    rw [List.flatten_cons, List.flatten_cons, List.flatten_singleton, ← List.append_assoc, ← cut,
      List.take_append_drop]
  obtain ⟨events, decoded⟩ := decodable _ whole
  obtain ⟨_, pushed, continued⟩ := CheckedFold.bind_eq_ok.mp decoded
  obtain ⟨_, laterDecoded, _⟩ := CheckedFold.bind_eq_ok.mp continued
  rw [(push_eq_ok pushed).2] at laterDecoded
  obtain ⟨_, heldPushed, _⟩ := CheckedFold.bind_eq_ok.mp laterDecoded
  have refused : (push ⟨parser, []⟩ (sseBoundary.split (stream.take count)).2).1 =
      .error .bufferTooLarge :=
    push_eq_bufferTooLarge (sseBoundary.find_split_snd (stream.take count)) (not_le.mp large)
  simp only [List.nil_append, nothing] at heldPushed
  rw [refused] at heldPushed
  cases heldPushed

end

/-- A stream of which every block is within the limit is decoded in whatever chunks
exactly if every block that a boundary ends is within the limit together with all
of the boundary but its last byte. -/
theorem decodable_in_every_cut_iff (maxEventBytes : Nat) (stream : Bytes)
    (fits : ∀ block ∈ eventBlocks stream, block.length ≤ maxEventBytes) :
    (∀ chunks : List Bytes, chunks.flatten = stream →
        ∃ events, (new maxEventBytes).decodeChunks chunks = .ok events) ↔
      ∀ size ∈ sseBoundary.frameSizes stream, size.1 + size.2 ≤ maxEventBytes + 1 := by
  have blocksFit := (List.forall_mem_append.mp fits).1
  have lastFits := List.forall_mem_singleton.mp (List.forall_mem_append.mp fits).2
  have heldIff := Delimiter.length_pending_le_iff prompt_sseBoundary maxEventBytes stream
  rw [and_iff_left lastFits] at heldIff
  rw [← heldIff]
  constructor
  · intro decodable
    exact length_pending_le_of_decodable decodable
  · intro held chunks whole
    have nothing : (sseBoundary.split []).2 = [] := by
      rw [sseBoundary.split_of_none sseBoundary.find_nil]
    have decoded : ∃ events, decodeChunks ⟨⟨maxEventBytes⟩, (sseBoundary.split []).2⟩ chunks =
        .ok events :=
      exists_decodeChunks_eq_ok blocksFit held (List.nil_append chunks.flatten ▸ whole)
    rwa [nothing] at decoded

/-- The first block has seven bytes and its boundary four; the cut leaves out the
last byte of the boundary. -/
theorem decodable_in_every_cut_sampleStream :
    (∀ size ∈ sseBoundary.frameSizes sampleStream, size.1 + size.2 ≤ 10 + 1) ∧
      ∃ events, (new 10).decodeChunks [sampleStream.take 10, sampleStream.drop 10] = .ok events :=
  ⟨by decide +kernel,
    (decodable_in_every_cut_iff 10 sampleStream (by decide +kernel)).mpr (by decide +kernel)
      [sampleStream.take 10, sampleStream.drop 10] (by decide)⟩

/-- The block `data:a` has six bytes; its boundary arrives in two chunks. -/
theorem half_boundary_exceeds_limit :
    (∀ block ∈ eventBlocks (dataField ++ [0x61] ++ lfBoundary), block.length ≤ 6) ∧
      (new 6).decodeChunks [dataField ++ [0x61, lineFeed], [lineFeed]] =
        .error .bufferTooLarge := by
  decide +kernel

end SseDecoder

end FuboxApi
