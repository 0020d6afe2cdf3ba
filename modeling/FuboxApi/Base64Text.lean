import FuboxApi.RustText

/-!
# The base64 text of a master key

The decoder drops white space and reads groups of four symbols, the last one with padding. The
encoding that it inverts is stated beside it.
-/

namespace FuboxApi.Base64Text

def padding : UInt8 := 0x3D

def base64Value (byte : UInt8) : Option UInt8 :=
  if 0x41 ≤ byte ∧ byte ≤ 0x5A then some (byte - 0x41)
  else if 0x61 ≤ byte ∧ byte ≤ 0x7A then some (byte - 0x61 + 26)
  else if 0x30 ≤ byte ∧ byte ≤ 0x39 then some (byte - 0x30 + 52)
  else if byte = 0x2B then some 62
  else if byte = 0x2F then some 63
  else none

/-- The body of the loop: what the four symbols of a group stand for. -/
def decodeChunk (isLast : Bool) (s0 s1 s2 s3 : UInt8) : Option Bytes := do
  let padded := ([s3, s2, s1, s0].takeWhile (· = padding)).length
  if padded > 2 ∨ (padded > 0 ∧ !isLast) ∨ s0 = padding ∨ s1 = padding then none
  else if padded = 1 ∧ s2 = padding then none
  else if padded = 2 ∧ s2 ≠ padding then none
  else
    let b0 ← base64Value s0
    let b1 ← base64Value s1
    let first := b0 <<< 2 ||| b1 >>> 4
    if padded < 2 then
      let b2 ← base64Value s2
      let second := b1 <<< 4 ||| b2 >>> 2
      if padded = 0 then
        let b3 ← base64Value s3
        return [first, second, b2 <<< 6 ||| b3]
      else return [first, second]
    else return [first]

/-- The loop over the groups: the last is the one with nothing behind it. -/
def decodeChunks : Bytes → Option Bytes
  | s0 :: s1 :: s2 :: s3 :: rest => do
    let output ← decodeChunk rest.isEmpty s0 s1 s2 s3
    return output ++ (← decodeChunks rest)
  | _ => some []

def withoutWhitespace (raw : Bytes) : Bytes :=
  raw.filter (!RustText.isAsciiWhitespace ·)

def decodeBase64 (raw : Bytes) : Option Bytes :=
  let bytes := withoutWhitespace raw
  if bytes.isEmpty ∨ bytes.length % 4 ≠ 0 then none else decodeChunks bytes

/-! ## The standard encoding -/

def alphabet : Bytes :=
  "ABCDEFGHIJKLMNOPQRSTUVWXYZabcdefghijklmnopqrstuvwxyz0123456789+/".toList.map
    fun character => UInt8.ofNat character.toNat

/-- The symbol of the six low bits. -/
def symbol (value : UInt8) : UInt8 :=
  alphabet.getD (value &&& 63).toNat padding

/-- The second and the third symbol of a group have bits of two bytes. -/
def secondSextet (x y : UInt8) : UInt8 :=
  x <<< 4 ||| y >>> 4

def thirdSextet (y z : UInt8) : UInt8 :=
  y <<< 2 ||| z >>> 6

/-- Three bytes are four symbols. One or two bytes at the end are filled with zeros, and the
symbols that hold only these are padding. -/
def encode : Bytes → Bytes
  | [] => []
  | [x] => [symbol (x >>> 2), symbol (secondSextet x 0), padding, padding]
  | [x, y] => [symbol (x >>> 2), symbol (secondSextet x y), symbol (thirdSextet y 0), padding]
  | x :: y :: z :: rest =>
    symbol (x >>> 2) :: symbol (secondSextet x y) :: symbol (thirdSextet y z) :: symbol z ::
      encode rest

/-- Padding that has more behind it than one more padding. -/
def PaddingMisplaced (bytes : Bytes) : Prop :=
  ∃ before after, bytes = before ++ padding :: after ∧ after ≠ [] ∧ after ≠ [padding]

def HasForeignCharacter (bytes : Bytes) : Prop :=
  ∃ byte ∈ bytes, byte ∉ alphabet ∧ byte ≠ padding

/-! ## Decoding an encoded text -/

@[simp]
theorem base64Value_symbol (value : UInt8) : base64Value (symbol value) = some (value &&& 63) := by
  revert value
  decide +kernel

@[simp]
theorem symbol_ne_padding (value : UInt8) : symbol value ≠ padding := by
  revert value
  decide +kernel

theorem eq_of_bits {x y : UInt8} (bits : ∀ i < 8, x.toBitVec.getLsbD i = y.toBitVec.getLsbD i) :
    x = y :=
  UInt8.toBitVec_inj.mp (BitVec.eq_of_getLsbD_eq bits)

@[simp]
theorem first_byte (x y : UInt8) :
    (x >>> 2 &&& 63) <<< 2 ||| (secondSextet x y &&& 63) >>> 4 = x := by
  refine eq_of_bits fun i inByte => ?_
  interval_cases i <;> simp [secondSextet]

@[simp]
theorem second_byte (x y z : UInt8) :
    (secondSextet x y &&& 63) <<< 4 ||| (thirdSextet y z &&& 63) >>> 2 = y := by
  refine eq_of_bits fun i inByte => ?_
  interval_cases i <;> simp [secondSextet, thirdSextet]

@[simp]
theorem third_byte (y z : UInt8) : (thirdSextet y z &&& 63) <<< 6 ||| (z &&& 63) = z := by
  refine eq_of_bits fun i inByte => ?_
  interval_cases i <;> simp [thirdSextet]

theorem decodeChunks_encode (bytes : Bytes) : decodeChunks (encode bytes) = some bytes := by
  fun_induction encode bytes with
  | case1 => rfl
  | case2 x => simp [decodeChunks, decodeChunk]
  | case3 x y => simp [decodeChunks, decodeChunk]
  | case4 x y z rest ih => simp [decodeChunks, decodeChunk, ih]

theorem length_encode (bytes : Bytes) : (encode bytes).length % 4 = 0 := by
  fun_induction encode bytes with
  | case4 x y z rest ih => simp only [List.length_cons]; omega
  | _ => simp

/-! ## What the decoder accepts -/

theorem mem_alphabet {byte value : UInt8} (valued : base64Value byte = some value) :
    byte ∈ alphabet := by
  have inAlphabet : ∀ byte, (base64Value byte).isSome → byte ∈ alphabet := by decide +kernel
  exact inAlphabet byte (by simp [valued])

/-- Symbols of the alphabet with this much padding behind them. -/
def PaddedBy (count : Nat) (bytes : Bytes) : Prop :=
  ∃ symbols, bytes = symbols ++ List.replicate count padding ∧ ∀ byte ∈ symbols, byte ∈ alphabet

theorem decodeChunk_accepts {isLast : Bool} {s0 s1 s2 s3 : UInt8} {output : Bytes}
    (accepted : decodeChunk isLast s0 s1 s2 s3 = some output) :
    ∃ count ≤ 2, (count ≠ 0 → isLast) ∧ PaddedBy count [s0, s1, s2, s3] := by
  unfold decodeChunk at accepted
  by_cases s3Padding : s3 = padding
  · by_cases s2Padding : s2 = padding
    · simp [s3Padding, s2Padding, Option.bind_eq_some_iff] at accepted
      obtain ⟨⟨-, last, -⟩, b0, b0Eq, b1, b1Eq, -⟩ := accepted
      exact ⟨2, le_rfl, fun _ => last, [s0, s1], by simp [s3Padding, s2Padding],
        by simp [mem_alphabet b0Eq, mem_alphabet b1Eq]⟩
    · simp [s3Padding, s2Padding, Option.bind_eq_some_iff] at accepted
      obtain ⟨⟨last, -⟩, b0, b0Eq, b1, b1Eq, b2, b2Eq, -⟩ := accepted
      exact ⟨1, by decide, fun _ => last, [s0, s1, s2], by simp [s3Padding],
        by simp [mem_alphabet b0Eq, mem_alphabet b1Eq, mem_alphabet b2Eq]⟩
  · simp [s3Padding, Option.bind_eq_some_iff] at accepted
    obtain ⟨-, b0, b0Eq, b1, b1Eq, b2, b2Eq, b3, b3Eq, -⟩ := accepted
    exact ⟨0, by decide, by simp, [s0, s1, s2, s3], by simp, by
      simp [mem_alphabet b0Eq, mem_alphabet b1Eq, mem_alphabet b2Eq, mem_alphabet b3Eq]⟩

theorem decodeChunks_accepts {bytes output : Bytes} (whole : bytes.length % 4 = 0)
    (accepted : decodeChunks bytes = some output) : ∃ count ≤ 2, PaddedBy count bytes := by
  fun_induction decodeChunks bytes generalizing output with
  | case1 s0 s1 s2 s3 rest ih =>
    obtain ⟨chunk, chunkEq, accepted⟩ := Option.bind_eq_some_iff.mp accepted
    obtain ⟨later, laterEq, -⟩ := Option.bind_eq_some_iff.mp accepted
    obtain ⟨count, countLe, onlyLast, symbols, chunkForm, inAlphabet⟩ := decodeChunk_accepts chunkEq
    cases rest with
    | nil => exact ⟨count, countLe, symbols, chunkForm, inAlphabet⟩
    | cons s4 rest =>
      have unpadded : count = 0 := by
        by_contra padded
        simpa using onlyLast padded
      subst unpadded
      have wholeRest : (s4 :: rest).length % 4 = 0 := by
        simp only [List.length_cons] at whole ⊢
        omega
      obtain ⟨count, countLe, others, laterForm, othersIn⟩ := ih wholeRest laterEq
      refine ⟨count, countLe, symbols ++ others, ?_, ?_⟩
      · rw [List.append_assoc, ← laterForm, ← List.append_nil symbols, ← List.replicate_zero,
          ← chunkForm]
        rfl
      · simpa [or_imp, forall_and] using ⟨inAlphabet, othersIn⟩
  | case2 bytes short =>
    have empty : bytes = [] := by
      rcases bytes with _ | ⟨s0, _ | ⟨s1, _ | ⟨s2, _ | ⟨s3, rest⟩⟩⟩⟩
      · rfl
      · simp at whole
      · simp at whole
      · simp at whole
      · exact absurd rfl (short s0 s1 s2 s3 rest)
    exact ⟨0, by decide, [], by simp [empty], by simp⟩

theorem decodeBase64_accepts {raw output : Bytes} (accepted : decodeBase64 raw = some output) :
    (withoutWhitespace raw).length % 4 = 0 ∧
      ∃ count ≤ 2, PaddedBy count (withoutWhitespace raw) := by
  rw [decodeBase64, Option.ite_none_left_eq_some] at accepted
  obtain ⟨wellSized, accepted⟩ := accepted
  have whole : (withoutWhitespace raw).length % 4 = 0 := by simp_all
  exact ⟨whole, decodeChunks_accepts whole accepted⟩

theorem PaddedBy.no_foreign {count : Nat} {bytes : Bytes} (padded : PaddedBy count bytes) :
    ¬ HasForeignCharacter bytes := by
  obtain ⟨symbols, rfl, inAlphabet⟩ := padded
  rintro ⟨byte, mem, foreign, unpadded⟩
  rcases List.mem_append.mp mem with mem | mem
  · exact foreign (inAlphabet byte mem)
  · exact unpadded (List.eq_of_mem_replicate mem)

theorem PaddedBy.not_misplaced {count : Nat} {bytes : Bytes} (padded : PaddedBy count bytes)
    (countLe : count ≤ 2) : ¬ PaddingMisplaced bytes := by
  obtain ⟨symbols, rfl, inAlphabet⟩ := padded
  rintro ⟨before, after, split, nonempty, notOne⟩
  have noPadding : padding ∉ symbols := fun mem => absurd (inAlphabet _ mem) (by decide +kernel)
  have suffix : padding :: after <:+ List.replicate count padding := by
    rcases List.append_eq_append_iff.mp split with ⟨middle, rfl, tail⟩ | ⟨middle, rfl, tail⟩
    · exact ⟨middle, tail.symm⟩
    · cases middle with
      | nil => exact ⟨[], by simpa using tail⟩
      | cons first middle =>
        obtain ⟨rfl, -⟩ := List.cons.inj tail
        simp at noPadding
  obtain ⟨lengthLe, allPadding⟩ := List.suffix_replicate_iff.mp suffix
  match after with
  | [] => exact nonempty rfl
  | [byte] => exact notOne (List.cons.inj allPadding).2
  | _ :: _ :: later =>
    simp only [List.length_cons] at lengthLe
    omega

/-- For every non-empty byte string, its encoding with white space inserted anywhere is decoded
to it. Every text is rejected whose length without white space is not a multiple of four, that
has padding elsewhere than in the last one or two positions, or that has a foreign character. -/
theorem decodeBase64_inverts_encode :
    (∀ raw bytes, bytes ≠ [] → withoutWhitespace raw = encode bytes →
      decodeBase64 raw = some bytes) ∧
      ∀ raw, (withoutWhitespace raw).length % 4 ≠ 0 ∨ PaddingMisplaced (withoutWhitespace raw) ∨
        HasForeignCharacter (withoutWhitespace raw) → decodeBase64 raw = none := by
  constructor
  · intro raw bytes nonempty encodes
    have filled : encode bytes ≠ [] := by
      fun_cases encode bytes <;> simp_all
    rw [decodeBase64, encodes, if_neg (by simp [filled, length_encode]), decodeChunks_encode]
  · intro raw malformed
    rw [Option.eq_none_iff_forall_ne_some]
    intro output accepted
    obtain ⟨whole, count, countLe, padded⟩ := decodeBase64_accepts accepted
    rcases malformed with ragged | misplaced | foreign
    · exact ragged whole
    · exact padded.not_misplaced countLe misplaced
    · exact padded.no_foreign foreign

/-- The five bytes of `crypt` over two lines. -/
def wrappedText : Bytes :=
  "Y3J5\n cHQ=\n".toList.map fun character => UInt8.ofNat character.toNat

theorem decodeBase64_inverts_encode_wrapped :
    decodeBase64 wrappedText = some [0x63, 0x72, 0x79, 0x70, 0x74] ∧
      decodeBase64 (wrappedText ++ [padding]) = none :=
  ⟨decodeBase64_inverts_encode.1 wrappedText [0x63, 0x72, 0x79, 0x70, 0x74] (by decide)
      (by decide +kernel),
    decodeBase64_inverts_encode.2 (wrappedText ++ [padding]) (.inl (by decide +kernel))⟩

end FuboxApi.Base64Text
