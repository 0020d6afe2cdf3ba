import FuboxApi.CheckedFold
import FuboxApi.DecimalText

/-!
# Text functions of the Rust standard library

Lossy UTF-8 decoding replaces every maximal invalid sequence by one U+FFFD. Trimming removes the
characters with the Unicode property `White_Space`.
-/

/-- A buffer, as the list of its bytes. -/
abbrev Bytes :=
  List UInt8

namespace RustText

open DecimalText

/-- The character that stands for an invalid sequence. -/
def replacement : Char :=
  Char.ofNat 0xFFFD

def isContinuation (byte : UInt8) : Bool :=
  0x80 ≤ byte && byte ≤ 0xBF

/-- Whether a second byte continues the lead byte of a three-byte sequence:
no overlong forms and no surrogates. -/
def secondOfThree (lead second : UInt8) : Bool :=
  if lead = 0xE0 then 0xA0 ≤ second && second ≤ 0xBF
  else if lead = 0xED then 0x80 ≤ second && second ≤ 0x9F
  else isContinuation second

/-- Whether a second byte continues the lead byte of a four-byte sequence:
no overlong forms and nothing above U+10FFFF. -/
def secondOfFour (lead second : UInt8) : Bool :=
  if lead = 0xF0 then 0x90 ≤ second && second ≤ 0xBF
  else if lead = 0xF4 then 0x80 ≤ second && second ≤ 0x8F
  else isContinuation second

/-- Reads the missing bytes of a sequence. The first byte that does not fit
ends the sequence and is not part of it. -/
def readContinuations (accepts : UInt8 → Bool) : (missing code : Nat) → Bytes → Char × Bytes
  | 0, code, rest => (Char.ofNat code, rest)
  | _ + 1, _, [] => (replacement, [])
  | missing + 1, code, byte :: rest =>
    if accepts byte then
      readContinuations isContinuation missing (code * 0x40 + (byte &&& 0x3F).toNat) rest
    else (replacement, byte :: rest)

/-- The first character of a byte sequence and the bytes after it. -/
def nextChar (lead : UInt8) (rest : Bytes) : Char × Bytes :=
  if lead < 0x80 then (Char.ofNat lead.toNat, rest)
  else if 0xC2 ≤ lead && lead ≤ 0xDF then
    readContinuations isContinuation 1 (lead &&& 0x1F).toNat rest
  else if 0xE0 ≤ lead && lead ≤ 0xEF then
    readContinuations (secondOfThree lead) 2 (lead &&& 0x0F).toNat rest
  else if 0xF0 ≤ lead && lead ≤ 0xF4 then
    readContinuations (secondOfFour lead) 3 (lead &&& 0x07).toNat rest
  else (replacement, rest)

theorem length_readContinuations_le (accepts : UInt8 → Bool) (missing code : Nat)
    (rest : Bytes) : (readContinuations accepts missing code rest).2.length ≤ rest.length := by
  induction rest generalizing accepts missing code with
  | nil => cases missing <;> simp [readContinuations]
  | cons byte rest ih =>
    cases missing with
    | zero => simp [readContinuations]
    | succ missing =>
      unfold readContinuations
      split
      · exact Nat.le_succ_of_le (ih _ _ _)
      · exact Nat.le_refl _

theorem length_nextChar_le (lead : UInt8) (rest : Bytes) :
    (nextChar lead rest).2.length ≤ rest.length := by
  unfold nextChar
  repeat' split
  all_goals first | exact Nat.le_refl _ | exact length_readContinuations_le _ _ _ _

/-- The text of a byte sequence. -/
def fromUtf8Lossy : Bytes → List Char
  | [] => []
  | lead :: rest =>
    (nextChar lead rest).1 :: fromUtf8Lossy (nextChar lead rest).2
termination_by bytes => bytes.length
decreasing_by
  have lengthLe := length_nextChar_le lead rest
  simp only [List.length_cons]
  omega

/-- The Unicode property `White_Space`. -/
def isWhitespace (char : Char) : Bool :=
  let code := char.toNat
  (0x09 ≤ code && code ≤ 0x0D) || code == 0x20 || code == 0x85 || code == 0xA0 ||
    code == 0x1680 || (0x2000 ≤ code && code ≤ 0x200A) || code == 0x2028 ||
    code == 0x2029 || code == 0x202F || code == 0x205F || code == 0x3000

def trim (text : List Char) : List Char :=
  (text.dropWhile isWhitespace).rdropWhile isWhitespace

/-- `str::parse` for the signed integers with this many bits beside the sign. -/
def parseSigned (bits : Nat) (text : List Char) : Option Int :=
  let (negative, digits) : Bool × List Char :=
    match text with
    | '-' :: digits => (true, digits)
    | '+' :: digits => (false, digits)
    | digits => (false, digits)
  if digits.isEmpty || !digits.all Char.isDigit then none
  else
    let value : Int := if negative then -value digits else value digits
    if -2 ^ bits ≤ value ∧ value < 2 ^ bits then some value else none

def parseI64 (text : List Char) : Option Int :=
  parseSigned 63 text

def parseI128 (text : List Char) : Option Int :=
  parseSigned 127 text

/-- `str::parse` for the unsigned integers with this many bits. -/
def parseUnsigned (bits : Nat) (text : List Char) : Option Nat :=
  let digits := match text with
    | '+' :: digits => digits
    | digits => digits
  if digits.isEmpty || !digits.all Char.isDigit then none
  else if value digits < 2 ^ bits then some (value digits)
  else none

/-- The texts before and behind the first separator. -/
def splitOnce (separator : Char) : List Char → Option (List Char × List Char)
  | [] => none
  | char :: rest =>
    if char = separator then some ([], rest)
    else (splitOnce separator rest).map fun split => (char :: split.1, split.2)

def eqIgnoreAsciiCase (left right : String) : Bool :=
  left.toList.map Char.toLower = right.toList.map Char.toLower

variable {bits : Nat} {digits text front back : List Char} {number : Int} {char separator : Char}

theorem splitOnce_eq_none_iff : splitOnce separator text = none ↔ separator ∉ text := by
  induction text with
  | nil => simp [splitOnce]
  | cons char rest ih =>
    by_cases same : char = separator
    · simp [splitOnce, same]
    · simp [splitOnce, same, ih, Ne.symm same]

theorem splitOnce_eq_some_iff : splitOnce separator text = some (front, back) ↔
    separator ∉ front ∧ text = front ++ separator :: back := by
  induction text generalizing front with
  | nil => simp [splitOnce]
  | cons char rest ih =>
    by_cases same : char = separator
    · cases front with
      | nil => simp [splitOnce, same]
      | cons first others => simp +contextual [splitOnce, same]
    · cases front with
      | nil => simp [splitOnce, same]
      | cons first others =>
        simp only [splitOnce, same, if_false, Option.map_eq_some_iff, Prod.exists,
          Prod.mk.injEq, List.cons.injEq, List.mem_cons, not_or, List.cons_append]
        grind

section

variable (nonempty : digits ≠ []) (isDigits : ∀ digit ∈ digits, digit.isDigit = true)

include nonempty isDigits

theorem parseSigned_digits : parseSigned bits digits =
      if value digits < 2 ^ bits then some (value digits : Int)
      else none := by
  obtain ⟨first, rest, rfl⟩ := List.exists_cons_of_ne_nil nonempty
  have firstDigit := isDigits first (by simp)
  have notMinus : first ≠ '-' := by
    rintro rfl
    revert firstDigit
    decide
  have notPlus : first ≠ '+' := by
    rintro rfl
    revert firstDigit
    decide
  have allDigits : (first :: rest).all Char.isDigit = true := List.all_eq_true.mpr isDigits
  have bounds : (-2 ^ bits ≤ (value (first :: rest) : Int) ∧
      (value (first :: rest) : Int) < 2 ^ bits) ↔ value (first :: rest) < 2 ^ bits := by
    constructor
    · rintro ⟨_, below⟩
      exact_mod_cast below
    · intro below
      have : (value (first :: rest) : Int) < 2 ^ bits := by exact_mod_cast below
      omega
  unfold parseSigned
  split
  next negative digits split =>
    split at split
    · next heq => exact absurd (List.cons.inj heq).1 notMinus
    · next heq => exact absurd (List.cons.inj heq).1 notPlus
    · cases split
      simp [allDigits, bounds]

theorem parseI128_digits (small : value digits < 2 ^ 127) :
    parseI128 digits = some (value digits : Int) := by
  rw [parseI128, parseSigned_digits nonempty isDigits, if_pos small]

theorem parseI128_eq_some (parsed : parseI128 digits = some number) : number = value digits := by
  rw [parseI128, parseSigned_digits nonempty isDigits] at parsed
  split at parsed
  · exact (Option.some.inj parsed).symm
  · cases parsed

omit nonempty in
theorem parseI128_or_zero_eq_ok {ε : Type*} {failure : ε}
    (parsed : (if digits.isEmpty = true then .ok 0
      else CheckedFold.okOr failure (parseI128 digits)) = .ok number) :
    number = value digits := by
  split at parsed
  · next empty =>
    rw [List.isEmpty_iff.mp empty, ← Except.ok.inj parsed]
    rfl
  · next nonempty =>
    exact parseI128_eq_some (by simpa using nonempty) isDigits (CheckedFold.okOr_eq_ok.mp parsed)

end

theorem isWhitespace_of_isDigit (isDigit : char.isDigit = true) : isWhitespace char = false := by
  have bounds := toNat_of_isDigit isDigit
  simp [isWhitespace]
  omega

theorem trim_eq_self (solid : ∀ char ∈ text, isWhitespace char = false) : trim text = text := by
  have kept : text.dropWhile isWhitespace = text := by
    cases text with
    | nil => rfl
    | cons first rest => simp [solid first (by simp)]
  rw [trim, kept, List.rdropWhile_eq_self_iff]
  intro nonempty
  simp [solid _ (List.getLast_mem nonempty)]

/-- The ASCII white space of a byte: space, tab, line feed, form feed and
carriage return. -/
def isAsciiWhitespace (byte : UInt8) : Bool :=
  byte == 0x20 || byte == 0x09 || byte == 0x0A || byte == 0x0C || byte == 0x0D

example : fromUtf8Lossy [0x61, 0xE2, 0x82, 0x62, 0xC3, 0xA9] = ['a', replacement, 'b', 'é'] := by
  decide +kernel

example : trim [' ', 'a', ' ', 'b', Char.ofNat 0x3000] = ['a', ' ', 'b'] := by
  decide +kernel

end RustText
