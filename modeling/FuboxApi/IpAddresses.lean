import FuboxApi.DecimalText

/-!
# IP addresses

Addresses and their text readers as the Rust standard library has them. Address blocks are given by
a network number and a length.
-/

namespace IpAddresses

open DecimalText

structure Ipv4Addr where
  first : UInt8
  second : UInt8
  third : UInt8
  fourth : UInt8
deriving DecidableEq

/-- An address with its eight segments. -/
structure Ipv6Addr where
  first : UInt16
  second : UInt16
  third : UInt16
  fourth : UInt16
  fifth : UInt16
  sixth : UInt16
  seventh : UInt16
  eighth : UInt16
deriving DecidableEq

inductive IpAddr where
  | v4 (address : Ipv4Addr)
  | v6 (address : Ipv6Addr)
deriving DecidableEq

/-! ## Numbers of addresses -/

namespace Ipv4Addr

def toNat (address : Ipv4Addr) : Nat :=
  ((address.first.toNat * 2 ^ 8 + address.second.toNat) * 2 ^ 8 + address.third.toNat) * 2 ^ 8 +
    address.fourth.toNat

end Ipv4Addr

namespace Ipv6Addr

def toNat (address : Ipv6Addr) : Nat :=
  address.first.toNat * 2 ^ 112 + address.second.toNat * 2 ^ 96 +
    address.third.toNat * 2 ^ 80 + address.fourth.toNat * 2 ^ 64 +
    address.fifth.toNat * 2 ^ 48 + address.sixth.toNat * 2 ^ 32 +
    address.seventh.toNat * 2 ^ 16 + address.eighth.toNat

/-- The segments that were read before and behind the double colon. -/
def ofGroups (head tail : List UInt16) : Ipv6Addr :=
  let segment (index : Nat) : UInt16 :=
    if index < head.length then head.getD index 0
    else if 8 - tail.length ≤ index then tail.getD (index - (8 - tail.length)) 0
    else 0
  ⟨segment 0, segment 1, segment 2, segment 3, segment 4, segment 5, segment 6, segment 7⟩

end Ipv6Addr

/-! ## Blocks of addresses -/

/-- The addresses of a width in bits that begin with as many bits of a network
as the length says. -/
def InBlock (width : Nat) (block : Nat × Nat) (address : Nat) : Prop :=
  address / 2 ^ (width - block.2) = block.1 / 2 ^ (width - block.2)

theorem land_highMask {value width low : Nat} (small : value < 2 ^ (low + width)) :
    value &&& (2 ^ width - 1) * 2 ^ low = value / 2 ^ low * 2 ^ low := by
  apply Nat.eq_of_testBit_eq
  intro index
  rw [Nat.testBit_and, ← Nat.shiftLeft_eq, ← Nat.shiftLeft_eq, Nat.testBit_shiftLeft,
    Nat.testBit_shiftLeft, ← Nat.shiftRight_eq_div_pow, Nat.testBit_shiftRight,
    Nat.testBit_two_pow_sub_one]
  rcases Nat.lt_or_ge index low with below | above
  · simp [Nat.not_le.mpr below]
  · rw [Nat.add_sub_cancel' above]
    rcases Nat.lt_or_ge index (low + width) with inside | beyond
    · have inMask : index - low < width := by omega
      simp [above, inMask]
    · have unset : value.testBit index = false :=
        Nat.testBit_lt_two_pow (small.trans_le (Nat.pow_le_pow_right (by decide) beyond))
      simp [unset]

/-! ## Reading addresses -/

def toDigit (radix : Nat) (char : Char) : Option Nat :=
  let digit :=
    if char.isDigit then some (char.toNat - '0'.toNat)
    else if 'a' ≤ char ∧ char ≤ 'z' then some (char.toNat - 'a'.toNat + 10)
    else if 'A' ≤ char ∧ char ≤ 'Z' then some (char.toNat - 'A'.toNat + 10)
    else none
  digit.filter (· < radix)

def readGivenChar (target : Char) : List Char → Option (List Char)
  | [] => none
  | char :: rest => if char = target then some rest else none

/-- All digits at the front, if they are not too many and the number is below
the bound of its type. -/
def readNumber (radix maxDigits bound : Nat) (allowZeroPrefix : Bool) (state : List Char) :
    Option (Nat × List Char) :=
  let digits := state.takeWhile fun char => (toDigit radix char).isSome
  let result := digits.foldl (fun number char => number * radix + (toDigit radix char).getD 0) 0
  if digits.length = 0 ∨ maxDigits < digits.length ∨ bound ≤ result then none
  else if allowZeroPrefix = false ∧ state.head? = some '0' ∧ 1 < digits.length then none
  else some (result, state.dropWhile fun char => (toDigit radix char).isSome)

/-- A reader behind a separator, which is left out before the first item. -/
def readSeparator {α : Type} (separator : Char) (index : Nat)
    (inner : List Char → Option (α × List Char)) (state : List Char) : Option (α × List Char) :=
  if 0 < index then (readGivenChar separator state).bind inner else inner state

def readOctet (index : Nat) (state : List Char) : Option (UInt8 × List Char) :=
  (readSeparator '.' index (readNumber 10 3 256 false) state).map fun read =>
    (UInt8.ofNat read.1, read.2)

def readIpv4Addr (state : List Char) : Option (Ipv4Addr × List Char) := do
  let (first, state) ← readOctet 0 state
  let (second, state) ← readOctet 1 state
  let (third, state) ← readOctet 2 state
  let (fourth, state) ← readOctet 3 state
  return (⟨first, second, third, fourth⟩, state)

/-- The groups that can be read, whether the last two came from an IPv4 address,
and the rest of the text. -/
def readGroups : (remaining index : Nat) → List Char → List UInt16 × Bool × List Char
  | 0, _, state => ([], false, state)
  | remaining + 1, index, state =>
    match (if 0 < remaining then readSeparator ':' index readIpv4Addr state else none) with
    | some (address, state) =>
      ([address.first.toUInt16 <<< 8 ||| address.second.toUInt16,
        address.third.toUInt16 <<< 8 ||| address.fourth.toUInt16], true, state)
    | none =>
      match readSeparator ':' index (readNumber 16 4 (2 ^ 16) true) state with
      | some (group, state) =>
        let (groups, ipv4, state) := readGroups remaining (index + 1) state
        (UInt16.ofNat group :: groups, ipv4, state)
      | none => ([], false, state)

def readIpv6Addr (state : List Char) : Option (Ipv6Addr × List Char) :=
  let (head, headIpv4, state) := readGroups 8 0 state
  if head.length = 8 then some (Ipv6Addr.ofGroups head [], state)
  else if headIpv4 then none
  else do
    let state ← readGivenChar ':' state
    let state ← readGivenChar ':' state
    let (tail, _, state) := readGroups (8 - (head.length + 1)) 0 state
    return (Ipv6Addr.ofGroups head tail, state)

def readIpAddr (state : List Char) : Option (IpAddr × List Char) :=
  ((readIpv4Addr state).map fun read => (IpAddr.v4 read.1, read.2)).or
    ((readIpv6Addr state).map fun read => (IpAddr.v6 read.1, read.2))

/-- `str::parse` for addresses: the whole text is read. -/
def parseIpAddr (text : List Char) : Option IpAddr :=
  (readIpAddr text).bind fun read => if read.2 = [] then some read.1 else none

example : parseIpAddr "::ffff:127.0.0.1".toList =
    some (.v6 ⟨0, 0, 0, 0, 0, 0xFFFF, 0x7F00, 1⟩) := by
  decide +kernel

example : parseIpAddr "2001:db8::a:1".toList = some (.v6 ⟨0x2001, 0xDB8, 0, 0, 0, 0, 0xA, 1⟩) := by
  decide +kernel

example : parseIpAddr "127.0.00.1".toList = none := by
  decide +kernel

theorem parseIpAddr_nil : parseIpAddr [] = none := by
  decide +kernel

/-! ## Octets -/

def Ipv4Addr.octets (address : Ipv4Addr) : List UInt8 :=
  [address.first, address.second, address.third, address.fourth]

def Ipv6Addr.octets (address : Ipv6Addr) : List UInt8 :=
  [address.first, address.second, address.third, address.fourth, address.fifth, address.sixth,
    address.seventh, address.eighth].flatMap fun segment : UInt16 =>
      [(segment >>> 8).toUInt8, segment.toUInt8]

/-- The number of a byte string, with the most significant byte first. -/
def ofBytes : List UInt8 → Nat
  | [] => 0
  | byte :: rest => byte.toNat * 2 ^ (8 * rest.length) + ofBytes rest

theorem ofBytes_lt (bytes : List UInt8) : ofBytes bytes < 2 ^ (8 * bytes.length) := by
  induction bytes with
  | nil => simp [ofBytes]
  | cons byte rest ih =>
    have room : (byte.toNat + 1) * 2 ^ (8 * rest.length) ≤ 2 ^ 8 * 2 ^ (8 * rest.length) :=
      Nat.mul_le_mul_right _ byte.toNat_lt
    rw [ofBytes, List.length_cons, Nat.mul_succ, pow_add, Nat.mul_comm _ (2 ^ 8)]
    rw [Nat.succ_mul] at room
    omega

theorem Ipv4Addr.ofBytes_octets (address : Ipv4Addr) : ofBytes address.octets = address.toNat := by
  simp only [octets, ofBytes, toNat, List.length_cons, List.length_nil]
  omega

theorem Ipv6Addr.ofBytes_octets (address : Ipv6Addr) : ofBytes address.octets = address.toNat := by
  have halves (segment : UInt16) : (segment >>> 8).toUInt8.toNat * 2 ^ 8 + segment.toUInt8.toNat =
      segment.toNat := by
    have below := segment.toNat_lt
    rw [UInt16.toNat_toUInt8, UInt16.toNat_toUInt8, UInt16.toNat_shiftRight]
    simp only [UInt16.reduceToNat, Nat.shiftRight_eq_div_pow, Nat.reduceMod, Nat.reducePow]
    omega
  simp only [octets, List.flatMap_cons, List.flatMap_nil, List.cons_append, List.nil_append,
    ofBytes, List.length_cons, List.length_nil]
  rw [toNat, ← halves address.first, ← halves address.second, ← halves address.third,
    ← halves address.fourth, ← halves address.fifth, ← halves address.sixth,
    ← halves address.seventh, ← halves address.eighth]
  omega

end IpAddresses
