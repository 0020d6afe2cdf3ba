import Mathlib

/-!
# Identifiers

A `Uuid` is a 128-bit number, printed in the hyphenated lower-case form inside idempotency keys, and
counted up in the in-memory writer.
-/

namespace FuboxApi

@[ext]
structure Uuid where
  asU128 : Nat
  asU128_lt : asU128 < 2 ^ 128
deriving DecidableEq

namespace Uuid

/-- The identifier with the given number, if the number has 128 bits. -/
def fromU128 (number : Nat) : Option Uuid :=
  if fits : number < 2 ^ 128 then some ⟨number, fits⟩ else none

def nil : Uuid :=
  ⟨0, by decide⟩

@[simp]
theorem fromU128_eq_some_iff {number : Nat} {uuid : Uuid} :
    fromU128 number = some uuid ↔ uuid.asU128 = number := by
  unfold fromU128
  split
  · next fits =>
    simp only [Option.some.injEq, Uuid.ext_iff]
    exact eq_comm
  · next large =>
    simp only [reduceCtorEq, false_iff]
    intro numberEq
    exact large (numberEq ▸ uuid.asU128_lt)

/-- The lowest `count` hexadecimal digits of a number, most significant
first. -/
def hexDigits (number : Nat) : Nat → List Char
  | 0 => []
  | count + 1 =>
    hexDigits (number / 16) count ++ [Nat.digitChar (number % 16)]

/-- The text `8-4-4-4-12` of an identifier. -/
def toText (uuid : Uuid) : String :=
  let digits := hexDigits uuid.asU128 32
  String.ofList (digits.take 8 ++ '-' :: (digits.drop 8).take 4 ++
      '-' :: (digits.drop 12).take 4 ++ '-' :: (digits.drop 16).take 4 ++ '-' :: digits.drop 20)

end Uuid

end FuboxApi
