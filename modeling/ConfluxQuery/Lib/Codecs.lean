import Mathlib

/-!
# Base64 and hexadecimal numbers

Base64, of which only this is assumed, that what is encoded is decoded. A number of 64 bits in
hexadecimal, as it is printed without leading zeros, and as it is read back with an optional sign
and an overflow check at every digit; what is printed is read back.
-/

/-- Base64url without padding: texts of byte strings that are read back. -/
structure Base64 (Bytes Text : Type) where
  encode : Bytes → Text
  decode : Text → Option Bytes
  /-- What is encoded is decoded. -/
  decode_encode : ∀ bytes, decode (encode bytes) = some bytes

namespace Hexadecimal

/-- The value of a digit. -/
def digit (character : Char) : Option Nat :=
  if '0' ≤ character ∧ character ≤ '9' then some (character.toNat - '0'.toNat)
  else if 'a' ≤ character ∧ character ≤ 'f' then some (character.toNat - 'a'.toNat + 10)
  else if 'A' ≤ character ∧ character ≤ 'F' then some (character.toNat - 'A'.toNat + 10)
  else none

/-- Read one more digit, unless the number gets too large. -/
def push (number : Nat) (character : Char) : Option Nat :=
  (digit character).bind fun digit =>
    if number * 16 + digit < 2 ^ 64 then some (number * 16 + digit) else none

/-- Read a number of 64 bits, with an optional sign. -/
def read (text : List Char) : Option (BitVec 64) :=
  let digits := match text with
    | '+' :: rest => rest
    | text => text
  if digits.isEmpty then none else (digits.foldlM push 0).map (BitVec.ofNat 64)

/-- Print a number without leading zeros. -/
def print (number : BitVec 64) : List Char := Nat.toDigits 16 number.toNat

theorem digit_digitChar {number : Nat} (small : number < 16) :
    digit (Nat.digitChar number) = some number := by
  interval_cases number <;> rfl

/-- Printed digits are read back. -/
theorem foldlM_toDigits {number : Nat} (small : number < 2 ^ 64) :
    (Nat.toDigits 16 number).foldlM push 0 = some number := by
  induction number using Nat.strong_induction_on with
  | _ number step =>
    by_cases single : number < 16
    · rw [Nat.toDigits_of_lt_base single]
      simpa [push, digit_digitChar single] using small
    · have last := Nat.mod_lt number (show 16 > 0 by decide)
      rw [Nat.toDigits_of_base_le (by decide) (by omega), List.foldlM_append,
        step (number / 16) (by omega) (by omega)]
      simp only [Option.bind_eq_bind, Option.bind_some, List.foldlM_cons, List.foldlM_nil, push,
        digit_digitChar last]
      rw [if_pos (by omega)]
      simp only [Option.bind_some, Option.pure_def, Option.some.injEq]
      omega

/-- Only digits can be read. -/
theorem digit_of_foldlM {text : List Char} {start number : Nat}
    (reads : text.foldlM push start = some number) {character : Char} (member : character ∈ text) :
    (digit character).isSome = true := by
  induction text generalizing start with
  | nil => cases member
  | cons head rest step =>
    rw [List.foldlM_cons, Option.bind_eq_bind, Option.bind_eq_some_iff] at reads
    obtain ⟨next, pushed, reads⟩ := reads
    rcases List.mem_cons.mp member with rfl | later
    · obtain ⟨value, known, -⟩ := Option.bind_eq_some_iff.mp pushed
      simp [known]
    · exact step reads later

/-- What is printed has digits only. -/
theorem digit_of_mem_print {number : BitVec 64} {character : Char}
    (member : character ∈ print number) : (digit character).isSome = true :=
  digit_of_foldlM (foldlM_toDigits number.isLt) member

theorem read_unsigned {text : List Char} (unsigned : '+' ∉ text) (some : text ≠ []) :
    read text = (text.foldlM push 0).map (BitVec.ofNat 64) := by
  unfold read
  split
  · next rest => exact absurd List.mem_cons_self unsigned
  · exact if_neg (by simpa using some)

/-- A printed number is read back. -/
theorem read_print (number : BitVec 64) : read (print number) = some number := by
  have unsigned : '+' ∉ print number := by
    intro member
    have impossible := digit_of_mem_print member
    revert impossible
    decide
  rw [read_unsigned unsigned Nat.toDigits_ne_nil, print, foldlM_toDigits number.isLt]
  simp

end Hexadecimal
