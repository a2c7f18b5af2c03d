import Mathlib

/-!
# Decimal numerals

Whole numbers in decimal, as they are printed without leading zeros, and as they are read back
within bounds with an optional sign.
-/

namespace Numeral

/-- The number that decimal digits stand for; there has to be one at least. -/
def digits? (text : List Char) : Option Nat :=
  if text.isEmpty || !text.all Char.isDigit then none else some (Nat.ofDigitChars 10 text 0)

/-- Read an unsigned number below a bound, after a plus sign or nothing. -/
def parseUnsigned (bound : Nat) (text : List Char) : Option Nat :=
  let digits := match text with
    | '+' :: rest => rest
    | digits => digits
  (digits? digits).filter (· < bound)

/-- Read a signed number between the negated bound and the bound, after a sign or nothing. -/
def parseSigned (bound : Nat) (text : List Char) : Option Int :=
  match text with
  | '-' :: rest => ((digits? rest).filter (· ≤ bound)).map fun value => -(value : Int)
  | digits => (parseUnsigned bound digits).map Int.ofNat

/-- An unsigned number in decimal. -/
def print (number : Nat) : List Char := Nat.toDigits 10 number

/-- A signed number in decimal. -/
def printSigned : Int → List Char
  | .ofNat number => print number
  | .negSucc number => '-' :: print (number + 1)

/-- What is printed is digits. -/
theorem isDigit_of_mem_print {number : Nat} {digit : Char} (member : digit ∈ print number) :
    digit.isDigit = true :=
  Nat.isDigit_of_mem_toDigits (by decide) (by decide) member

/-- Printed digits stand for the number. -/
theorem digits?_print (number : Nat) : digits? (print number) = some number := by
  have digits : (print number).all Char.isDigit = true :=
    List.all_eq_true.mpr fun _ member => isDigit_of_mem_print member
  have some : (print number).isEmpty = false :=
    List.isEmpty_eq_false_iff.mpr Nat.toDigits_ne_nil
  rw [digits?, digits, some]
  exact congrArg Option.some (Nat.ofDigitChars_toDigits (by decide) (by decide))

theorem print_ne_sign {number : Nat} {sign : Char} {rest : List Char}
    (other : sign.isDigit = false) : print number ≠ sign :: rest := by
  intro same
  have member : sign ∈ print number := by
    rw [same]
    exact List.mem_cons_self
  rw [isDigit_of_mem_print member] at other
  cases other

/-- An unsigned number is read back. -/
theorem parseUnsigned_print {bound number : Nat} (small : number < bound) :
    parseUnsigned bound (print number) = some number := by
  unfold parseUnsigned
  split
  · next rest same => exact absurd same (print_ne_sign rfl)
  · simp [digits?_print, Option.filter, small]

/-- A signed number is read back. -/
theorem parseSigned_print {bound : Nat} {number : Int} (least : -(bound : Int) ≤ number)
    (most : number < bound) : parseSigned bound (printSigned number) = some number := by
  cases number with
  | ofNat number =>
    unfold parseSigned printSigned
    split
    · next rest same => exact absurd same (print_ne_sign rfl)
    · rw [parseUnsigned_print (by simpa using most)]
      rfl
  | negSucc number =>
    have small : number + 1 ≤ bound := by omega
    simp [parseSigned, printSigned, digits?_print, Option.filter, small, Int.negSucc_eq]

end Numeral
