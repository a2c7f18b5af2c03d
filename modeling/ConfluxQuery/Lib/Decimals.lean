import ConfluxQuery.Lib.Numerals
import Mathlib

/-!
# Decimal fractions

Numerals with a sign and a fraction as they are read, and rounding to the nearest whole number with
ties to the even one.
-/

namespace Numeral

/-- The digits after the point. -/
def fraction (text : List Char) : List Char := (text.dropWhile (· != '.')).drop 1

/-- The number that digits with at most one point stand for. -/
def unsigned? (text : List Char) : Option ℚ :=
  match text.dropWhile (· != '.') with
  | [] => (digits? text).map fun whole => (whole : ℚ)
  | _ :: places => do
    let whole ← digits? (text.takeWhile (· != '.'))
    let part ← digits? places
    pure (whole + part / 10 ^ places.length)

/-- The number a decimal numeral stands for. -/
def decimal? : List Char → Option ℚ
  | '-' :: rest => (unsigned? rest).map fun value => -value
  | text => unsigned? text

/-- A numeral of a whole part and the digits of a fraction, without a point when there are none. -/
def joined (whole places : List Char) : List Char :=
  if places.isEmpty then whole else whole ++ '.' :: places

/-- Digits have no point. -/
theorem not_point {digit : Char} (isDigit : digit.isDigit = true) : (digit != '.') = true := by
  rw [bne_iff_ne]
  rintro rfl
  exact absurd isDigit (by decide)

theorem takeWhile_joined {whole : List Char} (digits : ∀ digit ∈ whole, digit.isDigit = true)
    (places : List Char) : (whole ++ '.' :: places).takeWhile (· != '.') = whole ∧
      (whole ++ '.' :: places).dropWhile (· != '.') = '.' :: places := by
  have plain : ∀ digit ∈ whole, (digit != '.') = true := fun digit member =>
    not_point (digits digit member)
  constructor
  · rw [List.takeWhile_append_of_pos plain]
    simp
  · rw [List.dropWhile_append_of_pos plain]
    simp

/-- A numeral without a point. -/
theorem dropWhile_digits {whole : List Char} (digits : ∀ digit ∈ whole, digit.isDigit = true) :
    whole.dropWhile (· != '.') = [] := by
  rw [← List.append_nil whole, List.dropWhile_append_of_pos fun digit member =>
    not_point (digits digit member)]
  rfl

theorem fraction_joined {whole : List Char} (digits : ∀ digit ∈ whole, digit.isDigit = true)
    (places : List Char) : fraction (joined whole places) = places := by
  unfold fraction joined
  split
  · next none =>
    rw [dropWhile_digits digits, List.isEmpty_iff.mp none]
    rfl
  · rw [(takeWhile_joined digits places).2]
    rfl

/-- Digits of both parts stand for the number that all digits stand for, shifted. -/
theorem unsigned?_joined {whole places : List Char} (present : whole ≠ [])
    (digits : ∀ digit ∈ whole ++ places, digit.isDigit = true) :
    unsigned? (joined whole places) =
      some ((Nat.ofDigitChars 10 (whole ++ places) 0 : ℚ) / 10 ^ places.length) := by
  have wholeDigits : ∀ digit ∈ whole, digit.isDigit = true := fun digit member =>
    digits digit (List.mem_append_left _ member)
  have read : digits? whole = some (Nat.ofDigitChars 10 whole 0) := by
    rw [digits?, List.all_eq_true.mpr wholeDigits, List.isEmpty_eq_false_iff.mpr present]
    rfl
  unfold joined
  split
  · next none =>
    obtain rfl := List.isEmpty_iff.mp none
    rw [unsigned?, dropWhile_digits wholeDigits, List.append_nil]
    simp [read]
  · next some =>
    obtain ⟨before, after⟩ := takeWhile_joined wholeDigits places
    have readPlaces : digits? places = Option.some (Nat.ofDigitChars 10 places 0) := by
      rw [digits?, List.all_eq_true.mpr fun digit member =>
        digits digit (List.mem_append_right _ member), Bool.eq_false_iff.mpr some]
      rfl
    rw [unsigned?, before, after]
    simp only [read, readPlaces, Option.bind_eq_bind, Option.bind_some, Option.pure_def]
    have shifted : Nat.ofDigitChars 10 places (Nat.ofDigitChars 10 whole 0) =
        10 ^ places.length * Nat.ofDigitChars 10 whole 0 + Nat.ofDigitChars 10 places 0 :=
      Nat.ofDigitChars_eq_ofDigitChars_zero
    rw [Nat.ofDigitChars_append, shifted]
    push_cast
    field_simp

/-- A text that does not begin with a sign is read as an unsigned number. -/
theorem decimal?_unsigned {text : List Char} (plain : text.head? ≠ some '-') :
    decimal? text = unsigned? text := by
  unfold decimal?
  split
  · next rest => exact absurd rfl plain
  · rfl

/-- A whole number nearest to a number, and the even one of two that are. -/
structure NearestEven (number : ℚ) (whole : ℤ) : Prop where
  /-- No whole number is nearer. -/
  near : |number - whole| ≤ 1 / 2
  /-- A tie goes to the even number. -/
  even : |number - whole| = 1 / 2 → Even whole

/-- Rounding treats both signs alike. -/
theorem NearestEven.neg {number : ℚ} {whole : ℤ} (nearest : NearestEven number whole) :
    NearestEven (-number) (-whole) := by
  have distance : |(-number) - ((-whole : ℤ) : ℚ)| = |number - whole| := by
    rw [← abs_neg]
    congr 1
    push_cast
    ring
  exact ⟨distance ▸ nearest.near, fun tie => (nearest.even (distance ▸ tie)).neg⟩

theorem cast_eq_signed (value : ℤ) :
    (value : ℚ) = if value < 0 then -(value.natAbs : ℚ) else (value.natAbs : ℚ) := by
  rw [Nat.cast_natAbs]
  split
  · next negative => rw [abs_of_neg negative, Int.cast_neg, neg_neg]
  · next positive => rw [abs_of_nonneg (Int.not_lt.mp positive)]

/-- A quotient is rounded up when more than half is left, or half and the quotient is odd. -/
def roundQuotient (number factor : Nat) : Nat :=
  if factor < 2 * (number % factor) ∨ factor = 2 * (number % factor) ∧ number / factor % 2 = 1 then
    number / factor + 1
  else
    number / factor

theorem nearestEven_roundQuotient {number factor : Nat} (positive : 0 < factor) :
    NearestEven ((number : ℚ) / factor) (roundQuotient number factor) := by
  have factorPos : (0 : ℚ) < factor := by exact_mod_cast positive
  have left : number % factor < factor := Nat.mod_lt number positive
  have split : number = factor * (number / factor) + number % factor :=
    (Nat.div_add_mod number factor).symm
  unfold roundQuotient
  generalize number / factor = quotient at split ⊢
  generalize number % factor = rest at split left ⊢
  have value : (number : ℚ) / factor = quotient + rest / factor := by
    rw [split]
    push_cast
    field_simp
  have part : (rest : ℚ) / factor * factor = rest := div_mul_cancel₀ _ factorPos.ne'
  rw [value]
  -- What matters from here on is the part of the factor that is left.
  generalize (rest : ℚ) / factor = ratio at part ⊢
  have tied : ratio = 1 / 2 → factor = 2 * rest := by
    rintro rfl
    have : (factor : ℚ) = 2 * rest := by linarith
    exact_mod_cast this
  split
  · next up =>
    have more : (factor : ℚ) ≤ 2 * rest := by
      have : factor ≤ 2 * rest := by omega
      exact_mod_cast this
    have half : 1 / 2 ≤ ratio := by nlinarith
    have below : ratio ≤ 1 := by
      have : (rest : ℚ) < factor := by exact_mod_cast left
      nlinarith
    have distance : |(quotient : ℚ) + ratio - ((quotient + 1 : ℕ) : ℤ)| = 1 - ratio := by
      rw [abs_sub_comm, abs_of_nonneg] <;> push_cast <;> linarith
    refine ⟨by rw [distance]; linarith, fun tie => Int.even_iff.mpr ?_⟩
    rw [distance] at tie
    have exact := tied (by linarith)
    omega
  · next down =>
    have less : (2 : ℚ) * rest ≤ factor := by
      have : 2 * rest ≤ factor := by omega
      exact_mod_cast this
    have half : ratio ≤ 1 / 2 := by nlinarith
    have least : 0 ≤ ratio := by
      have : (0 : ℚ) ≤ rest := Nat.cast_nonneg rest
      nlinarith
    have distance : |(quotient : ℚ) + ratio - ((quotient : ℕ) : ℤ)| = ratio := by
      rw [abs_of_nonneg] <;> push_cast <;> linarith
    refine ⟨by rw [distance]; exact half, fun tie => Int.even_iff.mpr ?_⟩
    rw [distance] at tie
    have exact := tied tie
    omega

end Numeral
