import ConfluxQuery.Lib.Decimals

/-!
# Decimals in the output

How a `Decimal128` value is written: exactly to JSON, and rounded to a number of places for display.
Scales below zero are taken for zero.
-/

namespace ConfluxQuery.Output

open Numeral

/-- The source's `exact_decimal`. -/
def exactDecimal (value scale : Int) : String :=
  let negative := decide (value < 0)
  let scale := scale.toNat
  let digits := print value.natAbs
  let padded := digits.leftpad (scale + 1) '0'
  let split := padded.length - scale
  let whole := padded.take split
  let fraction := padded.drop split
  let sign := if negative then ['-'] else []
  String.ofList (if fraction.isEmpty then sign ++ whole else sign ++ whole ++ '.' :: fraction)

/-- The source's `decimal`; no text stands for a panic. -/
def decimal (value scale : Int) (maximumPlaces : Nat) : Option String :=
  let negative := decide (value < 0)
  let scale := scale.toNat
  let shownScale := min scale maximumPlaces
  let removed := scale - shownScale
  let factor := 10 ^ removed
  -- The power panics where it leaves 128 bits.
  if 2 ^ 128 ≤ factor then none
  else
    let absolute := value.natAbs
    let rounded := absolute / factor
    let remainder := absolute % factor
    let half := factor / 2
    let rounded :=
      if 0 < removed ∧ (half < remainder ∨ remainder = half ∧ rounded % 2 = 1) then rounded + 1
      else rounded
    if 2 ^ 127 ≤ rounded then none
    else
      let signed : Int := if negative then -rounded else rounded
      if 127 < shownScale then none else some (exactDecimal signed shownScale)

section Exact

variable (value scale : Int)

/-- The digits of a value, padded to leave one before the point. -/
def paddedDigits : List Char := (print value.natAbs).leftpad (scale.toNat + 1) '0'

/-- Padding leaves digits. -/
theorem isDigit_of_mem_paddedDigits {value scale : Int} {digit : Char}
    (member : digit ∈ paddedDigits value scale) : digit.isDigit = true := by
  rw [paddedDigits, List.leftpad, List.mem_append] at member
  rcases member with zero | printed
  · rw [List.eq_of_mem_replicate zero]
    rfl
  · exact isDigit_of_mem_print printed

/-- Padding does not change the number. -/
theorem ofDigitChars_paddedDigits :
    Nat.ofDigitChars 10 (paddedDigits value scale) 0 = value.natAbs := by
  rw [paddedDigits, List.leftpad, Nat.ofDigitChars_append, Nat.ofDigitChars_replicate_zero]
  exact Nat.ofDigitChars_toDigits (by decide) (by decide)

/-- A digit stands before the point. -/
theorem lt_length_paddedDigits : scale.toNat < (paddedDigits value scale).length := by
  rw [paddedDigits, List.leftpad, List.length_append, List.length_replicate]
  omega

/-- The whole part of a written decimal. -/
def wholePart : List Char :=
  (paddedDigits value scale).take ((paddedDigits value scale).length - scale.toNat)

/-- The fraction of a written decimal. -/
def places : List Char :=
  (paddedDigits value scale).drop ((paddedDigits value scale).length - scale.toNat)

/-- A decimal is written as its sign, its whole part and its fraction. -/
theorem exactDecimal_toList : (exactDecimal value scale).toList =
    (if value < 0 then ['-'] else []) ++ joined (wholePart value scale) (places value scale) := by
  rw [exactDecimal, String.toList_ofList]
  simp only [decide_eq_true_eq]
  by_cases none : (places value scale).isEmpty = true
  · rw [joined, if_pos none]
    exact if_pos none
  · rw [joined, if_neg none, ← List.append_assoc]
    exact if_neg none

/-- Both parts are digits. -/
theorem isDigit_of_mem_parts {value scale : Int} {digit : Char}
    (member : digit ∈ wholePart value scale ++ places value scale) : digit.isDigit = true := by
  rw [wholePart, places, List.take_append_drop] at member
  exact isDigit_of_mem_paddedDigits member

/-- The whole part has a digit. -/
theorem wholePart_ne_nil : wholePart value scale ≠ [] := by
  have long := lt_length_paddedDigits value scale
  refine List.ne_nil_of_length_pos ?_
  rw [wholePart, List.length_take]
  omega

/-- The fraction has as many digits as the scale says. -/
theorem length_places : (places value scale).length = scale.toNat := by
  have long := lt_length_paddedDigits value scale
  rw [places, List.length_drop]
  omega

theorem head?_joined : (joined (wholePart value scale) (places value scale)).head? ≠ some '-' := by
  have headed : (joined (wholePart value scale) (places value scale)).head? =
      (wholePart value scale).head? := by
    unfold joined
    split
    · rfl
    · exact List.head?_append_of_ne_nil _ (wholePart_ne_nil value scale)
  rw [headed]
  intro first
  have inside : '-' ∈ wholePart value scale ++ places value scale :=
    List.mem_append_left _ (List.mem_of_mem_head? first)
  exact absurd (isDigit_of_mem_parts inside) (by decide)

/-- A written decimal stands for its value, shifted by the scale where it is not negative. -/
theorem decimal?_exactDecimal :
    decimal? (exactDecimal value scale).toList = some ((value : ℚ) / 10 ^ scale.toNat) := by
  have unsigned : unsigned? (joined (wholePart value scale) (places value scale)) =
      some ((value.natAbs : ℚ) / 10 ^ scale.toNat) := by
    rw [unsigned?_joined (wholePart_ne_nil value scale) fun _ => isDigit_of_mem_parts,
      length_places, wholePart, places, List.take_append_drop, ofDigitChars_paddedDigits]
  rw [exactDecimal_toList]
  split
  · next negative =>
    rw [List.singleton_append, decimal?, unsigned, cast_eq_signed, if_pos negative,
      Option.map_some, neg_div]
  · next positive =>
    rw [List.nil_append, decimal?_unsigned (head?_joined value scale), unsigned, cast_eq_signed,
      if_neg positive]

theorem head?_exactDecimal : (exactDecimal value scale).toList.head? = some '-' ↔ value < 0 := by
  rw [exactDecimal_toList]
  split
  · next negative => simp [negative]
  · next positive =>
    simpa [positive] using head?_joined value scale

/-- A decimal is written with as many places as the scale says. -/
theorem fraction_exactDecimal :
    (fraction (exactDecimal value scale).toList).length = scale.toNat := by
  have plain : fraction (joined (wholePart value scale) (places value scale)) =
      places value scale := fraction_joined (fun _ member =>
        isDigit_of_mem_parts (List.mem_append_left _ member)) _
  rw [exactDecimal_toList]
  split
  · rw [List.singleton_append, fraction, List.dropWhile_cons_of_pos (by decide), ← fraction, plain,
      length_places]
  · rw [List.nil_append, plain, length_places]

/-- The shift of the text is the shift of the value when the scale is not negative or the value is
zero. -/
theorem decimal?_exactDecimal_iff :
    decimal? (exactDecimal value scale).toList = some ((value : ℚ) * 10 ^ (-scale)) ↔
      0 ≤ scale ∨ value = 0 := by
  rw [decimal?_exactDecimal, Option.some_inj]
  rcases Int.le_total 0 scale with positive | negative
  · obtain ⟨whole, rfl⟩ := Int.eq_ofNat_of_zero_le positive
    simp [div_eq_mul_inv]
  · obtain ⟨whole, rfl⟩ := Int.exists_eq_neg_ofNat negative
    rw [Int.toNat_neg_natCast, neg_neg, zpow_natCast, pow_zero, div_one]
    cases whole with
    | zero => simp
    | succ less =>
      have large : (1 : ℚ) < 10 ^ (less + 1) := one_lt_pow₀ (by norm_num) (by omega)
      have below : ¬ (0 : ℤ) ≤ -((less + 1 : ℕ) : ℤ) := by omega
      rw [or_iff_right below]
      constructor
      · intro same
        by_contra nonzero
        exact large.ne' ((left_eq_mul₀ (Int.cast_ne_zero.mpr nonzero)).mp same)
      · rintro rfl
        rw [Int.cast_zero, zero_mul]

/-- The text of an exact decimal stands for its value exactly when the scale is not negative or the
value is zero; different values of one scale have different texts. -/
theorem exact_decimal_denotes_iff :
    (decimal? (exactDecimal value scale).toList = some ((value : ℚ) * 10 ^ (-scale)) ↔
      0 ≤ scale ∨ value = 0) ∧
    ∀ other : Int, exactDecimal value scale = exactDecimal other scale → value = other := by
  refine ⟨decimal?_exactDecimal_iff value scale, fun other same => ?_⟩
  have read := congrArg (fun text : String => decimal? text.toList) same
  simp only [decimal?_exactDecimal, Option.some_inj] at read
  rw [div_left_inj' (by positivity)] at read
  exact_mod_cast read

/-- One with a scale of minus two is a hundred, and is written as one. -/
theorem exact_decimal_negative_scale : exactDecimal 1 (-2) = "1" ∧
    decimal? (exactDecimal 1 (-2)).toList ≠ some (((1 : Int) : ℚ) * 10 ^ (-(-2 : Int))) := by
  refine ⟨by decide, ?_⟩
  rw [decimal?_exactDecimal, show (-2 : Int).toNat = 0 from rfl]
  norm_num

end Exact

section Rounded

theorem roundQuotient_eq (absolute removed : Nat) : roundQuotient absolute (10 ^ removed) =
    if 0 < removed ∧ (10 ^ removed / 2 < absolute % 10 ^ removed ∨
        absolute % 10 ^ removed = 10 ^ removed / 2 ∧ absolute / 10 ^ removed % 2 = 1) then
      absolute / 10 ^ removed + 1
    else absolute / 10 ^ removed := by
  cases removed with
  | zero => simp [roundQuotient, Nat.mod_one]
  | succ less =>
    have halved : 2 * (10 ^ (less + 1) / 2) = 10 ^ (less + 1) := by
      rw [Nat.pow_succ]
      omega
    unfold roundQuotient
    refine if_congr ?_ rfl rfl
    omega

theorem roundQuotient_le {number bound : Nat} (factor : Nat) (small : number < bound) :
    roundQuotient number factor ≤ bound := by
  unfold roundQuotient
  have quotient := Nat.div_le_self number factor
  split <;> omega

/-- Within the bounds of a decimal, displaying does not panic and shows the rounded value. -/
theorem decimal_eq {value : Int} {scale : Nat} (maximumPlaces : Nat)
    (small : value.natAbs < 10 ^ 38) (fits : scale ≤ 38) :
    decimal value scale maximumPlaces = some (exactDecimal
      (if value < 0 then
        -(roundQuotient value.natAbs (10 ^ (scale - min scale maximumPlaces)) : Int)
        else roundQuotient value.natAbs (10 ^ (scale - min scale maximumPlaces)))
      (min scale maximumPlaces : Nat)) := by
  have power : 10 ^ (scale - min scale maximumPlaces) ≤ 10 ^ 38 :=
    Nat.pow_le_pow_right (by decide) (by omega)
  have rounded := roundQuotient_le (10 ^ (scale - min scale maximumPlaces)) small
  have shown : ¬ 127 < min scale maximumPlaces := by omega
  have factorFits : ¬ 2 ^ 128 ≤ 10 ^ (scale - min scale maximumPlaces) := by omega
  have roundedFits :
      ¬ 2 ^ 127 ≤ roundQuotient value.natAbs (10 ^ (scale - min scale maximumPlaces)) := by omega
  simp only [decimal, Int.toNat_natCast, ← roundQuotient_eq, if_neg shown, if_neg factorFits,
    if_neg roundedFits, decide_eq_true_eq]

/-- A decimal below 10^38 of a scale up to 38 is displayed without a panic, as a numeral with
exactly the digits shown that stands for its value rounded to them with ties to even, and with a
sign only when the rounded value is negative. -/
theorem decimal_rounds (value : Int) (scale maximumPlaces : Nat)
    (small : value.natAbs < 10 ^ 38) (fits : scale ≤ 38) :
    ∃ (text : String) (rounded : Int), decimal value scale maximumPlaces = some text ∧
      NearestEven ((value : ℚ) * 10 ^ (-(scale : ℤ)) * 10 ^ min scale maximumPlaces) rounded ∧
      decimal? text.toList = some ((rounded : ℚ) * 10 ^ (-(min scale maximumPlaces : ℕ) : ℤ)) ∧
      (fraction text.toList).length = min scale maximumPlaces ∧
      (text.toList.head? = some '-' ↔ rounded < 0) := by
  refine ⟨_, _, decimal_eq maximumPlaces small fits, ?_, ?_, ?_, head?_exactDecimal _ _⟩
  · have positive : 0 < 10 ^ (scale - min scale maximumPlaces) := Nat.pow_pos (by decide)
    have nearest := @nearestEven_roundQuotient value.natAbs _ positive
    have shifted : (value : ℚ) * 10 ^ (-(scale : ℤ)) * 10 ^ min scale maximumPlaces =
        value / ((10 ^ (scale - min scale maximumPlaces) : ℕ) : ℚ) := by
      have parts : (10 : ℚ) ^ scale =
          10 ^ (scale - min scale maximumPlaces) * 10 ^ min scale maximumPlaces := by
        rw [← pow_add, Nat.sub_add_cancel (Nat.min_le_left _ _)]
      rw [zpow_neg, zpow_natCast, parts]
      push_cast
      field_simp
    rw [shifted]
    split
    · next negative =>
      rw [cast_eq_signed, if_pos negative, neg_div]
      exact nearest.neg
    · next positive =>
      rw [cast_eq_signed, if_neg positive]
      exact nearest
  · rw [decimal?_exactDecimal, zpow_neg, zpow_natCast, Int.toNat_natCast, div_eq_mul_inv]
  · rw [fraction_exactDecimal, Int.toNat_natCast]

/-- A tie is rounded to the even digit, and a negative value that rounds to zero has no sign. -/
theorem decimal_rounds_tie : (∃ (text : String) (rounded : Int), decimal (-5) 1 0 = some text ∧
      NearestEven (((-5 : Int) : ℚ) * 10 ^ (-((1 : ℕ) : ℤ)) * 10 ^ min 1 0) rounded ∧
      decimal? text.toList = some ((rounded : ℚ) * 10 ^ (-(min 1 0 : ℕ) : ℤ)) ∧
      (fraction text.toList).length = min 1 0 ∧
      (text.toList.head? = some '-' ↔ rounded < 0)) ∧ decimal (-5) 1 0 = some "0" :=
  ⟨decimal_rounds (-5) 1 0 (by decide) (by decide), by decide⟩

end Rounded

end ConfluxQuery.Output
