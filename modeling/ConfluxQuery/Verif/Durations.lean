import ConfluxQuery.Driver.Durations

/-!
# The meaning of durations

A duration that the configuration accepts is a number and a unit. Both adapters use its length just
where the unit is milliseconds or seconds and the length in milliseconds fits into 64 bits.
-/

namespace ConfluxQuery

open Config

/-- The units of durations. -/
inductive DurationUnit
  | milliseconds
  | seconds
  | minutes
  | hours
deriving DecidableEq

namespace DurationUnit

/-- How a unit is written. -/
def suffix : DurationUnit → List Char
  | milliseconds => ['m', 's']
  | seconds => ['s']
  | minutes => ['m']
  | hours => ['h']

/-- The milliseconds of a unit. -/
def length : DurationUnit → Nat
  | milliseconds => 1
  | seconds => 1000
  | minutes => 60000
  | hours => 3600000

end DurationUnit

/-- A text is a number in decimal digits and a unit. -/
def Written (value : String) (number : Nat) (unit : DurationUnit) : Prop :=
  ∃ digits, value.toList = digits ++ unit.suffix ∧ Numeral.digits? digits = some number

/-- Digits that stand for a number. -/
theorem isDigit_of_digits? {digits : List Char} {number : Nat}
    (read : Numeral.digits? digits = some number) {letter : Char} (member : letter ∈ digits) :
    letter.isDigit = true := by
  rw [Numeral.digits?] at read
  split at read
  · cases read
  · next valid =>
    simp only [Bool.or_eq_true, Bool.not_eq_true', not_or, Bool.not_eq_false] at valid
    exact List.all_eq_true.mp valid.2 letter member

theorem not_suffix_digits {digits : List Char} {number : Nat} {letter : Char}
    (read : Numeral.digits? digits = some number) (other : letter.isDigit = false) :
    ¬ [letter] <:+ digits := by
  intro ends
  rw [isDigit_of_digits? read (ends.mem List.mem_cons_self)] at other
  cases other

theorem parseUnsigned_of_digits? {digits : List Char} {number bound : Nat}
    (read : Numeral.digits? digits = some number) :
    Numeral.parseUnsigned bound digits = if number < bound then some number else none := by
  have plain : '+' ∉ digits := fun member => absurd (isDigit_of_digits? read member) (by decide)
  unfold Numeral.parseUnsigned
  split
  · next rest => exact absurd List.mem_cons_self plain
  · simp [read, Option.filter]

/-- A text with another letter than digits is no number. -/
theorem parseUnsigned_letter {digits : List Char} {number bound : Nat} {letter : Char}
    (read : Numeral.digits? digits = some number) (other : letter.isDigit = false) :
    Numeral.parseUnsigned bound (digits ++ [letter]) = none := by
  have refused : ∀ rest : List Char, Numeral.digits? (rest ++ [letter]) = none := by
    intro rest
    simp [Numeral.digits?, other]
  unfold Numeral.parseUnsigned
  split
  · next rest same =>
    cases digits with
    | nil => cases read
    | cons first digits =>
      cases same
      exact congrArg (Option.filter _) (refused digits)
  · exact congrArg (Option.filter _) (refused digits)

/-- A suffix is taken off. -/
theorem stripSuffix_append (text suffix : List Char) :
    stripSuffix suffix (text ++ suffix) = some text := by
  rw [stripSuffix, if_pos (List.suffix_append text suffix)]
  simp

/-- A text with another suffix stays. -/
theorem stripSuffix_none {text suffix : List Char} (other : ¬ suffix <:+ text) :
    stripSuffix suffix text = none := if_neg other

theorem pair_suffix_concat {text : List Char} {first second last : Char} :
    [first, second] <:+ text ++ [last] ↔ second = last ∧ [first] <:+ text := by
  constructor
  · rintro ⟨before, same⟩
    rw [show before ++ [first, second] = before ++ [first] ++ [second] by simp] at same
    obtain ⟨rfl, rest⟩ := List.append_inj' same rfl
    exact ⟨List.singleton_inj.mp rest, List.suffix_append before [first]⟩
  · rintro ⟨rfl, before, rfl⟩
    exact ⟨before, by simp⟩

/-- A duration that the configuration accepts is a number and a unit. -/
theorem written_of_valid {value : String} (accepted : validDuration value = true) :
    ∃ number unit, Written value number unit := by
  have unit : ∃ unit : DurationUnit, (stripSuffix unit.suffix value.toList).any (fun number =>
      !number.isEmpty && number.all Char.isDigit) = true := by
    simp only [validDuration, List.any_cons, List.any_nil, Bool.or_false, Bool.or_eq_true]
      at accepted
    rcases accepted with found | found | found | found
    · exact ⟨.milliseconds, found⟩
    · exact ⟨.seconds, found⟩
    · exact ⟨.minutes, found⟩
    · exact ⟨.hours, found⟩
  obtain ⟨unit, found⟩ := unit
  rw [stripSuffix] at found
  split at found
  · next ends =>
    obtain ⟨digits, whole⟩ := ends
    rw [← whole] at found
    refine ⟨Nat.ofDigitChars 10 digits 0, unit, digits, whole.symm, ?_⟩
    have valid : (!digits.isEmpty && digits.all Char.isDigit) = true := by simpa using found
    rw [Bool.and_eq_true, Bool.not_eq_true'] at valid
    rw [Numeral.digits?, valid.1, valid.2]
    rfl
  · cases found

section Units

variable {value : String} {number : Nat} {digits : List Char} {unit : DurationUnit}

theorem durationParts_written (read : Numeral.digits? digits = some number) :
    Trino.durationParts (digits ++ unit.suffix) = some (digits, unit.length) := by
  have letters : ¬ ['m'] <:+ digits := not_suffix_digits read (by decide)
  cases unit with
  | milliseconds =>
    rw [Trino.durationParts, DurationUnit.suffix, stripSuffix_append]
    rfl
  | seconds =>
    rw [Trino.durationParts, DurationUnit.suffix,
      stripSuffix_none (by simp [pair_suffix_concat, letters]), stripSuffix_append]
    rfl
  | minutes =>
    rw [Trino.durationParts, DurationUnit.suffix, stripSuffix_none (by simp [pair_suffix_concat]),
      stripSuffix_none (by simp), stripSuffix_append]
    rfl
  | hours =>
    rw [Trino.durationParts, DurationUnit.suffix, stripSuffix_none (by simp [pair_suffix_concat]),
      stripSuffix_none (by simp), stripSuffix_none (by simp), stripSuffix_append]
    rfl

/-- The Trino adapter's length of a duration: it fails when the number does not fit and stops at the
largest number when the length does not. -/
theorem trino_parseDuration (written : Written value number unit) (name : String) :
    Trino.parseDuration name value = if number < 2 ^ 64 then
      .ok (min (number * unit.length) (2 ^ 64 - 1))
    else .error ⟨"configuration", "property '" ++ name ++ "' has invalid duration"⟩ := by
  obtain ⟨digits, whole, read⟩ := written
  simp only [Trino.parseDuration, whole, durationParts_written read, parseUnsigned_of_digits? read]
  by_cases fits : number < 2 ^ 64
  · rw [if_pos fits, if_pos fits]
  · rw [if_neg fits, if_neg fits]

/-- The Databricks adapter's length of a duration: it knows milliseconds and seconds. -/
theorem databricks_parseDuration (written : Written value number unit) :
    Databricks.parseDuration value =
      if (unit = .milliseconds ∨ unit = .seconds) ∧ number < 2 ^ 64 then
        some (number * unit.length) else none := by
  obtain ⟨digits, whole, read⟩ := written
  have letters : ¬ ['m'] <:+ digits := not_suffix_digits read (by decide)
  rw [Databricks.parseDuration, whole]
  cases unit with
  | milliseconds =>
    have rest : digits ++ DurationUnit.milliseconds.suffix = digits ++ ['m'] ++ ['s'] := by
      simp [DurationUnit.suffix]
    rw [show stripSuffix ['m', 's'] (digits ++ DurationUnit.milliseconds.suffix) = some digits from
      stripSuffix_append digits _, rest, stripSuffix_append, Option.bind_some, Option.bind_some,
      parseUnsigned_of_digits? read, parseUnsigned_letter read (by decide)]
    by_cases fits : number < 2 ^ 64 <;> simp [DurationUnit.length]
  | seconds =>
    rw [DurationUnit.suffix, stripSuffix_none (by simp [pair_suffix_concat, letters]),
      stripSuffix_append, Option.bind_some, parseUnsigned_of_digits? read]
    by_cases fits : number < 2 ^ 64 <;> simp [DurationUnit.length]
  | minutes =>
    rw [DurationUnit.suffix, stripSuffix_none (by simp [pair_suffix_concat]),
      stripSuffix_none (by simp)]
    simp
  | hours =>
    rw [DurationUnit.suffix, stripSuffix_none (by simp [pair_suffix_concat]),
      stripSuffix_none (by simp)]
    simp

end Units

/-- A duration that the configuration accepts has the length it denotes in both adapters just where
its unit is milliseconds or seconds and its length in milliseconds fits into 64 bits. -/
theorem durations_agree_iff (value : String) (accepted : validDuration value = true) :
    ∃ number unit, Written value number unit ∧
      (((∀ name, Trino.parseDuration name value = .ok (number * unit.length)) ∧
        ∀ properties, properties.lookup "connect_timeout" = some value →
          Databricks.connectTimeout properties = number * unit.length) ↔
      (unit = .milliseconds ∨ unit = .seconds) ∧ number * unit.length < 2 ^ 64) := by
  obtain ⟨number, unit, written⟩ := written_of_valid accepted
  refine ⟨number, unit, written, ?_⟩
  have positive : 1 ≤ unit.length := by cases unit <;> decide
  have larger : number ≤ number * unit.length := Nat.le_mul_of_pos_right number positive
  constructor
  · rintro ⟨trino, databricks⟩
    have first := trino "connect_timeout"
    have second := databricks (AList.insert "connect_timeout" value ∅) (AList.lookup_insert _)
    rw [trino_parseDuration written] at first
    rw [Databricks.connectTimeout, AList.lookup_insert, Option.bind_some,
      databricks_parseDuration written] at second
    by_cases fits : number < 2 ^ 64
    · rw [if_pos fits, Except.ok.injEq] at first
      refine ⟨?_, by omega⟩
      by_contra other
      rw [if_neg fun both => other both.1, Option.getD_none] at second
      -- The default of ten seconds is no number of minutes or hours.
      cases unit with
      | milliseconds => exact other (.inl rfl)
      | seconds => exact other (.inr rfl)
      | minutes | hours =>
        simp only [DurationUnit.length] at second
        omega
    · rw [if_neg fits] at first
      cases first
  · rintro ⟨short, fits⟩
    have small : number < 2 ^ 64 := by omega
    constructor
    · intro name
      rw [trino_parseDuration written, if_pos small, min_eq_left (by omega)]
    · intro properties found
      rw [Databricks.connectTimeout, found, Option.bind_some, databricks_parseDuration written,
        if_pos ⟨short, small⟩]
      rfl

/-- Fifteen seconds are fifteen seconds. -/
theorem durations_agree_seconds : ∃ number unit, Written "15s" number unit ∧
    ((∀ name, Trino.parseDuration name "15s" = .ok (number * unit.length)) ∧
      ∀ properties, properties.lookup "connect_timeout" = some "15s" →
        Databricks.connectTimeout properties = number * unit.length) := by
  obtain ⟨number, unit, ⟨digits, whole, read⟩, agree⟩ := durations_agree_iff "15s" (by decide)
  have split : digits = ['1', '5'] ∧ unit = .seconds := by
    have last : "15s".toList = digits ++ unit.suffix := whole
    have tail := congrArg List.reverse last
    rw [List.reverse_append] at tail
    cases unit with
    | milliseconds | minutes | hours => simp [DurationUnit.suffix] at tail
    | seconds =>
      have rest : ['5', '1'] = digits.reverse := by simpa [DurationUnit.suffix] using tail
      exact ⟨by rw [← List.reverse_reverse digits, ← rest]; rfl, rfl⟩
  obtain ⟨rfl, rfl⟩ := split
  cases read
  exact ⟨15, .seconds, ⟨['1', '5'], rfl, rfl⟩, agree.mpr ⟨.inr rfl, by decide⟩⟩

/-- Five minutes are ten seconds to the Databricks adapter. -/
theorem databricks_minutes_ignored :
    validDuration "5m" = true ∧ Trino.parseDuration "connect_timeout" "5m" = .ok 300000 ∧
      Databricks.connectTimeout (AList.insert "connect_timeout" "5m" ∅) = 10000 := by
  decide +kernel

end ConfluxQuery
