import ConfluxQuery.Lib.Text
import Mathlib

/-!
# Quoted texts

A text between quotes, with every quote of its own written twice, can be read off again. A lexer
that follows this rule reads a text put together from fixed parts and quoted ones as the tokens of
its parts.
-/

namespace Quoting

/-- A text with its quotes doubled. -/
def doubled (quote : Char) (text : List Char) : List Char :=
  text.flatMap fun character => if character = quote then [quote, quote] else [character]

/-- A text between quotes. -/
def wrapped (quote : Char) (text : List Char) : List Char := quote ::
    (doubled quote text ++ [quote])

variable {quote : Char}

theorem doubled_cons (first : Char) (text : List Char) : doubled quote (first :: text) =
    (if first = quote then [quote, quote] else [first]) ++ doubled quote text := rfl

/-- Doubling adds no other characters. -/
@[simp] theorem mem_doubled {character : Char} {text : List Char} :
    character ∈ doubled quote text ↔ character ∈ text := by
  induction text with
  | nil => rfl
  | cons first rest step =>
    rw [doubled_cons, List.mem_append, step, List.mem_cons]
    refine or_congr_left ?_
    split
    · next same => simp [same]
    · simp

/-- Doubling does not shorten a text, and keeps it exactly when it has no quotes. -/
theorem length_doubled (text : List Char) : text.length ≤ (doubled quote text).length ∧
    ((doubled quote text).length = text.length ↔ quote ∉ text) := by
  induction text with
  | nil => exact ⟨Nat.le_refl _, by simp [doubled]⟩
  | cons first rest step =>
    obtain ⟨long, exact⟩ := step
    rw [doubled_cons, List.length_append, List.length_cons, List.mem_cons]
    split
    · next same =>
      refine ⟨by rw [List.length_cons]; omega, fun full => ?_, fun absent => ?_⟩
      · rw [List.length_cons, List.length_singleton] at full
        omega
      · exact absurd (.inl same.symm) absent
    · next other =>
      rw [List.length_singleton]
      refine ⟨by omega, fun full => ?_, fun absent => ?_⟩
      · rintro (same | inside)
        · exact other same.symm
        · exact exact.mp (by omega) inside
      · have := exact.mpr fun inside => absent (.inr inside)
        omega

/-- A text is its own doubling exactly when it has no quotes. -/
theorem doubled_eq_self_iff {text : List Char} : doubled quote text = text ↔ quote ∉ text := by
  refine ⟨fun same => (length_doubled text).2.mp (congrArg List.length same), fun absent => ?_⟩
  induction text with
  | nil => rfl
  | cons first rest step =>
    obtain ⟨other, later⟩ := not_or.mp (mt List.mem_cons.mpr absent)
    rw [doubled_cons, if_neg (Ne.symm other), step later]
    rfl

/-- A doubled text up to the quote that closes it can be read off, when no quote follows. -/
theorem doubled_injective {text other rest more : List Char} (ends : rest.head? ≠ some quote)
    (others : more.head? ≠ some quote)
    (same : doubled quote text ++ quote :: rest = doubled quote other ++ quote :: more) :
    text = other ∧ rest = more := by
  have apart : ∀ (first : Char) (tail after before : List Char), before.head? ≠ some quote →
      quote :: before ≠ doubled quote (first :: tail) ++ quote :: after := by
    intro first tail after before stops begins
    rw [doubled_cons] at begins
    split at begins
    · exact stops (by rw [(List.cons.inj begins).2]; rfl)
    · next different => exact different (List.cons.inj begins).1.symm
  induction text generalizing other with
  | nil =>
    cases other with
    | nil => exact ⟨rfl, (List.cons.inj same).2⟩
    | cons first tail => exact absurd same (apart first tail more rest ends)
  | cons first tail step =>
    cases other with
    | nil => exact absurd same.symm (apart first tail rest more others)
    | cons second following =>
      rw [doubled_cons, doubled_cons] at same
      by_cases quoted : first = quote <;> by_cases again : second = quote
      · rw [if_pos quoted, if_pos again] at same
        obtain ⟨texts, rests⟩ := step (List.cons.inj (List.cons.inj same).2).2
        exact ⟨by rw [quoted, again, texts], rests⟩
      · rw [if_pos quoted, if_neg again] at same
        exact absurd (List.cons.inj same).1.symm again
      · rw [if_neg quoted, if_pos again] at same
        exact absurd (List.cons.inj same).1 quoted
      · rw [if_neg quoted, if_neg again] at same
        obtain ⟨texts, rests⟩ := step (List.cons.inj same).2
        exact ⟨by rw [(List.cons.inj same).1, texts], rests⟩

/-- Doubling keeps the first character. -/
theorem head?_doubled (text : List Char) : (doubled quote text).head? = text.head? := by
  cases text with
  | nil => rfl
  | cons first rest =>
    rw [doubled_cons]
    split
    · next same => simp [same]
    · rfl

/-- Doubling keeps the last character. -/
theorem getLast?_doubled (text : List Char) : (doubled quote text).getLast? = text.getLast? := by
  induction text using List.reverseRecOn with
  | nil => rfl
  | append_singleton rest last =>
    have split : doubled quote (rest ++ [last]) = doubled quote rest ++ doubled quote [last] := by
      simp [doubled]
    rw [split, List.getLast?_concat, doubled_cons]
    split
    · next same => simp [same, doubled]
    · simp [doubled]

section

open Text

variable {blank : Char → Bool}

/-- Dropping quotes from both ends of a quoted name gives the name exactly when the name neither
begins nor ends with a dropped character and has no quotes. -/
theorem trim_wrapped_iff (dropped : blank quote = true) {name : List Char} :
    trim blank (wrapped quote name) = name ↔ Firm blank name ∧ quote ∉ name := by
  have inner : trim blank (wrapped quote name) = trim blank (doubled quote name) := by
    obtain ⟨left, right, before, after, padded⟩ := exists_pad blank (doubled quote name)
    have whole : wrapped quote name =
        (quote :: left) ++ trim blank (doubled quote name) ++ (right ++ [quote]) := by
      rw [wrapped]
      conv_lhs => rw [padded]
      simp
    rw [whole]
    refine trim_pad (firm_trim _) ?_ ?_
    · rintro letter (_ | ⟨_, inside⟩)
      · exact dropped
      · exact before letter inside
    · intro letter member
      rcases List.mem_append.mp member with inside | last
      · exact after letter inside
      · rw [List.mem_singleton.mp last]
        exact dropped
  rw [inner]
  constructor
  · intro same
    have firm : Firm blank name := same ▸ firm_trim (doubled quote name)
    have kept : Firm blank (doubled quote name) :=
      ⟨fun first found => firm.1 first (by rwa [head?_doubled] at found),
        fun last found => firm.2 last (by rwa [getLast?_doubled] at found)⟩
    rw [trim_eq_self kept] at same
    exact ⟨firm, doubled_eq_self_iff.mp same⟩
  · rintro ⟨firm, absent⟩
    rw [doubled_eq_self_iff.mpr absent, trim_eq_self firm]

end

/-- A token: a bare word, a text in double quotes or in single quotes, or another character. -/
inductive Token
  | word (text : List Char)
  | identifier (name : List Char)
  | literal (text : List Char)
  | symbol (character : Char)
deriving DecidableEq

/-- Where the lexer is. -/
inductive Mode
  | between
  | word (text : List Char)
  /-- Inside quotes. -/
  | quoted (quote : Char) (text : List Char)
  /-- After a quote that closes, or is the first of two. -/
  | closing (quote : Char) (text : List Char)

/-- The token between quotes. -/
def tokenOf (quote : Char) (text : List Char) : Token :=
  if quote = '"' then .identifier text else .literal text

/-- Characters of bare words. -/
def isWordCharacter (character : Char) : Bool := character.isAlphanum || character == '_'

/-- A character between tokens. -/
def start (character : Char) : List Token × Mode :=
  if character = ' ' then ([], .between)
  else if character = '"' ∨ character = '\'' then ([], .quoted character [])
  else if isWordCharacter character then ([], .word [character])
  else ([.symbol character], .between)

/-- One character: the tokens it completes, and where the lexer is after it. -/
def step : Mode → Char → List Token × Mode
  | .between, character => start character
  | .word text, character =>
    if isWordCharacter character then ([], .word (text ++ [character]))
    else (.word text :: (start character).1, (start character).2)
  | .quoted quote text, character =>
    if character = quote then ([], .closing quote text)
    else ([], .quoted quote (text ++ [character]))
  | .closing quote text, character =>
    if character = quote then ([], .quoted quote (text ++ [quote]))
    else (tokenOf quote text :: (start character).1, (start character).2)

/-- The end of a text; none inside quotes. -/
def finish : Mode → Option (List Token)
  | .between => some []
  | .word text => some [.word text]
  | .quoted _ _ => none
  | .closing quote text => some [tokenOf quote text]

/-- The tokens of a part of a text, and where the lexer is after it. -/
def run : Mode → List Char → List Token × Mode
  | mode, [] => ([], mode)
  | mode, character :: rest =>
    let next := run (step mode character).2 rest
    ((step mode character).1 ++ next.1, next.2)

/-- The tokens of a text. -/
def lex (text : List Char) : Option (List Token) :=
  let result := run .between text
  (finish result.2).map fun last => result.1 ++ last

/-- Texts are read part by part. -/
theorem run_append (mode : Mode) (first second : List Char) : run mode (first ++ second) =
    ((run mode first).1 ++ (run (run mode first).2 second).1,
      (run (run mode first).2 second).2) := by
  induction first generalizing mode with
  | nil => rfl
  | cons character rest step => simp [run, step, List.append_assoc]

/-- A doubled text is read as the text. -/
theorem run_doubled (before text : List Char) :
    run (.quoted quote before) (doubled quote text) = ([], .quoted quote (before ++ text)) := by
  induction text generalizing before with
  | nil => simp [doubled, run]
  | cons first rest step =>
    rw [doubled_cons, run_append]
    split
    · next same =>
      have pair : run (.quoted quote before) [quote, quote] =
          ([], .quoted quote (before ++ [quote])) := by
        simp [run, Quoting.step]
      rw [pair, step, same, List.append_assoc]
      rfl
    · next other =>
      have one : run (.quoted quote before) [first] = ([], .quoted quote (before ++ [first])) := by
        simp [run, Quoting.step, other]
      rw [one, step, List.append_assoc]
      rfl

/-- A quoted text is read up to the quote that may close it. -/
theorem run_wrapped (kind : quote = '"' ∨ quote = '\'') (text : List Char) :
    run .between (wrapped quote text) = ([], .closing quote text) := by
  have opens : step .between quote = ([], .quoted quote []) := by
    rcases kind with rfl | rfl <;> rfl
  rw [wrapped, run, opens, run_append, run_doubled]
  simp [run, step]

end Quoting
