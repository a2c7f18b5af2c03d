import Mathlib

/-!
# Wildcard patterns

A pattern is a list of symbols, each of which covers one piece of a text: any run of letters, any
single letter or a given letter. A text is accepted if it is the pieces of the symbols one after the
other. Acceptance is known from the end of a text, as a table over the beginnings of text and
pattern computes it.
-/

namespace Wildcard

variable {α : Type}

/-- What one place of a pattern asks for. -/
inductive Symbol (α : Type)
  /-- Any letters, or none. -/
  | run
  /-- Any one letter. -/
  | one
  /-- This letter. -/
  | exactly (letter : α)
deriving DecidableEq

/-- The pieces a symbol covers. -/
def Symbol.Covers : Symbol α → List α → Prop
  | .run, _ => True
  | .one, piece => piece.length = 1
  | .exactly letter, piece => piece = [letter]

/-- A text is accepted if it splits into consecutive pieces that the symbols cover. -/
def Accepts (symbols : List (Symbol α)) (text : List α) : Prop :=
  ∃ pieces, text = List.flatten pieces ∧ List.Forall₂ Symbol.Covers symbols pieces

theorem accepts_nil {text : List α} : Accepts [] text ↔ text = [] := by
  constructor
  · rintro ⟨pieces, rfl, covered⟩
    cases covered
    rfl
  · rintro rfl
    exact ⟨[], rfl, .nil⟩

theorem accepts_cons {symbol : Symbol α} {symbols : List (Symbol α)} {text : List α} :
    Accepts (symbol :: symbols) text ↔
      ∃ piece rest, text = piece ++ rest ∧ symbol.Covers piece ∧ Accepts symbols rest := by
  constructor
  · rintro ⟨pieces, rfl, covered⟩
    cases covered with
    | cons first others => exact ⟨_, _, List.flatten_cons, first, _, rfl, others⟩
  · rintro ⟨piece, _, rfl, first, pieces, rfl, others⟩
    exact ⟨piece :: pieces, List.flatten_cons.symm, .cons first others⟩

theorem accepts_append {first second : List (Symbol α)} {text : List α} :
    Accepts (first ++ second) text ↔
      ∃ before after, text = before ++ after ∧ Accepts first before ∧ Accepts second after := by
  induction first generalizing text with
  | nil =>
    constructor
    · exact fun accepted => ⟨[], text, rfl, accepts_nil.mpr rfl, accepted⟩
    · rintro ⟨before, after, rfl, empty, accepted⟩
      rw [accepts_nil.mp empty]
      exact accepted
  | cons symbol symbols step =>
    rw [List.cons_append, accepts_cons]
    constructor
    · rintro ⟨piece, rest, rfl, covered, accepted⟩
      obtain ⟨before, after, rfl, left, right⟩ := step.mp accepted
      exact ⟨piece ++ before, after, (List.append_assoc ..).symm,
        accepts_cons.mpr ⟨piece, before, rfl, covered, left⟩, right⟩
    · rintro ⟨_, after, rfl, left, right⟩
      obtain ⟨piece, before, rfl, covered, left⟩ := accepts_cons.mp left
      exact ⟨piece, before ++ after, List.append_assoc .., covered,
        step.mpr ⟨before, after, rfl, left, right⟩⟩

/-- A pattern of one symbol accepts what the symbol covers. -/
theorem accepts_singleton {symbol : Symbol α} {text : List α} :
    Accepts [symbol] text ↔ symbol.Covers text := by
  rw [accepts_cons]
  constructor
  · rintro ⟨piece, rest, rfl, covered, empty⟩
    rw [accepts_nil.mp empty, List.append_nil]
    exact covered
  · exact fun covered => ⟨text, [], (List.append_nil _).symm, covered, accepts_nil.mpr rfl⟩

section Last

variable {symbols : List (Symbol α)} {text : List α} {letter : α}

/-- A run at the end may be empty. -/
theorem Accepts.run_nil (accepted : Accepts symbols text) : Accepts (symbols ++ [.run]) text :=
  accepts_append.mpr
    ⟨text, [], (List.append_nil _).symm, accepted, accepts_singleton.mpr trivial⟩

/-- A run at the end of a pattern ends an empty text only if the text was at its end before. -/
theorem accepts_run_nil : Accepts (symbols ++ [.run]) [] ↔ Accepts symbols [] := by
  constructor
  · intro accepted
    obtain ⟨before, after, empty, left, -⟩ := accepts_append.mp accepted
    rw [(List.append_eq_nil_iff.mp empty.symm).1] at left
    exact left
  · exact Accepts.run_nil

theorem accepts_run_concat : Accepts (symbols ++ [.run]) (text ++ [letter]) ↔
    Accepts symbols (text ++ [letter]) ∨ Accepts (symbols ++ [.run]) text := by
  constructor
  · intro accepted
    obtain ⟨before, after, split, left, -⟩ := accepts_append.mp accepted
    rcases List.eq_nil_or_concat after with rfl | ⟨more, last, rfl⟩
    · rw [List.append_nil] at split
      exact .inl (split ▸ left)
    · rw [List.concat_eq_append, ← List.append_assoc] at split
      obtain ⟨rfl, -⟩ := List.append_inj' split rfl
      exact .inr (accepts_append.mpr ⟨before, more, rfl, left, accepts_singleton.mpr trivial⟩)
  · rintro (accepted | accepted)
    · exact accepted.run_nil
    · obtain ⟨before, after, rfl, left, -⟩ := accepts_append.mp accepted
      exact accepts_append.mpr ⟨before, after ++ [letter], List.append_assoc .., left,
        accepts_singleton.mpr trivial⟩

theorem accepts_concat {symbol : Symbol α} (single : ∀ piece, symbol.Covers piece →
    piece.length = 1) : Accepts (symbols ++ [symbol]) (text ++ [letter]) ↔
      Accepts symbols text ∧ symbol.Covers [letter] := by
  rw [accepts_append]
  constructor
  · rintro ⟨before, after, split, left, right⟩
    have covered := accepts_singleton.mp right
    obtain ⟨last, rfl⟩ := List.length_eq_one_iff.mp (single after covered)
    obtain ⟨rfl, same⟩ := List.append_inj' split rfl
    exact ⟨left, same ▸ covered⟩
  · rintro ⟨left, covered⟩
    exact ⟨text, [letter], rfl, left, accepts_singleton.mpr covered⟩

/-- A symbol of single letters at the end of a pattern covers nothing of an empty text. -/
theorem not_accepts_nil {symbol : Symbol α} (single : ∀ piece, symbol.Covers piece →
    piece.length = 1) : ¬ Accepts (symbols ++ [symbol]) [] := by
  rw [accepts_append]
  rintro ⟨before, after, empty, -, right⟩
  have length := single after (accepts_singleton.mp right)
  rw [(List.append_eq_nil_iff.mp empty.symm).2] at length
  cases length

end Last

theorem accepts_exactly {letters text : List α} :
    Accepts (letters.map Symbol.exactly) text ↔ text = letters := by
  induction letters generalizing text with
  | nil => exact accepts_nil
  | cons letter letters step =>
    rw [List.map_cons, accepts_cons]
    constructor
    · rintro ⟨_, rest, rfl, rfl, accepted⟩
      rw [step.mp accepted, List.singleton_append]
    · rintro rfl
      exact ⟨[letter], letters, rfl, rfl, step.mpr rfl⟩

/-- A row of a table marks the beginnings of a text, from the one that is done to the whole text,
for which a condition holds. -/
def Marks (holds : List α → Prop) : List α → List α → List Bool → Prop
  | done, [], row => ∃ cell, row = [cell] ∧ (cell = true ↔ holds done)
  | done, letter :: rest, row => ∃ cell cells, row = cell :: cells ∧ (cell = true ↔ holds done) ∧
      Marks holds (done ++ [letter]) rest cells

theorem Marks.cons {holds : List α → Prop} {done rest : List α} {row : List Bool}
    (marks : Marks holds done rest row) :
    ∃ cell cells, row = cell :: cells ∧ (cell = true ↔ holds done) := by
  cases rest with
  | nil =>
    obtain ⟨cell, rfl, correct⟩ := marks
    exact ⟨cell, [], rfl, correct⟩
  | cons letter rest =>
    obtain ⟨cell, cells, rfl, correct, -⟩ := marks
    exact ⟨cell, cells, rfl, correct⟩

theorem Marks.getLast? {holds : List α → Prop} {done rest : List α} {row : List Bool}
    (marks : Marks holds done rest row) : row.getLast? = some true ↔ holds (done ++ rest) := by
  induction rest generalizing done row with
  | nil =>
    obtain ⟨cell, rfl, correct⟩ := marks
    rw [List.append_nil, ← correct]
    simp
  | cons letter rest step =>
    obtain ⟨cell, cells, rfl, -, later⟩ := marks
    obtain ⟨next, others, rfl, -⟩ := later.cons
    rw [List.getLast?_cons_cons, step later, List.append_assoc]
    rfl

end Wildcard
