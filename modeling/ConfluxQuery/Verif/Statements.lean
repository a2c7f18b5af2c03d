import ConfluxQuery.Repl.Statements
import ConfluxQuery.Verif.UseStatements

/-!
# What the REPL takes for a complete statement

Texts without backslashes are read from left to right, with doubled quotes as embedded ones. The
flags of the scanner say where this reading is. The scanner passes over quotes when it remembers the
last character, so it takes a text for complete when its last character is a semicolon outside
quotes, and also when only blanks and quoted texts follow such a semicolon.
-/

namespace ConfluxQuery

namespace Repl

open Quoting

/-- A text ends inside quotes. -/
def EndsQuoted (text : List Char) : Prop :=
  ∃ quote body, (run .between text).2 = .quoted quote body

/-- A character after some text is outside quotes, and no quote itself. -/
def Outside (before : List Char) (letter : Char) : Prop :=
  ¬ EndsQuoted before ∧ letter ≠ '\'' ∧ letter ≠ '"'

/-- No quote is left open, and the last character that is not blank is a semicolon outside
quotes. -/
def Finished (text : List Char) : Prop :=
  ¬ EndsQuoted text ∧ ∃ before blanks, text = before ++ ';' :: blanks ∧ Outside before ';' ∧
    IsBlank blanks

/-- Outside quotes a text is blank, after the text before it. -/
def Quiet (before after : List Char) : Prop :=
  ∀ passed letter rest, after = passed ++ letter :: rest → Outside (before ++ passed) letter →
    Text.isWhitespace letter = true

/-- No quote is left open, and a semicolon outside quotes is followed by quoted texts, and outside
of them by nothing but blanks. -/
def QuotedAfter (text : List Char) : Prop :=
  ¬ EndsQuoted text ∧ ∃ before after, text = before ++ ';' :: after ∧ Outside before ';' ∧
    ¬ IsBlank after ∧ Quiet (before ++ [';']) after

/-- The flags of the scanner say where the reading is. -/
def Tracks (scan : Scan) : Mode → Prop
  | .quoted quote _ => (quote = '\'' ∧ scan.single = true ∧ scan.double = false) ∨
      quote = '"' ∧ scan.single = false ∧ scan.double = true
  | .closing quote _ => (quote = '\'' ∨ quote = '"') ∧ scan.single = false ∧ scan.double = false
  | _ => scan.single = false ∧ scan.double = false

variable {state : Scan} {letter : Char} {text : List Char}

/-- What a character does to the flags: each kind of quote counts outside the other kind. -/
theorem flags_scanCharacter (plain : letter ≠ '\\') (fresh : state.escaped = false) :
    (scanCharacter state letter).single =
        (if letter = '\'' ∧ state.double = false then !state.single else state.single) ∧
      (scanCharacter state letter).double =
        (if letter = '"' ∧ state.single = false then !state.double else state.double) ∧
      (scanCharacter state letter).escaped = false := by
  rw [scanCharacter, if_neg (by simp [fresh]), if_neg plain]
  by_cases apostrophe : letter = '\'' ∧ state.double = false
  · have other : ¬ (letter = '"' ∧ state.single = false) := by simp [apostrophe.1]
    simp only [if_pos apostrophe, if_neg other, fresh, and_self]
  by_cases quotation : letter = '"' ∧ state.single = false
  · simp only [if_neg apostrophe, if_pos quotation, fresh, and_self]
  · simp only [if_neg apostrophe, if_neg quotation]
    split <;> exact ⟨rfl, rfl, fresh⟩

/-- From outside quotes, a character leads into them or stays outside. -/
theorem tracks_start (plain : letter ≠ '\\') (fresh : state.escaped = false)
    (single : state.single = false) (double : state.double = false) :
    Tracks (scanCharacter state letter) (start letter).2 := by
  obtain ⟨first, second, _⟩ := flags_scanCharacter plain fresh
  rw [single, double] at first second
  by_cases apostrophe : letter = '\''
  · subst apostrophe
    exact .inl ⟨rfl, first, second⟩
  by_cases quotation : letter = '"'
  · subst quotation
    exact .inr ⟨rfl, first, second⟩
  rw [if_neg (fun found => apostrophe found.1)] at first
  rw [if_neg (fun found => quotation found.1)] at second
  rw [start, if_neg (show ¬ (letter = '"' ∨ letter = '\'') by simp [apostrophe, quotation])]
  split_ifs <;> exact ⟨first, second⟩

/-- A character keeps the flags right. -/
theorem Tracks.step {mode : Mode} (tracks : Tracks state mode) (plain : letter ≠ '\\')
    (fresh : state.escaped = false) :
    Tracks (scanCharacter state letter) (Quoting.step mode letter).2 := by
  obtain ⟨first, second, _⟩ := flags_scanCharacter plain fresh
  cases mode with
  | between => exact tracks_start plain fresh tracks.1 tracks.2
  | word body =>
    rw [Quoting.step]
    split
    · next word =>
      -- no quote is part of a word
      rw [if_neg (by rintro ⟨rfl, _⟩; exact absurd word (by decide)), tracks.1] at first
      rw [if_neg (by rintro ⟨rfl, _⟩; exact absurd word (by decide)), tracks.2] at second
      exact ⟨first, second⟩
    · exact tracks_start plain fresh tracks.1 tracks.2
  | quoted quote body =>
    rw [Quoting.step]
    rcases tracks with ⟨rfl, single, double⟩ | ⟨rfl, single, double⟩ <;>
      simp only [single, double, and_true, Bool.true_eq_false, and_false, if_false] at first second
    · split
      · next same => exact ⟨.inl rfl, by rw [first, if_pos same]; rfl, second⟩
      · next other => exact .inl ⟨rfl, by rw [first, if_neg other], second⟩
    · split
      · next same => exact ⟨.inr rfl, first, by rw [second, if_pos same]; rfl⟩
      · next other => exact .inr ⟨rfl, first, by rw [second, if_neg other]⟩
  | closing quote body =>
    obtain ⟨kind, single, double⟩ := tracks
    have moved := tracks_start plain fresh single double
    rw [Quoting.step]
    split
    · next same =>
      -- the second of two quotes opens the quotes again
      subst same
      have opens : (start letter).2 = .quoted letter [] := by
        rcases kind with rfl | rfl <;> rfl
      rwa [opens] at moved
    · exact moved

theorem scan_concat (text : List Char) (letter : Char) :
    scan (text ++ [letter]) = scanCharacter (scan text) letter := by
  rw [scan, List.foldl_append]
  rfl

/-- The flags are right after every text without backslashes. -/
theorem tracks_scan (plain : '\\' ∉ text) :
    Tracks (scan text) (run .between text).2 ∧ (scan text).escaped = false := by
  induction text using List.reverseRecOn with
  | nil => exact ⟨⟨rfl, rfl⟩, rfl⟩
  | append_singleton text letter step =>
    rw [List.mem_append, List.mem_singleton, not_or] at plain
    obtain ⟨tracks, fresh⟩ := step plain.1
    have other : letter ≠ '\\' := fun same => plain.2 same.symm
    rw [scan_concat, run_append]
    exact ⟨tracks.step other fresh, (flags_scanCharacter other fresh).2.2⟩

theorem endsQuoted_iff (plain : '\\' ∉ text) :
    EndsQuoted text ↔ ¬ ((scan text).single = false ∧ (scan text).double = false) := by
  obtain ⟨tracks, _⟩ := tracks_scan plain
  rw [EndsQuoted]
  cases place : (run .between text).2 with
  | quoted quote body =>
    rw [place] at tracks
    refine iff_of_true ⟨quote, body, rfl⟩ fun ⟨single, double⟩ => ?_
    rcases tracks with ⟨_, on, _⟩ | ⟨_, _, on⟩
    · cases on.symm.trans single
    · cases on.symm.trans double
  | between =>
    rw [place] at tracks
    exact iff_of_false (by simp) (not_not.mpr tracks)
  | word body =>
    rw [place] at tracks
    exact iff_of_false (by simp) (not_not.mpr tracks)
  | closing quote body =>
    rw [place] at tracks
    exact iff_of_false (by simp) (not_not.mpr tracks.2)

/-- The character that counts: outside quotes, no quote and not blank. -/
def Counts (before : List Char) (letter : Char) : Prop :=
  Outside before letter ∧ Text.isWhitespace letter = false

theorem last_scan (plain : '\\' ∉ text) (other : letter ≠ '\\') :
    (Counts text letter → (scan (text ++ [letter])).last = some letter) ∧
      (¬ Counts text letter → (scan (text ++ [letter])).last = (scan text).last) := by
  have fresh := (tracks_scan plain).2
  have place := endsQuoted_iff plain
  rw [scan_concat, scanCharacter, if_neg (by simp [fresh]), if_neg other, Counts, Outside, place,
    not_not]
  constructor
  · rintro ⟨⟨outside, apostrophe, quotation⟩, solid⟩
    rw [if_neg (fun found => apostrophe found.1), if_neg (fun found => quotation found.1),
      if_pos ⟨outside.1, outside.2, solid⟩]
  · intro passed
    split
    · rfl
    split
    · rfl
    split
    · next apostrophe quotation found =>
      refine absurd ⟨⟨⟨found.1, found.2.1⟩, ?_, ?_⟩, found.2.2⟩ passed
      · exact fun same => apostrophe ⟨same, found.2.1⟩
      · exact fun same => quotation ⟨same, found.1⟩
    · rfl

/-- A place in a longer text is its last one or a place in the text. -/
theorem concat_eq_iff {before after : List Char} {found : Char} :
    text ++ [letter] = before ++ found :: after ↔
      (after = [] ∧ before = text ∧ found = letter) ∨
        ∃ initial, after = initial ++ [letter] ∧ text = before ++ found :: initial := by
  constructor
  · intro split
    rcases List.eq_nil_or_concat after with rfl | ⟨initial, last, rfl⟩
    · obtain ⟨rfl, same⟩ := List.append_inj' split rfl
      exact .inl ⟨rfl, rfl, (List.singleton_inj.mp same).symm⟩
    · rw [List.concat_eq_append, ← List.cons_append, ← List.append_assoc] at split
      obtain ⟨rfl, same⟩ := List.append_inj' split rfl
      exact .inr ⟨initial, by rw [List.concat_eq_append, same], rfl⟩
  · rintro (⟨rfl, rfl, rfl⟩ | ⟨initial, rfl, rfl⟩)
    · rfl
    · rw [List.append_assoc, List.cons_append]

theorem quiet_concat {before : List Char} :
    Quiet before (text ++ [letter]) ↔ Quiet before text ∧ ¬ Counts (before ++ text) letter := by
  constructor
  · refine fun quiet => ⟨fun passed other rest split outside => ?_, fun counts => ?_⟩
    · exact quiet passed other (rest ++ [letter]) (by simp [split]) outside
    · cases (quiet text letter [] rfl counts.1).symm.trans counts.2
  · rintro ⟨quiet, passes⟩ passed other rest split outside
    rcases concat_eq_iff.mp split with ⟨rfl, rfl, rfl⟩ | ⟨initial, rfl, rfl⟩
    · by_contra solid
      exact passes ⟨outside, Bool.not_eq_true _ ▸ solid⟩
    · exact quiet passed other initial rfl outside

/-- What the scanner remembers is the last character that counts. -/
theorem last_scan_iff (plain : '\\' ∉ text) (found : Char) :
    (scan text).last = some found ↔ ∃ before after, text = before ++ found :: after ∧
      Counts before found ∧ Quiet (before ++ [found]) after := by
  induction text using List.reverseRecOn with
  | nil => exact iff_of_false (by simp [scan]) (by simp)
  | append_singleton text letter step =>
    rw [List.mem_append, List.mem_singleton, not_or] at plain
    obtain ⟨counted, passed⟩ := last_scan plain.1 (fun same => plain.2 same.symm)
    by_cases counts : Counts text letter
    · rw [counted counts, Option.some_inj]
      constructor
      · rintro rfl
        exact ⟨text, [], rfl, counts, by simp [Quiet]⟩
      · rintro ⟨before, after, split, _, quiet⟩
        rcases concat_eq_iff.mp split with ⟨_, _, same⟩ | ⟨initial, rfl, rfl⟩
        · exact same.symm
        · exact absurd (by simpa using counts) (quiet_concat.mp quiet).2
    · rw [passed counts, step plain.1]
      constructor
      · rintro ⟨before, after, rfl, first, quiet⟩
        exact ⟨before, after ++ [letter], by simp, first,
          quiet_concat.mpr ⟨quiet, by simpa using counts⟩⟩
      · rintro ⟨before, after, split, first, quiet⟩
        rcases concat_eq_iff.mp split with ⟨rfl, rfl, rfl⟩ | ⟨initial, rfl, rfl⟩
        · exact absurd first counts
        · exact ⟨before, initial, rfl, first, (quiet_concat.mp quiet).1⟩

/-- A blank text is quiet. -/
theorem quiet_of_isBlank {before after : List Char} (blank : IsBlank after) :
    Quiet before after := by
  intro passed letter rest split _
  exact blank letter (by simp [split])

/-- A text without backslashes is complete when it is finished, or when quoted texts follow a
semicolon. -/
theorem statementComplete_iff {sql : String} (plain : '\\' ∉ sql.toList) :
    statementComplete sql = true ↔ Finished sql.toList ∨ QuotedAfter sql.toList := by
  have closed := (endsQuoted_iff plain).not_left
  simp only [statementComplete, Bool.and_eq_true, Bool.not_eq_true', beq_iff_eq]
  rw [← closed, last_scan_iff plain]
  constructor
  · rintro ⟨shut, before, after, split, counts, quiet⟩
    by_cases blank : IsBlank after
    · exact .inl ⟨shut, before, after, split, counts.1, blank⟩
    · exact .inr ⟨shut, before, after, split, counts.1, blank, quiet⟩
  · rintro (⟨shut, before, blanks, split, outside, blank⟩ |
      ⟨shut, before, after, split, outside, _, quiet⟩)
    · exact ⟨shut, before, blanks, split, ⟨outside, by decide⟩, quiet_of_isBlank blank⟩
    · exact ⟨shut, before, after, split, ⟨outside, by decide⟩, quiet⟩

/-- A text in which quoted texts follow the semicolon is not finished. -/
theorem QuotedAfter.not_finished (quoted : QuotedAfter text) : ¬ Finished text := by
  obtain ⟨_, before, after, split, outside, solid, quiet⟩ := quoted
  rintro ⟨_, before', blanks, split', outside', blank⟩
  rw [split] at split'
  rcases List.append_eq_append_iff.mp split' with ⟨gap, rfl, tail⟩ | ⟨gap, rfl, tail⟩
  · cases gap with
    | nil =>
      cases tail
      exact solid blank
    | cons first gap =>
      -- the last semicolon would come later, and count
      obtain ⟨rfl, rfl⟩ := List.cons.inj tail
      have seen := quiet gap ';' blanks rfl (by simpa using outside')
      exact absurd seen (by decide)
  · cases gap with
    | nil =>
      cases tail
      exact solid blank
    | cons first gap =>
      obtain ⟨rfl, rfl⟩ := List.cons.inj tail
      exact absurd (blank ';' (by simp)) (by decide)

/-- The scanner is right about a text without backslashes just where no quoted texts follow the last
semicolon. -/
theorem statement_complete_right_iff (sql : String) (plain : '\\' ∉ sql.toList) :
    (statementComplete sql = true ↔ Finished sql.toList) ↔ ¬ QuotedAfter sql.toList := by
  rw [statementComplete_iff plain]
  constructor
  · intro right quoted
    exact quoted.not_finished (right.mp (.inr quoted))
  · intro free
    exact or_iff_left free

/-- A finished statement with a semicolon in its quotes. -/
theorem statement_complete_right_quoted :
    statementComplete "select ';';" = true ∧
      (statementComplete "select ';';" = true ↔ Finished "select ';';".toList) := by
  refine ⟨by decide, (statement_complete_right_iff "select ';';" (by decide)).mpr ?_⟩
  refine fun quoted => quoted.not_finished ⟨fun inside => ?_, "select ';'".toList, [], rfl,
    ⟨fun inside => ?_, by decide, by decide⟩, by decide⟩
  · exact (endsQuoted_iff (by decide)).mp inside (by decide)
  · exact (endsQuoted_iff (by decide)).mp inside (by decide)

/-- A quoted text after the semicolon does not make a statement incomplete. -/
theorem statement_complete_before_quotes :
    statementComplete "select 1; 'x'" = true ∧ ¬ Finished "select 1; 'x'".toList := by
  refine ⟨by decide, fun finished => ?_⟩
  obtain ⟨_, before, blanks, split, _, blank⟩ := finished
  have last := congrArg List.getLast? split
  rcases List.eq_nil_or_concat blanks with rfl | ⟨initial, letter, rfl⟩
  · rw [List.getLast?_concat] at last
    exact absurd last (by decide)
  · rw [List.concat_eq_append, ← List.cons_append, ← List.append_assoc,
      List.getLast?_concat] at last
    have solid : Text.isWhitespace letter = false := by
      cases last
      decide
    cases (blank letter (by simp)).symm.trans solid

end Repl

end ConfluxQuery
