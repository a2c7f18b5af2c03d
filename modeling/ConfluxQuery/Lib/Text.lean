import Mathlib

/-!
# Blank space, separators and brackets in texts

Texts as lists of characters. Dropping the blank characters at both ends forgets what was put around
a text and nothing else. A text is cut at the first of its separators. A balanced text is one whose
brackets close in order; in one without separators of its own, separators stand only between
brackets.
-/

namespace Text

/-- What is said of the letters of a text is decided letter by letter, also where the characters
could all be enumerated. -/
instance (priority := 2000) decidableForallMem {α : Type} (text : List α) (holds : α → Prop)
    [DecidablePred holds] : Decidable (∀ letter, letter ∈ text → holds letter) :=
  List.decidableBAll holds text

section

variable {α β : Type} (blank : α → Bool)

/-- Drop blank characters at both ends. -/
def trim (text : List α) : List α :=
  ((text.dropWhile blank).reverse.dropWhile blank).reverse

/-- A text that neither begins nor ends with a blank character. -/
def Firm (text : List α) : Prop :=
  (∀ first, text.head? = some first → blank first = false) ∧
    ∀ last, text.getLast? = some last → blank last = false

instance (text : List α) : Decidable (Firm blank text) :=
  decidable_of_iff (text.head?.all (fun first => !blank first) = true ∧
      text.getLast?.all (fun last => !blank last) = true)
    (by simp only [Option.all_eq_true, Bool.not_eq_true', Firm])

/-- The text before and after the first of its separators, if it has one. -/
def splitOnce [BEq α] (separator : α) (text : List α) : Option (List α × List α) :=
  match text.dropWhile (· != separator) with
  | [] => none
  | _ :: after => some (text.takeWhile (· != separator), after)

variable {blank}

variable {text before after : List α} {separator : α}

theorem dropWhile_append {left : List α} (space : ∀ letter ∈ left, blank letter = true) :
    (left ++ text).dropWhile blank = text.dropWhile blank := by
  induction left with
  | nil => rfl
  | cons letter rest step =>
    rw [List.cons_append, List.dropWhile_cons_of_pos (space letter List.mem_cons_self),
      step fun other member => space other (List.mem_cons_of_mem _ member)]

/-- Nothing is dropped before a text that does not begin with a blank character. -/
theorem dropWhile_eq_self (firm : ∀ first, text.head? = some first → blank first = false) :
    text.dropWhile blank = text := by
  cases text with
  | nil => rfl
  | cons first rest => exact List.dropWhile_cons_of_neg (by simp [firm first rfl])

/-- Nothing is dropped behind a text that does not end with a blank character. -/
theorem rdropWhile_eq_self (closed : ∀ last, text.getLast? = some last → blank last = false) :
    text.rdropWhile blank = text := by
  rw [List.rdropWhile, dropWhile_eq_self (by rwa [List.head?_reverse]), List.reverse_reverse]

theorem trim_eq_self (firm : Firm blank text) : trim blank text = text := by
  rw [trim, dropWhile_eq_self firm.1, dropWhile_eq_self, List.reverse_reverse]
  rw [List.head?_reverse]
  exact firm.2

theorem trim_pad {left right : List α} (firm : Firm blank text)
    (before : ∀ letter ∈ left, blank letter = true)
    (after : ∀ letter ∈ right, blank letter = true) :
    trim blank (left ++ text ++ right) = text := by
  cases text with
  | nil =>
    have space : ∀ letter ∈ left ++ right, blank letter = true := fun letter member =>
      (List.mem_append.mp member).elim (before letter) (after letter)
    rw [List.append_nil, ← List.append_nil (left ++ right), trim, dropWhile_append space]
    rfl
  | cons first rest =>
    have begins : (first :: rest ++ right).dropWhile blank = first :: rest ++ right :=
      dropWhile_eq_self firm.1
    have ends : (first :: rest).reverse.dropWhile blank = (first :: rest).reverse :=
      dropWhile_eq_self (by rw [List.head?_reverse]; exact firm.2)
    rw [trim, List.append_assoc, dropWhile_append before, begins, List.reverse_append,
      dropWhile_append (by simpa using after), ends, List.reverse_reverse]

/-- What is left after blank characters does not begin with one. -/
theorem head?_dropWhile {first : α} (found : (text.dropWhile blank).head? = some first) :
    blank first = false := by
  induction text with
  | nil => cases found
  | cons letter rest step =>
    by_cases space : blank letter = true
    · rw [List.dropWhile_cons_of_pos space] at found
      exact step found
    · rw [List.dropWhile_cons_of_neg space] at found
      cases found
      exact Bool.not_eq_true _ ▸ space

/-- What is taken from the beginning while it is blank is blank. -/
theorem blank_of_mem_takeWhile {letter : α} (member : letter ∈ text.takeWhile blank) :
    blank letter = true :=
  List.all_eq_true.mp (List.all_takeWhile) letter member

/-- A text is cut at the first separator: there is none before it. -/
theorem cut_iff (apart : ∀ letter, blank letter = true ↔ letter ≠ separator) :
    text.takeWhile blank = before ∧ text.dropWhile blank = separator :: after ↔
      separator ∉ before ∧ text = before ++ separator :: after := by
  constructor
  · rintro ⟨rfl, rest⟩
    refine ⟨fun member => (apart separator).mp (blank_of_mem_takeWhile member) rfl, ?_⟩
    rw [← rest, List.takeWhile_append_dropWhile]
  · rintro ⟨absent, rfl⟩
    have stays : ∀ letter ∈ before, blank letter = true := fun letter member =>
      (apart letter).mpr (ne_of_mem_of_not_mem member absent)
    have stops : ¬ blank separator = true := fun other => (apart separator).mp other rfl
    rw [List.takeWhile_append_of_pos stays, List.dropWhile_append_of_pos stays,
      List.takeWhile_cons_of_neg stops, List.dropWhile_cons_of_neg stops, List.append_nil]
    exact ⟨rfl, rfl⟩

/-- A text is split where its first separator stands. -/
theorem splitOnce_eq_some [BEq α] [LawfulBEq α] :
    splitOnce separator text = some (before, after) ↔
      separator ∉ before ∧ text = before ++ separator :: after := by
  have apart : ∀ letter : α, (letter != separator) = true ↔ letter ≠ separator :=
    fun letter => bne_iff_ne
  rw [← cut_iff apart]
  constructor
  · intro split
    rw [splitOnce] at split
    split at split
    · cases split
    · next first later same =>
      cases split
      have stops : first = separator := by
        have head := List.head?_dropWhile_not (p := (· != separator)) (l := text)
        rw [same] at head
        simpa using head
      exact ⟨rfl, stops ▸ same⟩
  · rintro ⟨taken, dropped⟩
    simp only [splitOnce, dropped, taken]

/-- A text without separators is not split. -/
theorem splitOnce_eq_none [BEq α] [LawfulBEq α] :
    splitOnce separator text = none ↔ separator ∉ text := by
  constructor
  · intro none member
    obtain ⟨before, after, same, absent⟩ := List.eq_append_cons_of_mem member
    rw [splitOnce_eq_some.mpr ⟨absent, same⟩] at none
    cases none
  · intro absent
    cases split : splitOnce separator text with
    | none => rfl
    | some parts =>
      rw [(splitOnce_eq_some.mp split).2] at absent
      simp at absent

/-- What stands after the first separator is shorter than the text. -/
theorem splitOnce_shorter [BEq α] [LawfulBEq α]
    (split : splitOnce separator text = some (before, after)) : after.length < text.length := by
  rw [(splitOnce_eq_some.mp split).2, List.length_append, List.length_cons]
  omega

/-- Blank characters are dropped from the end of what follows a text that ends with another one. -/
theorem rdropWhile_append {tail : List α}
    (closed : ∀ last, text.getLast? = some last → blank last = false) :
    (text ++ tail).rdropWhile blank = text ++ tail.rdropWhile blank := by
  have kept : text.reverse.dropWhile blank = text.reverse :=
    dropWhile_eq_self (by rwa [List.head?_reverse])
  rw [List.rdropWhile, List.rdropWhile, List.reverse_append, List.dropWhile_append]
  split
  · next none => rw [kept, List.isEmpty_iff.mp none, List.reverse_reverse, List.reverse_nil,
      List.append_nil]
  · rw [List.reverse_append, List.reverse_reverse]

/-- Blank characters behind a text are dropped first. -/
theorem rdropWhile_append_of_blank {tail : List α} (space : ∀ letter ∈ tail, blank letter = true) :
    (text ++ tail).rdropWhile blank = text.rdropWhile blank := by
  rw [List.rdropWhile, List.reverse_append, dropWhile_append (by simpa using space)]
  rfl

/-- Trimming drops blank space before a text and from the end of what follows it. -/
theorem trim_append {left tail : List α} (before : ∀ letter ∈ left, blank letter = true)
    (present : text ≠ []) (firm : Firm blank text) :
    trim blank (left ++ (text ++ tail)) = text ++ tail.rdropWhile blank := by
  have begins : (text ++ tail).dropWhile blank = text ++ tail :=
    dropWhile_eq_self fun first found =>
      firm.1 first (by rwa [List.head?_append_of_ne_nil _ present] at found)
  rw [trim, dropWhile_append before, begins]
  exact rdropWhile_append firm.2

/-- A text is what is left of it and the blank characters dropped from its end. -/
theorem exists_ending (blank : α → Bool) (text : List α) : ∃ ending,
    (∀ letter ∈ ending, blank letter = true) ∧ text = text.rdropWhile blank ++ ending := by
  refine ⟨(text.reverse.takeWhile blank).reverse, fun letter member => ?_, ?_⟩
  · exact blank_of_mem_takeWhile (List.mem_reverse.mp member)
  · rw [List.rdropWhile, ← List.reverse_append, List.takeWhile_append_dropWhile,
      List.reverse_reverse]

/-- A text is its firm part with blank space around it. -/
theorem exists_pad (blank : α → Bool) (text : List α) : ∃ left right : List α,
    (∀ letter ∈ left, blank letter = true) ∧ (∀ letter ∈ right, blank letter = true) ∧
      text = left ++ trim blank text ++ right := by
  refine ⟨text.takeWhile blank, (((text.dropWhile blank).reverse).takeWhile blank).reverse, ?_, ?_,
    ?_⟩
  · exact fun letter member => blank_of_mem_takeWhile member
  · exact fun letter member => blank_of_mem_takeWhile (List.mem_reverse.mp member)
  · rw [trim, List.append_assoc, ← List.reverse_append, List.takeWhile_append_dropWhile,
      List.reverse_reverse, List.takeWhile_append_dropWhile]

/-- The firm part of a text is firm. -/
theorem firm_trim (text : List α) : Firm blank (trim blank text) := by
  constructor
  · intro first found
    have begins : trim blank text <+: text.dropWhile blank := by
      have ends := List.dropWhile_suffix (l := (text.dropWhile blank).reverse) blank
      rw [trim, ← List.reverse_suffix, List.reverse_reverse]
      exact ends
    obtain ⟨more, split⟩ := begins
    have whole : (text.dropWhile blank).head? = some first := by
      rw [← split, List.head?_append, found]
      rfl
    exact head?_dropWhile whole
  · intro last found
    rw [trim, List.getLast?_reverse] at found
    exact head?_dropWhile found

/-- Nothing is dropped up to a character that is not blank, when the text does not begin with a
blank one. -/
theorem trim_append_cons {letter : α} (present : text ≠ [])
    (firm : ∀ first, text.head? = some first → blank first = false) (solid : blank letter = false)
    (rest : List α) : ∃ kept, trim blank (text ++ letter :: rest) = text ++ letter :: kept := by
  have ends : ∀ before after : List α, ∃ kept,
      (before ++ letter :: after).dropWhile blank = kept ++ letter :: after := by
    intro before after
    induction before with
    | nil => exact ⟨[], List.dropWhile_cons_of_neg (by simp [solid])⟩
    | cons first others step =>
      by_cases space : blank first = true
      · rw [List.cons_append, List.dropWhile_cons_of_pos space]
        exact step
      · exact ⟨first :: others, List.dropWhile_cons_of_neg space⟩
  have begins : (text ++ letter :: rest).dropWhile blank = text ++ letter :: rest := by
    refine dropWhile_eq_self fun first found => firm first ?_
    rwa [List.head?_append_of_ne_nil _ present] at found
  obtain ⟨kept, dropped⟩ := ends rest.reverse text.reverse
  refine ⟨kept.reverse, ?_⟩
  have reversed : (text ++ letter :: rest).reverse = rest.reverse ++ letter :: text.reverse := by
    simp
  rw [trim, begins, reversed, dropped]
  simp

/-- Dropping makes a text no longer. -/
theorem length_trim_le (text : List α) : (trim blank text).length ≤ text.length := by
  obtain ⟨left, right, -, -, padded⟩ := exists_pad blank text
  have length := congrArg List.length padded
  rw [List.length_append, List.length_append] at length
  omega

/-- Changing the characters commutes with dropping the blank ones, if blank ones stay so and others
do not become so. -/
theorem trim_map {change : α → α} (kept : ∀ letter, blank (change letter) = blank letter)
    (text : List α) : trim blank (text.map change) = (trim blank text).map change := by
  have same : (blank ∘ change) = blank := funext kept
  rw [trim, List.dropWhile_map, same, ← List.map_reverse, List.dropWhile_map, same,
    ← List.map_reverse, trim]

end

/-- Characters of Unicode that are white space. -/
def isWhitespace (character : Char) : Bool :=
  let code := character.toNat
  (9 ≤ code && code ≤ 13) || code == 0x20 || code == 0x85 || code == 0xA0 || code == 0x1680 ||
    (0x2000 ≤ code && code ≤ 0x200A) || code == 0x2028 || code == 0x2029 || code == 0x202F ||
    code == 0x205F || code == 0x3000

/-- Drop white space at both ends. -/
def strip (text : List Char) : List Char := trim isWhitespace text

/-- Characters that open and close brackets, and characters that separate parts. -/
structure Brackets (α : Type) where
  opens : α → Bool
  closes : α → Bool
  separates : α → Bool
  /-- What closes a bracket opens none. -/
  opens_of_closes : ∀ letter, closes letter = true → opens letter = false
  /-- What separates is no bracket. -/
  plain_of_separates : ∀ letter, separates letter = true →
    opens letter = false ∧ closes letter = false

namespace Brackets

variable {α : Type} (brackets : Brackets α)

/-- Split a text at the separators that stand outside of brackets, from a depth of brackets and what
stands, in reverse, since the last of these separators. -/
def split (depth : Int) (current : List α) : List α → List (List α)
  | [] => [current.reverse]
  | letter :: rest =>
    if brackets.opens letter then split (depth + 1) (letter :: current) rest
    else if brackets.closes letter then split (depth - 1) (letter :: current) rest
    else if brackets.separates letter && decide (depth = 0) then
      current.reverse :: split depth [] rest
    else split depth (letter :: current) rest

/-- A text whose brackets close in order; with `top`, separators stand only between brackets. -/
inductive Balanced : Bool → List α → Prop
  | nil (top : Bool) : Balanced top []
  | letter (top : Bool) (letter : α) (rest : List α) (opens : brackets.opens letter = false)
      (closes : brackets.closes letter = false)
      (inside : top = true → brackets.separates letter = false) (more : Balanced top rest) :
      Balanced top (letter :: rest)
  | group (top : Bool) (first last : α) (inner rest : List α)
      (opens : brackets.opens first = true) (closes : brackets.closes last = true)
      (within : Balanced false inner) (more : Balanced top rest) :
      Balanced top (first :: (inner ++ last :: rest))

variable {brackets}

variable {top : Bool} {text : List α}

theorem Balanced.append {first second : List α} (one : brackets.Balanced top first)
    (other : brackets.Balanced top second) : brackets.Balanced top (first ++ second) := by
  induction one with
  | nil => exact other
  | letter top letter rest opens closes inside _ step =>
    exact .letter top letter _ opens closes inside (step other)
  | group top open_ close inner rest opens closes within _ _ step =>
    have longer := Balanced.group top open_ close inner _ opens closes within (step other)
    simpa using longer

/-- A text with separators only between brackets is balanced. -/
theorem Balanced.weaken (balanced : brackets.Balanced top text) :
    brackets.Balanced false text := by
  induction balanced with
  | nil => exact .nil false
  | letter _ letter rest opens closes _ _ step => exact .letter _ _ _ opens closes nofun step
  | group _ open_ close inner rest opens closes within _ _ step =>
    exact .group _ _ _ _ _ opens closes within step

theorem Balanced.of_plain

    (plain : ∀ letter ∈ text, brackets.opens letter = false ∧ brackets.closes letter = false ∧
      brackets.separates letter = false) :
    brackets.Balanced top text := by
  induction text with
  | nil => exact .nil top
  | cons letter rest step =>
    obtain ⟨opens, closes, inside⟩ := plain letter List.mem_cons_self
    exact .letter _ _ _ opens closes (fun _ => inside)
      (step fun other member => plain other (List.mem_cons_of_mem _ member))

/-- Splitting passes over a balanced text, when it is in brackets or the text has no separators
outside of its own. -/
theorem split_balanced (balanced : brackets.Balanced top text) {depth : Int} (outside : 0 ≤ depth)
    (inside : top = false → 1 ≤ depth) (current rest : List α) :
    brackets.split depth current (text ++ rest) =
      brackets.split depth (text.reverse ++ current) rest := by
  induction balanced generalizing depth current rest with
  | nil => rfl
  | letter top letter more opens closes apart _ step =>
    have stays : (brackets.separates letter && decide (depth = 0)) = false := by
      cases top with
      | false =>
        have deep := inside rfl
        simp only [show depth ≠ 0 by omega, decide_false, Bool.and_false]
      | true => rw [apart rfl, Bool.false_and]
    rw [List.cons_append, split, opens, closes, stays]
    simp only [Bool.false_eq_true, if_false]
    rw [step outside inside, List.reverse_cons, List.append_assoc]
    rfl
  | group top first last inner more opens closes _ _ within step =>
    have shallow := brackets.opens_of_closes last closes
    have shape : first :: (inner ++ last :: more) ++ rest =
        first :: (inner ++ (last :: (more ++ rest))) := by simp
    rw [shape, split, opens, if_pos rfl, within (by omega) (fun _ => by omega), split, shallow,
      closes]
    simp only [Bool.false_eq_true, if_false, if_true, Int.add_sub_cancel]
    rw [step outside inside]
    simp

/-- Two balanced texts with a separator between them are split into the two. -/
theorem split_pair {first second : List α} {letter : α} (one : brackets.Balanced true first)
    (other : brackets.Balanced true second) (separates : brackets.separates letter = true) :
    brackets.split 0 [] (first ++ letter :: second) = [first, second] := by
  obtain ⟨opens, closes⟩ := brackets.plain_of_separates letter separates
  have final := split_balanced other (Int.le_refl 0) nofun [] []
  rw [split_balanced one (Int.le_refl 0) nofun, split, opens, closes, separates]
  rw [List.append_nil] at final
  simp [final, split]

/-- A part is no longer than the text. -/
theorem length_le_of_mem_split {depth : Int} {current part : List α}
    (member : part ∈ brackets.split depth current text) :
    part.length ≤ current.length + text.length := by
  induction text generalizing depth current with
  | nil =>
    cases List.mem_singleton.mp member
    simp
  | cons letter rest step =>
    have next : ∀ depth, part ∈ brackets.split depth (letter :: current) rest →
        part.length ≤ current.length + (letter :: rest).length := by
      intro depth later
      have bound := step later
      rw [List.length_cons] at bound ⊢
      omega
    rw [split] at member
    split at member
    · exact next _ member
    split at member
    · exact next _ member
    split at member
    · rcases List.mem_cons.mp member with rfl | later
      · simp
      · have bound := step later
        rw [List.length_nil] at bound
        rw [List.length_cons]
        omega
    · exact next _ member

end Brackets

end Text
