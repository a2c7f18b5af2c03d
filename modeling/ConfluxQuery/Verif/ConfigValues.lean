import ConfluxQuery.Config.Parse

/-!
# Configured values

When a property line is read as it was written. Cutting off the comment counts every quote of the
line and, between double quotes, passes over what follows a backslash; reading the value knows only
its first and last character. The two agree except before a comment: there an unquoted value must
not leave a quote open, and a value in double quotes must not end in an odd number of backslashes.
-/

namespace ConfluxQuery.Config

open Text

section Quotes

/-- Where a text stands with its quotes. -/
inductive QuoteMode
  | outside
  | single
  | double
  | escape
deriving DecidableEq

/-- Every quote of a text is closed: a single quote by the next one, a double quote by the next one
that does not follow a backslash of its own. -/
def paired : QuoteMode → List Char → Bool
  | .outside, [] => true
  | .outside, character :: rest =>
    paired (if character = '\'' then .single else if character = '"' then .double else .outside)
      rest
  | .single, character :: rest => paired (if character = '\'' then .outside else .single) rest
  | .double, character :: rest =>
    paired (if character = '\\' then .escape else if character = '"' then .outside else .double)
      rest
  | .escape, _ :: rest => paired .double rest
  | _, [] => false

/-- The state of `strip_comment` in each case. -/
def QuoteMode.state : QuoteMode → Quoting
  | .outside => ⟨none, false⟩
  | .single => ⟨some '\'', false⟩
  | .double => ⟨some '"', false⟩
  | .escape => ⟨some '"', true⟩

/-- The state after a text without a comment. -/
def Quoting.after (state : Quoting)
    (text : List Char) : Option Quoting := text.foldlM Quoting.next state

/-- A text that is passed over is kept. -/
theorem stripFrom_append {state final : Quoting} {text : List Char}
    (passed : state.after text = some final) (rest : List Char) :
    stripFrom state (text ++ rest) = text ++ stripFrom final rest := by
  induction text generalizing state with
  | nil =>
    obtain rfl := Option.some.inj passed
    rfl
  | cons character more step =>
    rw [Quoting.after, List.foldlM_cons, Option.bind_eq_bind, Option.bind_eq_some_iff] at passed
    obtain ⟨next, moved, passed⟩ := passed
    rw [List.cons_append, stripFrom, moved, List.cons_append]
    exact congrArg _ (step passed)

/-- A line without a comment is kept. -/
theorem stripFrom_eq_self {state final : Quoting} {text : List Char}
    (passed : state.after text = some final) : stripFrom state text = text := by
  have kept := stripFrom_append passed []
  rwa [List.append_nil, stripFrom, List.append_nil] at kept

theorem after_append (state : Quoting) (first second : List Char) :
    state.after (first ++ second) = (state.after first).bind fun middle => middle.after second := by
  rw [Quoting.after, List.foldlM_append]
  rfl

/-- Outside quotes, characters that are neither quotes nor comment signs change nothing. -/
theorem after_plain {text : List Char}
    (plain : ∀ character ∈ text, character ∉ ['"', '\'', '#']) :
    QuoteMode.outside.state.after text = some QuoteMode.outside.state := by
  induction text with
  | nil => rfl
  | cons character rest step =>
    have other := plain character List.mem_cons_self
    simp only [List.mem_cons, List.not_mem_nil, or_false, not_or] at other
    rw [Quoting.after, List.foldlM_cons, show QuoteMode.outside.state.next character =
      some QuoteMode.outside.state by simp [Quoting.next, QuoteMode.state, other]]
    exact step fun letter member => plain letter (List.mem_cons_of_mem _ member)

/-- One character, in each case. -/
theorem next_state (mode : QuoteMode) {character : Char} (sign : character ≠ '#') :
    ∃ next : QuoteMode, mode.state.next character = some next.state ∧
      ∀ rest, paired mode (character :: rest) = paired next rest := by
  cases mode with
  | outside =>
    by_cases single : character = '\''
    · exact ⟨.single, by simp [Quoting.next, QuoteMode.state, single], by simp [paired, single]⟩
    by_cases double : character = '"'
    · exact ⟨.double, by simp [Quoting.next, QuoteMode.state, double], by simp [paired, double]⟩
    exact ⟨.outside, by simp [Quoting.next, QuoteMode.state, single, double, sign],
      by simp [paired, single, double]⟩
  | single =>
    by_cases single : character = '\''
    · exact ⟨.outside, by simp [Quoting.next, QuoteMode.state, single], by simp [paired, single]⟩
    · refine ⟨.single, ?_, by simp [paired, single]⟩
      simp only [Quoting.next, QuoteMode.state, Option.some_inj]
      simp [single, Ne.symm single]
  | double =>
    by_cases slash : character = '\\'
    · exact ⟨.escape, by simp [Quoting.next, QuoteMode.state, slash], by simp [paired, slash]⟩
    by_cases double : character = '"'
    · exact ⟨.outside, by simp [Quoting.next, QuoteMode.state, double], by simp [paired, double]⟩
    · refine ⟨.double, ?_, by simp [paired, slash, double]⟩
      simp only [Quoting.next, QuoteMode.state, Option.some_inj]
      simp [slash, double, Ne.symm double]
  | escape => exact ⟨.double, by simp [Quoting.next, QuoteMode.state], fun _ => rfl⟩

/-- A text without comment signs is passed over, and leaves no quote open when its quotes are
paired. -/
theorem after_unsigned (mode : QuoteMode) {text : List Char} (unsigned : '#' ∉ text) :
    ∃ final : QuoteMode, mode.state.after text = some final.state ∧
      (paired mode text = true ↔ final = .outside) := by
  induction text generalizing mode with
  | nil => exact ⟨mode, rfl, by cases mode <;> simp [paired]⟩
  | cons character rest step =>
    obtain ⟨sign, others⟩ := not_or.mp (mt List.mem_cons.mpr unsigned)
    obtain ⟨next, moved, same⟩ := next_state mode (Ne.symm sign)
    obtain ⟨final, passed, closes⟩ := step next others
    refine ⟨final, ?_, by rw [same]; exact closes⟩
    rw [Quoting.after, List.foldlM_cons, moved]
    exact passed

/-- Inside quotes a comment sign after a blank is passed over. -/
theorem stripFrom_open {mode : QuoteMode} (opened : mode ≠ .outside) (comment : List Char) :
    ∃ kept, stripFrom mode.state (' ' :: '#' :: comment) = ' ' :: '#' :: kept := by
  cases mode with
  | outside => exact absurd rfl opened
  | single => exact ⟨_, rfl⟩
  | double => exact ⟨_, rfl⟩
  | escape => exact ⟨_, rfl⟩

/-- The text ends in an odd number of backslashes. -/
def endsEscaping (text : List Char) : Bool := (text.reverse.takeWhile (· == '\\')).length % 2 == 1

/-- Between double quotes, a text without one leaves the next character escaped when it ends in an
odd number of backslashes. -/
theorem after_double {text : List Char} (unquoted : '"' ∉ text) :
    QuoteMode.double.state.after text =
      some (if endsEscaping text then QuoteMode.escape.state else QuoteMode.double.state) := by
  induction text using List.reverseRecOn with
  | nil => rfl
  | append_singleton text last step =>
    have other : '"' ≠ last := fun same => unquoted (List.mem_append_right _ (by rw [same]; simp))
    rw [after_append, step fun member => unquoted (List.mem_append_left _ member), Option.bind_some]
    by_cases slash : last = '\\'
    · subst slash
      have flipped : endsEscaping (text ++ ['\\']) = !endsEscaping text := by
        simp only [endsEscaping, List.reverse_append, List.reverse_singleton, List.singleton_append,
          List.takeWhile_cons, beq_self_eq_true, ↓reduceIte, List.length_cons]
        rcases Nat.mod_two_eq_zero_or_one (text.reverse.takeWhile (· == '\\')).length with h | h <;>
          simp [h, Nat.add_mod]
      rw [flipped]
      cases endsEscaping text <;> rfl
    · have free : endsEscaping (text ++ [last]) = false := by
        simp [endsEscaping, slash]
      rw [free]
      cases endsEscaping text
      · simp [Quoting.after, Quoting.next, QuoteMode.state, slash, other, Ne.symm other]
      · simp [Quoting.after, Quoting.next, QuoteMode.state]

theorem after_single {text : List Char} (unquoted : '\'' ∉ text) :
    QuoteMode.single.state.after text = some QuoteMode.single.state := by
  induction text with
  | nil => rfl
  | cons character rest step =>
    obtain ⟨other, others⟩ := not_or.mp (mt List.mem_cons.mpr unquoted)
    rw [Quoting.after, List.foldlM_cons, show QuoteMode.single.state.next character =
      some QuoteMode.single.state by simp [Quoting.next, QuoteMode.state, other, Ne.symm other]]
    exact step others

end Quotes

section Lines

/-- Name characters are small. -/
theorem isNameCharacter_small {character : Char} (valid : isNameCharacter character = true) :
    character.toNat < 128 := by
  simp only [isNameCharacter, Char.isAlphanum, Char.isAlpha, Char.isUpper, Char.isLower,
    Char.isDigit, Bool.or_eq_true, Bool.and_eq_true, decide_eq_true_eq, beq_iff_eq, ge_iff_le,
    UInt32.le_iff_toNat_le] at valid
  have code : character.val.toNat = character.toNat := rfl
  rcases valid with ((((upper | lower) | digit) | rfl) | rfl) | rfl
  all_goals simp at *
  all_goals omega

theorem isNameCharacter_plain {character : Char} (valid : isNameCharacter character = true) :
    Text.isWhitespace character = false ∧ character ∉ ['"', '\'', '#', '=', '['] := by
  have all : ∀ code, code < 128 → isNameCharacter (Char.ofNat code) = true →
      Text.isWhitespace (Char.ofNat code) = false ∧
        Char.ofNat code ∉ ['"', '\'', '#', '=', '['] := by decide +kernel
  have same := all character.toNat (isNameCharacter_small valid)
  rw [Char.ofNat_toNat] at same
  exact same valid

/-- A property name. -/
structure IsName (key : List Char) : Prop where
  present : key ≠ []
  /-- It has name characters alone. -/
  valid : ∀ character ∈ key, isNameCharacter character = true

variable {key : List Char}

/-- A name has no blank space. -/
theorem IsName.firm (name : IsName key) : Firm Text.isWhitespace key :=
  ⟨fun first found => (isNameCharacter_plain (name.valid first (List.mem_of_mem_head? found))).1,
    fun last found => (isNameCharacter_plain (name.valid last (List.mem_of_getLast? found))).1⟩

theorem IsName.after (name : IsName key) : QuoteMode.outside.state.after (key ++ " = ".toList) =
    some QuoteMode.outside.state := by
  refine after_plain fun character member => ?_
  rcases List.mem_append.mp member with inside | between
  · have plain := (isNameCharacter_plain (name.valid character inside)).2
    simp only [List.mem_cons, List.not_mem_nil, or_false, not_or] at plain ⊢
    exact ⟨plain.1, plain.2.1, plain.2.2.1⟩
  · clear member
    revert character
    decide

/-- A property is split at its first equals sign: its name has none. -/
theorem IsName.splitOnce (name : IsName key) (rest : List Char) :
    splitOnce '=' (key ++ ' ' :: '=' :: rest) = some (key ++ [' '], rest) := by
  refine Text.splitOnce_eq_some.mpr ⟨fun member => ?_, by simp⟩
  rcases List.mem_append.mp member with inside | blank
  · have plain := (isNameCharacter_plain (name.valid _ inside)).2
    simp at plain
  · cases List.mem_singleton.mp blank

variable {path : String} {lineNo : Nat} {line rest : List Char} {state : ParseState}
  {opened : String}

/-- A property line stores what its value is read as. -/
theorem parseLine_property (name : IsName key) (inside : state.current = some opened)
    (fresh : String.ofList key ∉ (state.sections.lookup opened).getD ∅)
    (cut : stripComment line = key ++ " = ".toList ++ rest)
    (present : trim Text.isWhitespace rest ≠ []) :
    parseLine path lineNo line state = (parseValue path lineNo (trim Text.isWhitespace rest)).map
      fun value => state.define opened (String.ofList key) ⟨value, lineNo⟩ := by
  obtain ⟨left, right, before, after, padded⟩ := exists_pad Text.isWhitespace rest
  have firm : Firm Text.isWhitespace (trim Text.isWhitespace rest) := firm_trim rest
  generalize trim Text.isWhitespace rest = raw at *
  have kept : trim Text.isWhitespace (stripComment line) =
      key ++ ' ' :: '=' :: ' ' :: (left ++ raw) := by
    have whole : stripComment line = [] ++ (key ++ ' ' :: '=' :: ' ' :: (left ++ raw)) ++
        right := by
      rw [cut, padded]
      simp
    rw [whole]
    refine trim_pad ⟨?_, ?_⟩ (by simp) after
    · intro first found
      rw [List.head?_append_of_ne_nil _ name.present] at found
      exact name.firm.1 first found
    · intro last found
      have ends : (key ++ ' ' :: '=' :: ' ' :: (left ++ raw)).getLast? = raw.getLast? := by
        rw [show key ++ ' ' :: '=' :: ' ' :: (left ++ raw) =
          (key ++ ' ' :: '=' :: ' ' :: left) ++ raw by simp,
          List.getLast?_append_of_ne_nil _ present]
      rw [ends] at found
      exact firm.2 last found
  have head : (key ++ ' ' :: '=' :: ' ' :: (left ++ raw)).head? ≠ some '[' := by
    rw [List.head?_append_of_ne_nil _ name.present]
    intro found
    have plain := (isNameCharacter_plain (name.valid _ (List.mem_of_mem_head? found))).2
    simp at plain
  have value : trim Text.isWhitespace (' ' :: (left ++ raw)) = raw := by
    have space : ∀ letter ∈ ' ' :: left, Text.isWhitespace letter = true := by
      intro letter member
      rcases List.mem_cons.mp member with rfl | other
      · rfl
      · exact before letter other
    rw [← List.append_nil (' ' :: (left ++ raw)), ← List.cons_append]
    exact trim_pad firm space (by simp)
  have property : trim Text.isWhitespace (key ++ [' ']) = key := by
    rw [← List.nil_append key]
    exact trim_pad name.firm (by simp) (by decide)
  have valid : validatePropertyName path lineNo key = .ok () := by
    rw [validatePropertyName, List.isEmpty_eq_false_iff.mpr name.present,
      List.all_eq_true.mpr name.valid]
    rfl
  have some : (key ++ ' ' :: '=' :: ' ' :: (left ++ raw)).isEmpty = false := by
    simp
  simp only [parseLine, kept, some, head, inside, name.splitOnce, property, valid, value,
    Bool.false_eq_true, if_false]
  cases parseValue path lineNo raw with
  | error => rfl
  | ok => exact if_neg fresh

/-- A property stores its value. -/
theorem define_injective {value other : String} (same :
    state.define opened (String.ofList key) ⟨value, lineNo⟩ =
      state.define opened (String.ofList key) ⟨other, lineNo⟩) : value = other := by
  have found := congrArg (fun state : ParseState =>
    (state.sections.lookup opened).bind fun properties => properties.lookup
    (String.ofList key)) same
  simpa [ParseState.define] using found

end Lines

section Values

/-- How a value is written. -/
inductive Writing
  | plain
  | double
  | single
deriving DecidableEq

namespace Writing

/-- The text of a value. -/
def written : Writing → List Char → List Char
  | .plain, value => value
  | .double, value => '"' :: (value ++ ['"'])
  | .single, value => '\'' :: (value ++ ['\''])

/-- The values each way of writing is for. -/
def Admits : Writing → List Char → Prop
  | .plain, value =>
    value ≠ [] ∧ '#' ∉ value ∧ value.head? ≠ some '"' ∧ value.head? ≠ some '\''
  | .double, value => '"' ∉ value
  | .single, value => '\'' ∉ value

instance (writing : Writing) (value : List Char) : Decidable (writing.Admits value) := by
  cases writing <;> unfold Admits <;> infer_instance

/-- The values that are misread when a comment follows. -/
def Misread : Writing → List Char → Prop
  | .plain, value => paired .outside value = false
  | .double, value => endsEscaping value = true
  | .single, _ => False

instance (writing : Writing) (value : List Char) : Decidable (writing.Misread value) := by
  cases writing <;> unfold Misread <;> infer_instance

end Writing

/-- A property line with or without a comment. -/
def propertyLine (key written : List Char) : Option (List Char) → List Char
  | none => key ++ " = ".toList ++ written
  | some comment => key ++ " = ".toList ++ (written ++ ' ' :: '#' :: ' ' :: comment)

variable {key value : List Char} {writing : Writing}

/-- What is left of a property line without its comment. -/
theorem stripComment_property (name : IsName key) (rest : List Char) :
    stripComment (key ++ " = ".toList ++ rest) =
      key ++ " = ".toList ++ stripFrom QuoteMode.outside.state rest :=
  stripFrom_append name.after rest

/-- A written value is passed over, and closes its quotes unless it is misread. -/
theorem after_written (admits : writing.Admits value) : ∃ final : QuoteMode,
    QuoteMode.outside.state.after (writing.written value) = some final.state ∧
      (writing.Misread value ↔ final ≠ .outside) := by
  cases writing with
  | plain =>
    obtain ⟨final, passed, closes⟩ := after_unsigned .outside admits.2.1
    exact ⟨final, passed, by rw [Ne, ← closes]; simp [Writing.Misread]⟩
  | double =>
    have passed : QuoteMode.outside.state.after (Writing.double.written value) =
        (QuoteMode.double.state.after value).bind fun middle => middle.after ['"'] :=
      after_append QuoteMode.double.state value ['"']
    rw [passed, after_double admits]
    cases escapes : endsEscaping value with
    | false => exact ⟨.outside, rfl, by simp [Writing.Misread, escapes]⟩
    | true => exact ⟨.double, rfl, by simp [Writing.Misread, escapes]⟩
  | single =>
    have passed : QuoteMode.outside.state.after (Writing.single.written value) =
        (QuoteMode.single.state.after value).bind fun middle => middle.after ['\''] :=
      after_append QuoteMode.single.state value ['\'']
    rw [passed, after_single admits]
    exact ⟨.outside, rfl, by simp [Writing.Misread]⟩

/-- A written value is not empty and has no blank space around it. -/
theorem firm_written (firm : Firm Text.isWhitespace value) (admits : writing.Admits value) :
    writing.written value ≠ [] ∧ Firm Text.isWhitespace (writing.written value) := by
  have quoted : ∀ quote : Char, Text.isWhitespace quote = false →
      Firm Text.isWhitespace (quote :: (value ++ [quote])) := by
    intro quote solid
    refine ⟨fun first found => ?_, fun last found => ?_⟩
    · obtain rfl := Option.some.inj found
      exact solid
    · rw [← List.cons_append, List.getLast?_concat] at found
      obtain rfl := Option.some.inj found
      exact solid
  cases writing with
  | plain => exact ⟨admits.1, firm⟩
  | double => exact ⟨nofun, quoted '"' rfl⟩
  | single => exact ⟨nofun, quoted '\'' rfl⟩

/-- A value without quotes around it does not begin with one. -/
theorem Writing.Admits.unquoted (admits : Writing.plain.Admits value) :
    ∃ first rest, value = first :: rest ∧ ¬ (first = '"' ∨ first = '\'') := by
  obtain ⟨present, -, double, single⟩ := admits
  cases value with
  | nil => exact absurd rfl present
  | cons first rest =>
    refine ⟨first, rest, rfl, ?_⟩
    rintro (rfl | rfl)
    · exact double rfl
    · exact single rfl

theorem parseValue_written (path : String) (lineNo : Nat) (admits : writing.Admits value) :
    parseValue path lineNo (writing.written value) = .ok (String.ofList value) := by
  cases writing with
  | plain =>
    obtain ⟨first, rest, rfl, other⟩ := admits.unquoted
    exact if_neg other
  | double => simp [parseValue, Writing.written]
  | single => simp [parseValue, Writing.written]

/-- A written value with more after it is not read as the value. -/
theorem parseValue_longer (path : String) (lineNo : Nat) (admits : writing.Admits value)
    (more : List Char) :
    parseValue path lineNo (writing.written value ++ ' ' :: '#' :: more) ≠
      .ok (String.ofList value) := by
  have longer : ∀ (quote : Char) (rest : List Char),
      (value ++ quote :: ' ' :: '#' :: rest).dropLast ≠ value := by
    intro quote rest same
    have length := congrArg List.length same
    simp at length
  cases writing with
  | plain =>
    obtain ⟨first, rest, rfl, other⟩ := admits.unquoted
    intro same
    rw [Writing.written, List.cons_append, parseValue, if_neg other] at same
    have length := congrArg (fun text : String => text.toList.length) (Except.ok.inj same)
    simp at length
  | double | single =>
    intro same
    simp only [Writing.written, List.cons_append, List.append_assoc, List.nil_append, parseValue,
      true_or, or_true, if_true] at same
    split at same
    · cases same
    · exact longer _ more (String.ofList_injective (Except.ok.inj same))

/-- A property line inside a section stores its value as it was written, except before a comment
when an unquoted value leaves a quote open or a value in double quotes ends in an odd number of
backslashes. -/
theorem configured_value_read_iff (path : String) (lineNo : Nat) (state : ParseState)
    (opened : String) (inside : state.current = some opened) (key : List Char) (name : IsName key)
    (fresh : String.ofList key ∉ (state.sections.lookup opened).getD ∅)
    (writing : Writing) (value : List Char) (firm : Firm Text.isWhitespace value)
    (admits : writing.Admits value) (comment : Option (List Char)) :
    parseLine path lineNo (propertyLine key (writing.written value) comment) state =
        .ok (state.define opened (String.ofList key) ⟨String.ofList value, lineNo⟩) ↔
      ¬ (comment.isSome = true ∧ writing.Misread value) := by
  obtain ⟨present, around⟩ := firm_written firm admits
  obtain ⟨final, passed, misread⟩ := after_written admits
  have read : ∀ line rest, stripComment line = key ++ " = ".toList ++ rest →
      trim Text.isWhitespace rest = writing.written value →
      parseLine path lineNo line state =
        .ok (state.define opened (String.ofList key) ⟨String.ofList value, lineNo⟩) := by
    intro line rest cut trimmed
    rw [parseLine_property name inside fresh cut (by rw [trimmed]; exact present), trimmed,
      parseValue_written path lineNo admits]
    rfl
  cases comment with
  | none =>
    refine iff_of_true (read _ (writing.written value) ?_ (trim_eq_self around)) (by simp)
    rw [propertyLine, stripComment_property name, stripFrom_eq_self passed]
  | some comment =>
    have cut := stripComment_property name (writing.written value ++ ' ' :: '#' :: ' ' :: comment)
    rw [stripFrom_append passed] at cut
    by_cases closed : final = .outside
    · refine iff_of_true (read _ _ cut ?_) (by simp [misread, closed])
      subst closed
      rw [← List.nil_append (writing.written value)]
      have space : ∀ letter ∈ [' '], Text.isWhitespace letter = true := by decide
      exact trim_pad around (by simp) space
    · -- A quote is open: the comment stays, and the value is longer or an error.
      obtain ⟨kept, strip⟩ := stripFrom_open closed (' ' :: comment)
      rw [strip] at cut
      have begins : ∀ first, (writing.written value ++ [' ']).head? = some first →
          Text.isWhitespace first = false := by
        intro first found
        rw [List.head?_append_of_ne_nil _ present] at found
        exact around.1 first found
      have solid : Text.isWhitespace '#' = false := rfl
      obtain ⟨tail, trimmed⟩ := trim_append_cons (by simp) begins solid kept
      rw [List.append_assoc, List.singleton_append, List.append_assoc, List.singleton_append]
        at trimmed
      refine iff_of_false (fun same => ?_) (by simp [misread, closed])
      rw [propertyLine, parseLine_property name inside fresh cut (by rw [trimmed]; simp), trimmed]
        at same
      refine parseValue_longer path lineNo admits tail ?_
      cases parsed : parseValue path lineNo (writing.written value ++ ' ' :: '#' :: tail) with
      | error => rw [parsed] at same; cases same
      | ok other =>
        rw [parsed] at same
        rw [define_injective (Except.ok.inj same)]

theorem noneOpen : ∀ name : String, none = some name →
    name ∈ (∅ : Registry String (Registry String ParsedValue)) := by
  intro name same
  cases same

/-- A section that was just opened. -/
def openSection : ParseState := ParseState.enter ⟨∅, none, noneOpen⟩ "trino"

/-- A value in quotes keeps its number sign, and the comment after it is cut off. -/
theorem configured_value_read_quoted :
    parseLine "" 2 (propertyLine "prompt".toList (Writing.double.written "value # kept".toList)
      (some "removed".toList)) openSection =
        .ok (openSection.define "trino" (String.ofList "prompt".toList)
          ⟨String.ofList "value # kept".toList, 2⟩) :=
  (configured_value_read_iff "" 2 openSection "trino" rfl "prompt".toList
    ⟨by decide, by decide⟩ (by decide) .double "value # kept".toList (by decide) (by decide)
    (some "removed".toList)).mpr (by decide)

/-- A password with an apostrophe takes the comment that follows it for a part of it. -/
theorem configured_apostrophe_keeps_comment :
    ((parseLine "" 2 (propertyLine "password".toList (Writing.plain.written "it's".toList)
      (some "mine".toList)) openSection).toOption.bind fun state =>
        (state.sections.lookup "trino").bind fun properties => properties.lookup "password") =
      some ⟨"it's # mine", 2⟩ := by
  decide

end Values

end ConfluxQuery.Config
