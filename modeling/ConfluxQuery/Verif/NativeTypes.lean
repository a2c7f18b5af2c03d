import ConfluxQuery.Flight.NativeTypes
import Mathlib

/-!
# The parser of native types is compositional

Type expressions over the names the parser recognises, decimals with a precision and a scale, arrays
and maps with either kind of brackets, and texts the parser does not recognise; and the ways to
print them, in any case and with any blank space around names, brackets and commas. However an
expression is printed, the parser finds the Arrow type that its structure gives.
-/

namespace ConfluxQuery.NativeTypes

/-- A character in lower case is the character, or the character was an upper case letter. -/
theorem toLower_cases (letter : Char) :
    letter.toLower = letter ∨ letter ∈ "ABCDEFGHIJKLMNOPQRSTUVWXYZ".toList := by
  unfold Char.toLower
  split
  · next upper =>
    have least : 65 ≤ letter.toNat := UInt32.le_iff_toNat_le.mp upper.1
    have most : letter.toNat ≤ 90 := UInt32.le_iff_toNat_le.mp upper.2
    refine .inr ?_
    rw [← Char.ofNat_toNat letter]
    generalize letter.toNat = code at least most
    interval_cases code <;> decide
  · exact .inl rfl

variable {test : Char → Bool} {name : String} {word left right : List Char}

/-- A test that no letter passes is the same in lower case. -/
theorem toLower_test
    (letters : ∀ letter ∈ "ABCDEFGHIJKLMNOPQRSTUVWXYZ".toList, test letter.toLower = test letter)
    (letter : Char) :
    test letter.toLower = test letter := by
  rcases toLower_cases letter with same | upper
  · rw [same]
  · exact letters letter upper

@[simp] theorem isWhitespace_toLower (letter : Char) :
    Text.isWhitespace letter.toLower = Text.isWhitespace letter :=
  toLower_test (by decide) letter

@[simp] theorem opens_toLower (letter : Char) :
    brackets.opens letter.toLower = brackets.opens letter :=
  toLower_test (by decide) letter

@[simp] theorem closes_toLower (letter : Char) :
    brackets.closes letter.toLower = brackets.closes letter :=
  toLower_test (by decide) letter

@[simp] theorem separates_toLower (letter : Char) :
    brackets.separates letter.toLower = brackets.separates letter :=
  toLower_test (by decide) letter

/-- Lower case is its own lower case. -/
theorem toLower_toLower (letter : Char) : letter.toLower.toLower = letter.toLower := by
  rcases toLower_cases letter with same | upper
  · rw [same, same]
  · revert letter
    decide

/-- A text in lower case. -/
abbrev lower (text : List Char) : List Char := text.map Char.toLower

/-- Blank space. -/
def Space (text : List Char) : Prop := ∀ letter ∈ text, Text.isWhitespace letter = true

instance (text : List Char) : Decidable (Space text) :=
  inferInstanceAs (Decidable (∀ letter ∈ text, Text.isWhitespace letter = true))

/-- A text that is its own firm part. -/
abbrev Firm (text : List Char) : Prop := Text.Firm Text.isWhitespace text

theorem lower_eq_self {text : List Char}
    (letters : ∀ letter ∈ "ABCDEFGHIJKLMNOPQRSTUVWXYZ".toList, test letter = false)
    (passed : ∀ letter ∈ text, test letter = true) : lower text = text := by
  refine (List.map_congr_left fun letter member => ?_).trans (List.map_id _)
  rcases toLower_cases letter with same | upper
  · exact same
  · have failed := letters letter upper
    rw [passed letter member] at failed
    cases failed

theorem lower_space {text : List Char} (space : Space text) : lower text = text :=
  lower_eq_self (by decide) space

/-- Normalising forgets the blank space around a firm text. -/
theorem normalize_pad {before text after : List Char} (firm : Firm text) (left : Space before)
    (right : Space after) : normalize (before ++ text ++ after) = lower text := by
  rw [normalize, Text.strip]
  exact congrArg lower (Text.trim_pad firm left right)

theorem normalize_lower (text : List Char) : normalize (lower text) = normalize text := by
  have trimmed : Text.strip (lower text) = lower (Text.strip text) :=
    Text.trim_map isWhitespace_toLower text
  rw [normalize, trimmed, normalize, List.map_map]
  exact List.map_congr_left fun letter _ => toLower_toLower letter

/-- Normalising forgets the blank space around a text. -/
theorem normalize_trim (text : List Char) : normalize (Text.strip text) = normalize text := by
  have again : Text.strip (Text.strip text) = Text.strip text :=
    Text.trim_eq_self (Text.firm_trim text)
  rw [normalize, again, normalize]

theorem arrowType_congr {first second : List Char} (same : normalize first = normalize second) :
    arrowType first = arrowType second := by
  rw [arrowType, arrowType, same]

/-- The two kinds of brackets. -/
inductive Pair : Char → Char → Prop
  | round : Pair '(' ')'
  | angle : Pair '<' '>'

/-- The first bracket of a pair opens. -/
theorem Pair.opens {opening closing : Char} (pair : Pair opening closing) :
    brackets.opens opening = true := by
  cases pair <;> rfl

theorem Pair.closes {opening closing : Char} (pair : Pair opening closing) :
    brackets.closes closing = true := by
  cases pair <;> rfl

/-- A text in brackets is firm. -/
theorem Pair.firm {opening closing : Char} (pair : Pair opening closing) (inner : List Char) :
    Firm (opening :: (inner ++ [closing])) := by
  constructor
  · intro first found
    cases found
    cases pair <;> decide
  · intro last found
    rw [← List.cons_append, List.getLast?_concat] at found
    cases found
    cases pair <;> decide

theorem Pair.bracketed {opening closing : Char} (pair : Pair opening closing) (inner : List Char) :
    bracketed (opening :: (inner ++ [closing])) = true := by
  have ends : (opening :: (inner ++ [closing])).getLast? = some closing := by
    rw [← List.cons_append, List.getLast?_concat]
  unfold NativeTypes.bracketed
  rw [ends]
  cases pair <;> rfl

/-- The arguments behind a name are what stands in the brackets. -/
theorem typeArguments_application {gap : List Char} {opening closing : Char}
    (pair : Pair opening closing) (space : Space gap) (name inner : List Char) :
    ∃ shorter, typeArguments (name ++ (gap ++ opening :: (inner ++ [closing]))) name =
      some ⟨inner, shorter⟩ := by
  have trimmed : Text.strip (gap ++ opening :: (inner ++ [closing])) =
      opening :: (inner ++ [closing]) := by
    have padded : Text.strip (gap ++ opening :: (inner ++ [closing]) ++ []) = _ :=
      Text.trim_pad (pair.firm inner) space nofun
    rwa [List.append_nil] at padded
  refine ⟨by simp; omega, ?_⟩
  unfold typeArguments
  split
  · next missing =>
    cases missing.symm.trans (List.isPrefixOf?_eq_some_iff_append_eq.mpr rfl)
  · next rest found =>
    cases found.symm.trans (List.isPrefixOf?_eq_some_iff_append_eq.mpr rfl)
    rw [dif_pos (by rw [trimmed]; exact pair.bracketed inner)]
    simp [trimmed]

/-- A text in brackets begins with one. -/
theorem bracketed_cons {text : List Char} (inBrackets : bracketed text = true) :
    ∃ opening rest, text = opening :: rest ∧ brackets.opens opening = true := by
  cases text with
  | nil => cases inBrackets
  | cons opening rest =>
    refine ⟨opening, rest, rfl, ?_⟩
    simp only [bracketed, List.head?_cons, Bool.or_eq_true, Bool.and_eq_true, beq_iff_eq,
      Option.some.injEq] at inBrackets
    rcases inBrackets with ⟨rfl, -⟩ | ⟨rfl, -⟩ <;> rfl

/-- What has arguments is the name with an opening bracket behind it. -/
theorem application_of_typeArguments {value name : List Char}
    {inner : {inner : List Char // inner.length < value.length}}
    (found : typeArguments value name = some inner) :
    ∃ gap opening rest, Space gap ∧ brackets.opens opening = true ∧
      value = name ++ (gap ++ opening :: rest) := by
  unfold typeArguments at found
  split at found
  · cases found
  · next rest starts =>
    split at found
    · next inBrackets =>
      obtain ⟨left, right, space, -, padded⟩ := Text.exists_pad Text.isWhitespace rest
      change rest = left ++ Text.strip rest ++ right at padded
      obtain ⟨opening, more, begins, opens⟩ := bracketed_cons inBrackets
      rw [begins] at padded
      refine ⟨left, opening, more ++ right, space, opens, ?_⟩
      rw [← List.isPrefixOf?_eq_some_iff_append_eq.mp starts, padded]
      simp
    · cases found

/-- A character is plain when it is no bracket and no comma. -/
def Plain (letter : Char) : Prop :=
  brackets.opens letter = false ∧ brackets.closes letter = false ∧
    brackets.separates letter = false

/-- What passes a test that brackets and commas fail is plain. -/
theorem plain_of_test (fail : ∀ letter ∈ "(<)>,".toList, test letter = false) {letter : Char}
    (passed : test letter = true) : Plain letter := by
  have other : letter ∉ "(<)>,".toList := fun member => by
    rw [fail letter member] at passed
    cases passed
  simpa [Plain, brackets, and_assoc] using other

theorem Plain.not_mem {letter : Char} (plain : Plain letter) : letter ∉ "(<)>,".toList := by
  simpa [Plain, brackets, and_assoc] using plain

theorem plain_of_space {letter : Char} (space : Text.isWhitespace letter = true) : Plain letter :=
  plain_of_test (by decide) space

/-- The name before the first bracket of an application is the name applied. -/
theorem baseName_application {name gap rest : List Char} {opening : Char} (firm : Firm name)
    (plain : ∀ letter ∈ name, brackets.opens letter = false) (space : Space gap)
    (opens : brackets.opens opening = true) :
    baseName (name ++ (gap ++ opening :: rest)) = name := by
  have taken : (name ++ (gap ++ opening :: rest)).takeWhile (fun letter => !brackets.opens letter) =
      name ++ gap := by
    rw [← List.append_assoc, List.takeWhile_append_of_pos, List.takeWhile_cons_of_neg,
      List.append_nil]
    · simp [opens]
    · intro letter member
      rcases List.mem_append.mp member with named | blank
      · rw [plain letter named]
        rfl
      · rw [(plain_of_space (space letter blank)).1]
        rfl
  have padded : Text.trim Text.isWhitespace ([] ++ name ++ gap) = name :=
    Text.trim_pad firm nofun space
  rw [baseName, taken]
  exact padded

/-- What has another name before its first bracket has no arguments. -/
theorem typeArguments_eq_none {value name : List Char} (firm : Firm name)
    (plain : ∀ letter ∈ name, brackets.opens letter = false) (other : baseName value ≠ name) :
    typeArguments value name = none := by
  cases found : typeArguments value name with
  | none => rfl
  | some inner =>
    obtain ⟨gap, opening, rest, space, opens, rfl⟩ := application_of_typeArguments found
    exact absurd (baseName_application firm plain space opens) other

theorem mapArguments_application {gap first second : List Char} {opening closing : Char}
    (pair : Pair opening closing) (space : Space gap) (one : brackets.Balanced true first)
    (other : brackets.Balanced true second) :
    ∃ shorter, mapArguments
        ("map".toList ++ (gap ++ opening :: ((first ++ ',' :: second) ++ [closing]))) =
      some ⟨(Text.strip first, Text.strip second), shorter⟩ := by
  obtain ⟨within, found⟩ :=
    typeArguments_application pair space "map".toList (first ++ ',' :: second)
  have parts : splitTopLevel (first ++ ',' :: second) = [Text.strip first, Text.strip second] := by
    rw [splitTopLevel, Text.Brackets.split_pair one other rfl]
    rfl
  have kept : (Text.strip first).length ≤ first.length ∧
      (Text.strip second).length ≤ second.length :=
    ⟨Text.length_trim_le first, Text.length_trim_le second⟩
  refine ⟨by simp; omega, ?_⟩
  unfold mapArguments
  rw [found]
  dsimp only
  split
  · next key value same =>
    cases same.symm.trans parts
    rfl
  · next different => exact absurd parts (different _ _)

/-- An array is parsed from what stands in its brackets. -/
theorem arrowType_array {text gap inner : List Char} {opening closing : Char}
    (pair : Pair opening closing) (space : Space gap)
    (applied : normalize text = "array".toList ++ (gap ++ opening :: (inner ++ [closing]))) :
    arrowType text = .list ⟨"item", arrowType inner, true⟩ := by
  obtain ⟨shorter, found⟩ := typeArguments_application pair space "array".toList inner
  rw [arrowType, applied, found]

theorem arrowType_map {text gap first second : List Char} {opening closing : Char}
    (pair : Pair opening closing) (space : Space gap) (one : brackets.Balanced true first)
    (other : brackets.Balanced true second)
    (applied : normalize text =
      "map".toList ++ (gap ++ opening :: ((first ++ ',' :: second) ++ [closing]))) :
    arrowType text =
      .mapOf ⟨"key", arrowType first, false⟩ ⟨"value", arrowType second, true⟩ := by
  obtain ⟨shorter, found⟩ := mapArguments_application pair space one other
  have named : baseName (normalize text) = "map".toList := by
    rw [applied]
    exact baseName_application (by decide) (by decide) space pair.opens
  have absent : typeArguments (normalize text) "array".toList = none :=
    typeArguments_eq_none (by decide) (by decide) (by rw [named]; decide)
  have unlike : normalize text ≠ "array".toList := fun same => by
    rw [same] at named
    cases named
  rw [arrowType, absent]
  dsimp only
  rw [if_neg unlike, applied, found]
  dsimp only
  rw [arrowType_congr (normalize_trim first), arrowType_congr (normalize_trim second)]

/-- What is named neither array, map nor object is told by its name. -/
theorem arrowType_base {text : List Char}
    (other : baseName (normalize text) ∉ ["array".toList, "map".toList, "object".toList]) :
    arrowType text = baseType (normalize text) := by
  simp only [List.mem_cons, List.not_mem_nil, or_false, not_or] at other
  obtain ⟨array, map, object⟩ := other
  have bare : mapArguments (normalize text) = none := by
    unfold mapArguments
    rw [typeArguments_eq_none (by decide) (by decide) map]
  have unlike : ∀ name : List Char, baseName name = name → baseName (normalize text) ≠ name →
      normalize text ≠ name := fun name named different same => by
    rw [same] at different
    exact different named
  rw [arrowType, typeArguments_eq_none (by decide) (by decide) array]
  dsimp only
  rw [if_neg (unlike _ rfl array), bare]
  dsimp only
  rw [if_neg (not_or.mpr ⟨unlike _ rfl object, unlike _ rfl map⟩)]

/-- The names of types without arguments, and what they mean. -/
def baseNames : List (String × DataType) :=
  [("boolean", .boolean), ("bool", .boolean), ("tinyint", .int8), ("byteint", .int8),
    ("smallint", .int16), ("integer", .int32), ("int", .int32), ("bigint", .int64),
    ("long", .int64), ("real", .float32), ("float", .float32), ("double", .float64),
    ("double precision", .float64), ("binary", .binary), ("varbinary", .binary),
    ("date", .date32), ("timestamp", .timestamp), ("timestamp_ntz", .timestamp),
    ("timestamp_ltz", .timestamp), ("timestamp_tz", .timestamp),
    ("decimal", .decimal128 38 9), ("numeric", .decimal128 38 9), ("number", .decimal128 38 9),
    ("array", .list ⟨"item", .utf8, true⟩),
    ("object", .mapOf ⟨"key", .utf8, false⟩ ⟨"value", .utf8, true⟩),
    ("map", .mapOf ⟨"key", .utf8, false⟩ ⟨"value", .utf8, true⟩)]

/-- The names of decimal types. -/
def decimalNames : List String := ["decimal", "numeric", "number"]

/-- A type expression: a name, a decimal with its precision and its scale, an array, a map, or a
text with balanced brackets and another name before the first of them. -/
inductive TypeExpr
  | base (entry : String × DataType) (known : entry ∈ baseNames)
  | decimal (name : String) (precision : Nat) (scale : Int) (known : name ∈ decimalNames)
      (small : precision < 2 ^ 8) (least : -2 ^ 7 ≤ scale) (most : scale < 2 ^ 7)
  | array (item : TypeExpr)
  | map (key value : TypeExpr)
  | unrecognized (text : List Char) (balanced : brackets.Balanced true text)
      (unknown : String.ofList (baseName (normalize text)) ∉ baseNames.map Prod.fst)

/-- The Arrow type that the structure of an expression gives. -/
def TypeExpr.dataType : TypeExpr → DataType
  | base entry _ => entry.2
  | decimal _ precision scale _ _ _ _ => .decimal128 precision scale
  | array item => .list ⟨"item", item.dataType, true⟩
  | map key value => .mapOf ⟨"key", key.dataType, false⟩ ⟨"value", value.dataType, true⟩
  | unrecognized _ _ _ => .utf8

/-- A word in any case. -/
def Spells (name : String) (word : List Char) : Prop := lower word = name.toList

/-- The texts an expression is printed as. -/
inductive Prints : TypeExpr → List Char → Prop
  | base (entry : String × DataType) (known : entry ∈ baseNames) (before word after : List Char)
      (left : Space before) (spelled : Spells entry.1 word) (right : Space after) :
      Prints (.base entry known) (before ++ word ++ after)
  | decimal (name : String) (precision : Nat) (scale : Int) (known : name ∈ decimalNames)
      (small : precision < 2 ^ 8) (least : -2 ^ 7 ≤ scale) (most : scale < 2 ^ 7)
      (before word gap first second third fourth after : List Char) (left : Space before)
      (spelled : Spells name word) (middle : Space gap) (around₁ : Space first)
      (around₂ : Space second) (around₃ : Space third) (around₄ : Space fourth)
      (right : Space after) :
      Prints (.decimal name precision scale known small least most)
        (before ++ (word ++ (gap ++ '(' :: ((first ++ Numeral.print precision ++ second ++
          ',' :: (third ++ Numeral.printSigned scale ++ fourth)) ++ [')']))) ++ after)
  | array (item : TypeExpr) (before word gap inner after : List Char) (opening closing : Char)
      (left : Space before) (spelled : Spells "array" word) (middle : Space gap)
      (pair : Pair opening closing) (printed : Prints item inner) (right : Space after) :
      Prints (.array item)
        (before ++ (word ++ (gap ++ opening :: (inner ++ [closing]))) ++ after)
  | map (key value : TypeExpr) (before word gap first second after : List Char)
      (opening closing : Char) (left : Space before) (spelled : Spells "map" word)
      (middle : Space gap) (pair : Pair opening closing) (printedKey : Prints key first)
      (printedValue : Prints value second) (right : Space after) :
      Prints (.map key value)
        (before ++ (word ++ (gap ++ opening :: ((first ++ ',' :: second) ++ [closing]))) ++ after)
  | unrecognized (text : List Char) (balanced : brackets.Balanced true text)
      (unknown : String.ofList (baseName (normalize text)) ∉ baseNames.map Prod.fst) :
      Prints (.unrecognized text balanced unknown) text

theorem baseNames_plain : ∀ entry ∈ baseNames, ∀ letter ∈ entry.1.toList,
    brackets.opens letter = false ∧ brackets.closes letter = false ∧
      brackets.separates letter = false := by
  decide

/-- Blank space is balanced. -/
theorem Space.balanced {text : List Char} (space : Space text) : brackets.Balanced true text :=
  .of_plain fun letter member => plain_of_space (space letter member)

/-- Names are balanced in any case. -/
theorem Spells.balanced {entry : String × DataType} (known : entry ∈ baseNames)
    (spelled : Spells entry.1 word) : brackets.Balanced true word := by
  refine .of_plain fun letter member => ?_
  have lowered : letter.toLower ∈ entry.1.toList := by
    rw [← spelled]
    exact List.mem_map_of_mem member
  simpa using baseNames_plain entry known _ lowered

theorem baseNames_firm : ∀ entry ∈ baseNames, Firm entry.1.toList ∧ entry.1.toList ≠ [] := by
  decide

theorem firm_of_lower {text : List Char} (firm : Firm (lower text)) : Firm text := by
  constructor
  · intro first found
    rw [← isWhitespace_toLower]
    exact firm.1 _ (by rw [List.head?_map, found]; rfl)
  · intro last found
    rw [← isWhitespace_toLower]
    exact firm.2 _ (by rw [List.getLast?_map, found]; rfl)

theorem firm_application {gap inner : List Char} {opening closing : Char} (firm : Firm word)
    (some : word ≠ []) (pair : Pair opening closing) :
    Firm (word ++ (gap ++ opening :: (inner ++ [closing]))) := by
  constructor
  · intro first found
    rw [List.head?_append_of_ne_nil _ some] at found
    exact firm.1 first found
  · intro last found
    rw [← List.cons_append, ← List.append_assoc, ← List.append_assoc,
      List.getLast?_concat] at found
    cases found
    exact (pair.firm inner).2 closing (by rw [← List.cons_append, List.getLast?_concat])

theorem Pair.lower {opening closing : Char} (pair : Pair opening closing) :
    opening.toLower = opening ∧ closing.toLower = closing := by
  cases pair <;> exact ⟨rfl, rfl⟩

/-- A printed application is normalised part by part. -/
theorem normalize_application {before gap after : List Char} {opening closing : Char}
    (firm : Firm name.toList) (some : name.toList ≠ []) (left : Space before)
    (spelled : Spells name word) (middle : Space gap) (pair : Pair opening closing)
    (right : Space after) (inner : List Char) :
    normalize (before ++ (word ++ (gap ++ opening :: (inner ++ [closing]))) ++ after) =
      name.toList ++ (gap ++ opening :: (lower inner ++ [closing])) := by
  have present : word ≠ [] := by
    rintro rfl
    exact some spelled.symm
  rw [← spelled] at firm
  rw [normalize_pad (firm_application (firm_of_lower firm) present pair) left right]
  have same : word.map Char.toLower = name.toList := spelled
  have kept : gap.map Char.toLower = gap := lower_space middle
  simp only [lower, List.map_append, List.map_cons, List.map_nil, pair.lower.1, pair.lower.2, same,
    kept]

theorem balanced_lower {top : Bool} {text : List Char} (balanced : brackets.Balanced top text) :
    brackets.Balanced top (lower text) := by
  induction balanced with
  | nil top => exact .nil top
  | letter top letter rest opens closes inside _ step =>
    exact .letter top _ _ (by rwa [opens_toLower]) (by rwa [closes_toLower])
      (fun outer => by rw [separates_toLower]; exact inside outer) step
  | group top first last inner rest opens closes _ _ within more =>
    have grouped := Text.Brackets.Balanced.group top first.toLower last.toLower _ _
      (by rwa [opens_toLower]) (by rwa [closes_toLower]) within more
    simpa [lower] using grouped

/-- A text in brackets is balanced when it is so within them. -/
theorem Pair.balanced {opening closing : Char} (pair : Pair opening closing) {inner : List Char}
    (within : brackets.Balanced false inner) :
    brackets.Balanced true (opening :: (inner ++ [closing])) :=
  .group true opening closing inner [] pair.opens pair.closes within (.nil true)

/-- The characters of printed numbers. -/
def isNumeral (letter : Char) : Bool := letter.isDigit || letter == '-'

theorem isNumeral_of_mem_print {number : Nat} {letter : Char}
    (member : letter ∈ Numeral.print number) : isNumeral letter = true := by
  rw [isNumeral, Numeral.isDigit_of_mem_print member]
  rfl

/-- Signed numbers are printed in digits, behind a sign. -/
theorem isNumeral_of_mem_printSigned {number : Int} {letter : Char}
    (member : letter ∈ Numeral.printSigned number) : isNumeral letter = true := by
  cases number with
  | ofNat number => exact isNumeral_of_mem_print member
  | negSucc number =>
    rcases List.mem_cons.mp member with rfl | digit
    · rfl
    · exact isNumeral_of_mem_print digit

theorem plain_of_isNumeral {letter : Char} (numeral : isNumeral letter = true) : Plain letter :=
  plain_of_test (by decide) numeral

/-- Numbers hold no blank space. -/
theorem isWhitespace_of_isNumeral {letter : Char} (numeral : isNumeral letter = true) :
    Text.isWhitespace letter = false := by
  have code : letter.toNat = 45 ∨ 48 ≤ letter.toNat ∧ letter.toNat ≤ 57 := by
    simp only [isNumeral, Bool.or_eq_true, beq_iff_eq, Char.isDigit, Bool.and_eq_true,
      decide_eq_true_eq] at numeral
    rcases numeral with ⟨least, most⟩ | rfl
    · exact .inr ⟨UInt32.le_iff_toNat_le.mp least, UInt32.le_iff_toNat_le.mp most⟩
    · exact .inl rfl
  simp only [Text.isWhitespace, Bool.or_eq_false_iff, Bool.and_eq_false_iff,
    decide_eq_false_iff_not, beq_eq_false_iff_ne]
  omega

theorem firm_of_isNumeral {text : List Char}
    (numeral : ∀ letter ∈ text, isNumeral letter = true) : Firm text :=
  ⟨fun first found => isWhitespace_of_isNumeral (numeral first (List.mem_of_head? found)),
    fun last found => isWhitespace_of_isNumeral (numeral last (List.mem_of_getLast? found))⟩

/-- A number between blank space: its characters are plain, and the same in lower case, and the
number is its firm part. -/
structure Padded (number text : List Char) : Prop where
  plain : ∀ letter ∈ text, Plain letter
  lowered : lower text = text
  trimmed : Text.strip text = number

theorem Padded.of_isNumeral {number : List Char} (before : Space left)
    (numeral : ∀ letter ∈ number, isNumeral letter = true) (after : Space right) :
    Padded number (left ++ number ++ right) where
  plain letter member := by
    rcases List.mem_append.mp member with early | late
    · rcases List.mem_append.mp early with blank | digit
      · exact plain_of_space (before letter blank)
      · exact plain_of_isNumeral (numeral letter digit)
    · exact plain_of_space (after letter late)
  lowered := by
    have kept : number.map Char.toLower = number := lower_eq_self (by decide) numeral
    have early : left.map Char.toLower = left := lower_space before
    have late : right.map Char.toLower = right := lower_space after
    rw [lower, List.map_append, List.map_append, kept, early, late]
  trimmed := Text.trim_pad (firm_of_isNumeral numeral) before after

theorem Padded.unsigned (before : Space left) (number : Nat) (after : Space right) :
    Padded (Numeral.print number) (left ++ Numeral.print number ++ right) :=
  .of_isNumeral before (fun _ => isNumeral_of_mem_print) after

theorem Padded.signed (before : Space left) (number : Int) (after : Space right) :
    Padded (Numeral.printSigned number) (left ++ Numeral.printSigned number ++ right) :=
  .of_isNumeral before (fun _ => isNumeral_of_mem_printSigned) after

/-- The precision and the scale of a decimal type are found. -/
theorem decimalShape_application {name gap precision first scale second : List Char}
    (plain : ∀ letter ∈ name, Plain letter) (space : Space gap) (one : Padded precision first)
    (other : Padded scale second) :
    decimalShape (name ++ (gap ++ '(' :: ((first ++ ',' :: second) ++ [')']))) = do
      let precision ← Numeral.parseUnsigned (2 ^ 8) precision
      let scale ← Numeral.parseSigned (2 ^ 7) scale
      return (precision, scale) := by
  have opened : (name ++ (gap ++ '(' :: ((first ++ ',' :: second) ++ [')']))).dropWhile (· ≠ '(') =
      '(' :: ((first ++ ',' :: second) ++ [')']) := by
    rw [← List.append_assoc, Text.dropWhile_append, List.dropWhile_cons_of_neg (by simp)]
    intro letter member
    have other : Plain letter := (List.mem_append.mp member).elim (plain letter)
      fun blank => plain_of_space (space letter blank)
    have different := other.not_mem
    simp at different ⊢
    exact different.1
  have closed : (((first ++ ',' :: second) ++ [')']).reverse.dropWhile (· == ')')).reverse =
      first ++ ',' :: second := by
    rw [List.reverse_append, List.reverse_singleton, List.singleton_append,
      List.dropWhile_cons_of_pos (by simp), Text.dropWhile_eq_self, List.reverse_reverse]
    intro last found
    rw [List.head?_reverse, List.getLast?_append_of_ne_nil _ (List.cons_ne_nil _ _)] at found
    rcases List.mem_cons.mp (List.mem_of_getLast? found) with rfl | held
    · rfl
    · have different := (other.plain last held).not_mem
      simp at different ⊢
      exact different.2.2.1
  have parts : (first ++ ',' :: second).splitOn ',' = [first, second] := by
    have apart : ∀ text : List Char, (∀ letter ∈ text, Plain letter) →
        ∀ letter ∈ text, (letter == ',') = false := fun text plain letter member => by
      have different := (plain letter member).not_mem
      simp at different ⊢
      exact different.2.2.2.2
    rw [List.splitOn_eq_splitOnP,
      List.splitOnP_append_cons_of_forall_mem (apart first one.plain) ',' rfl,
      List.splitOnP_eq_singleton (apart second other.plain)]
  rw [decimalShape, opened]
  dsimp only
  rw [closed, parts]
  simp [one.trimmed, other.trimmed]

theorem arrowType_name {entry : String × DataType} (known : entry ∈ baseNames) {text : List Char}
    (named : normalize text = entry.1.toList) : arrowType text = entry.2 := by
  unfold baseNames at known
  iterate 26
    rcases List.mem_cons.mp known with rfl | known
    · rw [arrowType, named]
      rfl
  cases known

/-- Decimal types are parsed by their precision and their scale. -/
theorem baseType_decimal (known : name ∈ decimalNames) {normalized : List Char} {precision : Nat}
    {scale : Int} (named : baseName normalized = name.toList)
    (shape : decimalShape normalized = some (precision, scale)) :
    baseType normalized = .decimal128 precision scale := by
  simp only [decimalNames, List.mem_cons, List.not_mem_nil, or_false] at known
  rcases known with rfl | rfl | rfl <;> rw [baseType, named, shape] <;> rfl

theorem baseType_unknown {normalized : List Char}
    (unknown : String.ofList (baseName normalized) ∉ baseNames.map Prod.fst) :
    baseType normalized = .utf8 := by
  unfold baseType namedType
  split <;> first | rfl | (next same => rw [same] at unknown; exact absurd (by decide) unknown)

theorem constructors_known : ∀ name ∈ "array" :: "map" :: decimalNames,
    ∃ entry ∈ baseNames, entry.1 = name := by
  decide

/-- The name of a constructor is firm and plain, and spelled in balanced texts. -/
theorem constructor_name (name : String) (known : name ∈ "array" :: "map" :: decimalNames) :
    Firm name.toList ∧ name.toList ≠ [] ∧ (∀ letter ∈ name.toList, Plain letter) ∧
      ∀ word, Spells name word → brackets.Balanced true word := by
  obtain ⟨entry, member, rfl⟩ := constructors_known name known
  obtain ⟨firm, some⟩ := baseNames_firm entry member
  exact ⟨firm, some, baseNames_plain entry member, fun word spelled => spelled.balanced member⟩

/-- An application of a name is balanced when it is so in its brackets. -/
theorem balanced_application {before gap inner after : List Char} {opening closing : Char}
    (known : name ∈ "array" :: "map" :: decimalNames) (left : Space before)
    (spelled : Spells name word) (middle : Space gap) (pair : Pair opening closing)
    (within : brackets.Balanced false inner) (right : Space after) :
    brackets.Balanced true
      (before ++ (word ++ (gap ++ opening :: (inner ++ [closing]))) ++ after) :=
  (left.balanced.append (((constructor_name name known).2.2.2 word spelled).append
    (middle.balanced.append (pair.balanced within)))).append right.balanced

/-- Two balanced texts with a comma between them are balanced within brackets. -/
theorem balanced_pair {first second : List Char} (one : brackets.Balanced true first)
    (other : brackets.Balanced true second) : brackets.Balanced false (first ++ ',' :: second) :=
  one.weaken.append (.letter false ',' second rfl rfl nofun other.weaken)

/-- Printed expressions are balanced. -/
theorem Prints.balanced {expr : TypeExpr} {text : List Char} (prints : Prints expr text) :
    brackets.Balanced true text := by
  induction prints with
  | base entry known before word after left spelled right =>
    exact (left.balanced.append (spelled.balanced known)).append right.balanced
  | decimal name precision scale known small least most before word gap first second third fourth
      after left spelled middle around₁ around₂ around₃ around₄ right =>
    have one := Padded.unsigned around₁ precision around₂
    have other := Padded.signed around₃ scale around₄
    exact balanced_application (by simp [known]) left spelled middle .round
      (balanced_pair (.of_plain one.plain) (.of_plain other.plain)) right
  | array item before word gap inner after opening closing left spelled middle pair _ right step =>
    exact balanced_application (by simp) left spelled middle pair step.weaken right
  | map key value before word gap first second after opening closing left spelled middle pair _ _
      right one other =>
    exact balanced_application (by simp) left spelled middle pair (balanced_pair one other) right
  | unrecognized text balanced unknown => exact balanced

/-- The name of a decimal is none of those that the parser looks for first. -/
theorem decimalNames_apart : ∀ name ∈ decimalNames,
    name.toList ∉ ["array".toList, "map".toList, "object".toList] := by
  decide

/-- A printed decimal is parsed by its precision and its scale. -/
theorem arrowType_decimal {precision : Nat} {scale : Int}
    {before gap first second after : List Char} (known : name ∈ decimalNames)
    (small : precision < 2 ^ 8) (least : -2 ^ 7 ≤ scale) (most : scale < 2 ^ 7)
    (left : Space before) (spelled : Spells name word) (middle : Space gap)
    (one : Padded (Numeral.print precision) first)
    (other : Padded (Numeral.printSigned scale) second) (right : Space after) :
    arrowType (before ++ (word ++ (gap ++ '(' :: ((first ++ ',' :: second) ++ [')']))) ++ after) =
      .decimal128 precision scale := by
  obtain ⟨firm, some, plain, -⟩ := constructor_name name (by simp [known])
  have kept : lower (first ++ ',' :: second) = first ++ ',' :: second := by
    have early : first.map Char.toLower = first := one.lowered
    have late : second.map Char.toLower = second := other.lowered
    rw [lower, List.map_append, List.map_cons, early, late]
    rfl
  have applied := normalize_application firm some left spelled middle .round right
    (first ++ ',' :: second)
  rw [kept] at applied
  have named : baseName (normalize _) = name.toList := (congrArg baseName applied).trans
    (baseName_application firm (fun letter member => (plain letter member).1) middle rfl)
  have shape := decimalShape_application plain middle one other
  rw [Numeral.parseUnsigned_print small, Numeral.parseSigned_print least most, ← applied] at shape
  rw [arrowType_base (named ▸ decimalNames_apart name known)]
  exact baseType_decimal known named shape

/-- The parser is compositional: however an expression is printed, the parser finds the Arrow type
that the structure of the expression gives. -/
theorem arrow_type_compositional (expr : TypeExpr) (text : List Char) (prints : Prints expr text) :
    arrowType text = expr.dataType := by
  induction prints with
  | base entry known before word after left spelled right =>
    have firm : Firm word := firm_of_lower (spelled.symm ▸ (baseNames_firm entry known).1)
    exact arrowType_name known ((normalize_pad firm left right).trans spelled)
  | decimal name precision scale known small least most before word gap first second third fourth
      after left spelled middle around₁ around₂ around₃ around₄ right =>
    exact arrowType_decimal known small least most left spelled middle
      (.unsigned around₁ precision around₂) (.signed around₃ scale around₄) right
  | array item before word gap inner after opening closing left spelled middle pair _ right step =>
    have applied :=
      normalize_application (by decide) (by decide) left spelled middle pair right inner
    rw [arrowType_array pair middle applied, arrowType_congr (normalize_lower inner), step]
    rfl
  | map key value before word gap first second after opening closing left spelled middle pair
      printedKey printedValue right one other =>
    have applied := normalize_application (by decide) (by decide) left spelled middle pair right
      (first ++ ',' :: second)
    have parted : lower (first ++ ',' :: second) = lower first ++ ',' :: lower second := by
      rw [lower, List.map_append, List.map_cons]
      rfl
    rw [parted] at applied
    rw [arrowType_map pair middle (balanced_lower printedKey.balanced)
      (balanced_lower printedValue.balanced) applied, arrowType_congr (normalize_lower first),
      arrowType_congr (normalize_lower second), one, other]
    rfl
  | unrecognized text balanced unknown =>
    have other : baseName (normalize text) ∉
        ["array".toList, "map".toList, "object".toList] := fun member => by
      simp only [List.mem_cons, List.not_mem_nil, or_false] at member
      rcases member with same | same | same <;> rw [same] at unknown <;>
        exact unknown (by decide)
    exact (arrowType_base other).trans (baseType_unknown unknown)

/-- A map from rows to arrays of decimals, with mixed brackets, cases and spaces. -/
theorem arrow_type_of_nested :
    arrowType "Map< row(a int, b int) ,ARRAY ( Decimal(10, -2) )>".toList =
      .mapOf ⟨"key", .utf8, false⟩
        ⟨"value", .list ⟨"item", .decimal128 10 (-2), true⟩, true⟩ := by
  have decimal : Prints (.decimal "decimal" 10 (-2) (by decide) (by decide) (by decide) (by decide))
      " Decimal(10, -2) ".toList :=
    .decimal "decimal" 10 (-2) (by decide) (by decide) (by decide) (by decide) [' ']
      "Decimal".toList [] [] [] [' '] [] [' '] (by decide) rfl (by decide) (by decide) (by decide)
      (by decide) (by decide) (by decide)
  have array : Prints (.array _) "ARRAY ( Decimal(10, -2) )".toList :=
    .array _ [] "ARRAY".toList [' '] _ [] '(' ')' (by decide) rfl (by decide) .round decimal
      (by decide)
  have words : ∀ word ∈ [" row", "a int", " b int", " "], brackets.Balanced true word.toList := by
    intro word member
    refine .of_plain ?_
    revert word
    decide
  have fields := balanced_pair (words "a int" (by decide)) (words " b int" (by decide))
  have balanced : brackets.Balanced true " row(a int, b int) ".toList :=
    (words " row" (by decide)).append
      ((Pair.round.balanced fields).append (words " " (by decide)))
  have row := Prints.unrecognized _ balanced (by decide)
  have map : Prints (.map _ _) "Map< row(a int, b int) ,ARRAY ( Decimal(10, -2) )>".toList :=
    .map _ _ [] "Map".toList [] _ _ [] '<' '>' (by decide) rfl (by decide) .angle row array
      (by decide)
  exact arrow_type_compositional _ _ map

end ConfluxQuery.NativeTypes
