import ConfluxQuery.Driver.Snowflake
import ConfluxQuery.Driver.TrinoMetadata
import ConfluxQuery.Verif.NativeTypes

/-!
# Tracking of `USE` statements

What the adapters make of `USE` statements whose names are quoted as the adapters quote names. None
of them reads quotes: Trino's splits at dots and drops one pair of quotes, the others split at white
space and drop all quotes at both ends.
-/

namespace ConfluxQuery

open Quoting Text

section Texts

/-- Blank space. -/
def IsBlank (text : List Char) : Prop := ∀ letter ∈ text, Text.isWhitespace letter = true

instance (text : List Char) : Decidable (IsBlank text) := by unfold IsBlank; infer_instance

/-- A text without blank space. -/
def IsSolid (text : List Char) : Prop := ∀ letter ∈ text, Text.isWhitespace letter = false

instance (text : List Char) : Decidable (IsSolid text) := by unfold IsSolid; infer_instance

/-- A text without blank space is firm. -/
theorem IsSolid.firm {text : List Char} (solid : IsSolid text) : Firm Text.isWhitespace text :=
  ⟨fun first found => solid first (List.mem_of_mem_head? found),
    fun last found => solid last (List.mem_of_getLast? found)⟩

/-- What may follow a statement: any mix of blank space and semicolons. -/
def IsClosing (tail : List Char) : Prop :=
  ∀ letter ∈ tail, isWhitespace letter = true ∨ letter = ';'

instance (tail : List Char) : Decidable (IsClosing tail) := by unfold IsClosing; infer_instance

/-- The semicolons of a tail stand together, with blank space before and after them. -/
def OneRun (tail : List Char) : Prop := ∃ (gap after : List Char) (semicolons : Nat),
  IsBlank gap ∧ IsBlank after ∧ tail = gap ++ List.replicate semicolons ';' ++ after

/-- What the adapters leave of the tail of a statement: they drop blank space, semicolons and blank
space again from its end. -/
def residue (tail : List Char) : List Char :=
  ((tail.rdropWhile isWhitespace).rdropWhile (· == ';')).rdropWhile isWhitespace

/-- Nothing is left exactly when the semicolons stand together. -/
theorem residue_eq_nil {tail : List Char} : residue tail = [] ↔ OneRun tail := by
  constructor
  · intro none
    obtain ⟨after, trailing, whole⟩ := exists_ending isWhitespace tail
    obtain ⟨run, same, inner⟩ := exists_ending (· == ';') (tail.rdropWhile isWhitespace)
    refine ⟨_, after, run.length, List.rdropWhile_eq_nil_iff.mp none, trailing, ?_⟩
    rw [← List.eq_replicate_iff.mpr ⟨rfl, fun letter member => beq_iff_eq.mp (same letter member)⟩,
      ← inner]
    exact whole
  · rintro ⟨gap, after, semicolons, blank, trailing, rfl⟩
    have run : ∀ letter ∈ List.replicate semicolons ';', (letter == ';') = true :=
      fun letter member => beq_iff_eq.mpr (List.eq_of_mem_replicate member)
    have inside : (((gap ++ List.replicate semicolons ';').rdropWhile isWhitespace).rdropWhile
        (· == ';')) <+: gap := by
      cases semicolons with
      | zero =>
        rw [List.replicate_zero, List.append_nil]
        exact (List.rdropWhile_prefix _ _).trans (List.rdropWhile_prefix _ _)
      | succ more =>
        have solid : (gap ++ List.replicate (more + 1) ';').rdropWhile isWhitespace =
            gap ++ List.replicate (more + 1) ';' := by
          refine rdropWhile_eq_self fun last found => ?_
          rw [List.replicate_succ', ← List.append_assoc, List.getLast?_concat] at found
          rw [← Option.some.inj found]
          rfl
        rw [solid, rdropWhile_append_of_blank run]
        exact List.rdropWhile_prefix _ _
    rw [residue, rdropWhile_append_of_blank trailing]
    exact List.rdropWhile_eq_nil_iff.mpr fun letter member => blank letter (inside.subset member)

/-- What is left of a tail ends with a semicolon. -/
theorem getLast?_residue {tail : List Char} (closing : IsClosing tail)
    (left : residue tail ≠ []) : (residue tail).getLast? = some ';' := by
  have inside : residue tail <+: tail :=
    (List.rdropWhile_prefix _ _).trans
      ((List.rdropWhile_prefix _ _).trans (List.rdropWhile_prefix _ _))
  have solid := List.rdropWhile_last_not _ _ left
  rw [List.getLast?_eq_getLast_of_ne_nil left]
  rcases closing _ (inside.subset (List.getLast_mem left)) with blank | semicolon
  · exact absurd blank solid
  · exact congrArg some semicolon

/-- A statement without the space around it and what is dropped from its tail. -/
theorem strip_statement {before statement : List Char} (tail : List Char)
    (leading : IsBlank before) (present : statement ≠ [])
    (firm : Firm isWhitespace statement) (ends : statement.getLast? ≠ some ';') :
    strip ((strip (before ++ (statement ++ tail))).reverse.dropWhile (· == ';')).reverse =
      statement ++ residue tail := by
  have unclosed : ∀ last, statement.getLast? = some last → (last == ';') = false :=
    fun last found => beq_eq_false_iff_ne.mpr fun same => ends (same ▸ found)
  have dropped : ((strip (before ++ (statement ++ tail))).reverse.dropWhile (· == ';')).reverse =
      statement ++ (tail.rdropWhile isWhitespace).rdropWhile (· == ';') := by
    rw [strip, trim_append leading present firm]
    exact rdropWhile_append unclosed
  rw [dropped, strip, ← List.nil_append (statement ++ _)]
  exact trim_append (by simp) present firm

theorem two_le_length_splitOn {text : List Char} (dotted : '.' ∈ text) :
    2 ≤ (text.splitOn '.').length := by
  obtain ⟨left, right, rfl⟩ := List.append_of_mem dotted
  have some : ∀ part : List Char, 0 < (part.splitOn '.').length := fun part =>
    List.length_pos_of_ne_nil (List.splitOn_ne_nil _ _)
  rw [List.splitOn_append_cons_self, List.length_append]
  have := some left
  have := some right
  omega

end Texts

namespace Trino

/-- Names that survive `use_session_update`. -/
def IsTracked (name : List Char) : Prop := IsSolid name ∧ '.' ∉ name ∧ '"' ∉ name

instance (name : List Char) : Decidable (IsTracked name) := by unfold IsTracked; infer_instance

/-- One pair of quotes is dropped. -/
theorem unquoteIdentifier_identifier (name : List Char) :
    unquoteIdentifier (identifier name) = doubled '"' name := by
  simp [unquoteIdentifier, identifier, wrapped]

/-- A quoted name has the characters of the name and its quotes. -/
theorem mem_identifier {letter : Char} {name : List Char} :
    letter ∈ identifier name ↔ letter = '"' ∨ letter ∈ name := by
  simp [identifier, wrapped, or_comm]

theorem splitOn_identifier {name : List Char} (undotted : '.' ∉ name) :
    (identifier name).splitOn '.' = [identifier name] :=
  List.splitOn_eq_singleton (by rw [mem_identifier]; simp [undotted])

/-- A `USE` statement is read by its context and what is left of its tail. -/
theorem useSessionUpdate_use {before first context : List Char} (tail : List Char)
    (leading : IsBlank before) (between : IsBlank first) (apart : first ≠ [])
    (present : context ≠ []) (firm : Firm isWhitespace context)
    (ends : context.getLast? ≠ some ';') :
    useSessionUpdate (String.ofList (before ++ ("USE".toList ++ first ++ context ++ tail))) =
      contextUpdate (context ++ residue tail) := by
  have last : ("USE".toList ++ first ++ context).getLast? = context.getLast? :=
    List.getLast?_append_of_ne_nil _ present
  have whole : Firm isWhitespace ("USE".toList ++ first ++ context) :=
    ⟨fun letter found => by rw [← Option.some.inj found]; rfl,
      fun letter found => firm.2 letter (last ▸ found)⟩
  have statement := strip_statement tail leading (by simp) whole (last ▸ ends)
  have inside : strip (first ++ (context ++ residue tail)) = context ++ residue tail := by
    rw [strip, trim_append between present firm, residue, List.rdropWhile_idempotent]
  have space : (first ++ (context ++ residue tail)).head?.any isWhitespace = true := by
    cases first with
    | nil => exact absurd rfl apart
    | cons letter rest => simp [between letter]
  have shape : "USE".toList ++ first ++ context ++ residue tail =
      'U' :: 'S' :: 'E' :: (first ++ (context ++ residue tail)) := by simp
  rw [useSessionUpdate, String.toList_ofList, statement, shape]
  have keyword : (['U', 'S', 'E'].map Char.toLower = ['u', 's', 'e'] ∧
      (first ++ (context ++ residue tail)).head?.any isWhitespace = true) := ⟨by decide, space⟩
  exact (if_pos keyword).trans (congrArg contextUpdate inside)

/-- A quoted name is not empty, and begins and ends with a quote. -/
theorem firm_identifier (name : List Char) :
    identifier name ≠ [] ∧ (identifier name).head? = some '"' ∧
      (identifier name).getLast? = some '"' := by
  refine ⟨by simp [identifier, wrapped], rfl, ?_⟩
  rw [identifier, wrapped, ← List.cons_append, List.getLast?_concat]

/-- A schema is tracked exactly when its name survives. -/
theorem contextUpdate_schema (schema : List Char) :
    contextUpdate (identifier schema) =
        some (Registry.ofList [("schema", String.ofList schema)]) ↔ IsTracked schema := by
  have present : (identifier schema).isEmpty = false := rfl
  by_cases solid : IsSolid schema
  · have blank : (identifier schema).any isWhitespace = false := by
      rw [List.any_eq_false]
      intro letter member
      rcases mem_identifier.mp member with rfl | inside
      · decide
      · simp [solid letter inside]
    rw [contextUpdate, if_neg (by simp [present, blank])]
    by_cases dotted : '.' ∈ schema
    · have parts := two_le_length_splitOn (mem_identifier.mpr (.inr dotted))
      refine iff_of_false (fun same => ?_) (fun tracked => tracked.2.1 dotted)
      generalize (identifier schema).splitOn '.' = split at parts same
      match split with
      | [] | [_] => simp at parts
      | [one, two] =>
        have found := congrArg (fun update : Option (Registry String String) =>
          update.bind fun values => values.lookup "catalog") same
        cases found
      | _ :: _ :: _ :: _ => cases same
    · rw [splitOn_identifier dotted, List.map_singleton, unquoteIdentifier_identifier]
      constructor
      · intro same
        have found := congrArg (fun update : Option (Registry String String) =>
          update.bind fun values => values.lookup "schema") same
        have exact : doubled '"' schema = schema :=
          String.ofList_injective (Option.some.inj found)
        exact ⟨solid, dotted, doubled_eq_self_iff.mp exact⟩
      · rintro ⟨-, -, unquoted⟩
        rw [doubled_eq_self_iff.mpr unquoted]
  · have blank : (identifier schema).any isWhitespace = true := by
      simp only [IsSolid, not_forall, Bool.not_eq_false] at solid
      obtain ⟨letter, member, space⟩ := solid
      exact List.any_eq_true.mpr ⟨letter, mem_identifier.mpr (.inr member), space⟩
    rw [contextUpdate, if_pos (.inr blank)]
    exact iff_of_false nofun fun tracked => solid tracked.1

/-- A catalog and a schema are tracked exactly when both names survive. -/
theorem contextUpdate_both (catalog schema : List Char) :
    contextUpdate (identifier catalog ++ '.' :: identifier schema) =
        some (Registry.ofList [("catalog", String.ofList catalog),
          ("schema", String.ofList schema)]) ↔
      IsTracked catalog ∧ IsTracked schema := by
  have members : ∀ letter, letter ∈ identifier catalog ++ '.' :: identifier schema ↔
      letter = '"' ∨ letter = '.' ∨ letter ∈ catalog ∨ letter ∈ schema := by
    intro letter
    rw [List.mem_append, List.mem_cons, mem_identifier, mem_identifier]
    tauto
  have present : (identifier catalog ++ '.' :: identifier schema).isEmpty = false := rfl
  by_cases solid : IsSolid catalog ∧ IsSolid schema
  · have blank : (identifier catalog ++ '.' :: identifier schema).any isWhitespace = false := by
      rw [List.any_eq_false]
      intro letter member
      rcases (members letter).mp member with rfl | rfl | inside | inside
      · decide
      · decide
      · simp [solid.1 letter inside]
      · simp [solid.2 letter inside]
    rw [contextUpdate, if_neg (by simp [present, blank]), List.splitOn_append_cons_self]
    by_cases dotted : '.' ∈ catalog ∨ '.' ∈ schema
    · have parts : 3 ≤ ((identifier catalog).splitOn '.' ++
          (identifier schema).splitOn '.').length := by
        have left := List.length_pos_of_ne_nil (List.splitOn_ne_nil '.' (identifier catalog))
        have right := List.length_pos_of_ne_nil (List.splitOn_ne_nil '.' (identifier schema))
        rw [List.length_append]
        rcases dotted with inside | inside
        · have two := two_le_length_splitOn (mem_identifier.mpr (.inr inside))
          omega
        · have two := two_le_length_splitOn (mem_identifier.mpr (.inr inside))
          omega
      refine iff_of_false (fun same => ?_)
        (fun tracked => dotted.elim tracked.1.2.1 tracked.2.2.1)
      generalize (identifier catalog).splitOn '.' ++ (identifier schema).splitOn '.' = split
        at parts same
      match split with
      | [] | [_] | [_, _] => simp at parts
      | _ :: _ :: _ :: _ => cases same
    · obtain ⟨plain, bare⟩ := not_or.mp dotted
      rw [splitOn_identifier plain, splitOn_identifier bare, List.singleton_append, List.map_cons,
        List.map_singleton, unquoteIdentifier_identifier, unquoteIdentifier_identifier]
      constructor
      · intro same
        have first := congrArg (fun update : Option (Registry String String) =>
          update.bind fun values => values.lookup "catalog") same
        have second := congrArg (fun update : Option (Registry String String) =>
          update.bind fun values => values.lookup "schema") same
        have catalogs : doubled '"' catalog = catalog :=
          String.ofList_injective (Option.some.inj first)
        have schemas : doubled '"' schema = schema :=
          String.ofList_injective (Option.some.inj second)
        exact ⟨⟨solid.1, plain, doubled_eq_self_iff.mp catalogs⟩,
          ⟨solid.2, bare, doubled_eq_self_iff.mp schemas⟩⟩
      · rintro ⟨⟨-, -, unquoted⟩, -, -, free⟩
        rw [doubled_eq_self_iff.mpr unquoted, doubled_eq_self_iff.mpr free]
  · have blank : (identifier catalog ++ '.' :: identifier schema).any isWhitespace = true := by
      simp only [IsSolid, not_and_or, not_forall, Bool.not_eq_false] at solid
      rcases solid with ⟨letter, member, space⟩ | ⟨letter, member, space⟩
      · exact List.any_eq_true.mpr ⟨letter, (members letter).mpr (.inr (.inr (.inl member))), space⟩
      · exact List.any_eq_true.mpr ⟨letter, (members letter).mpr (.inr (.inr (.inr member))), space⟩
    rw [contextUpdate, if_pos (.inr blank)]
    exact iff_of_false nofun fun tracked => solid ⟨tracked.1.1, tracked.2.1⟩

variable {left : List Char}

/-- A quoted name with semicolons behind it keeps its quotes. -/
theorem unquoteIdentifier_residue (name : List Char) (ends : left.getLast? = some ';') :
    unquoteIdentifier (identifier name ++ left) ≠ name := by
  have present : left ≠ [] := by
    rintro rfl
    cases ends
  have kept : unquoteIdentifier (identifier name ++ left) = identifier name ++ left := by
    rw [identifier, wrapped, List.cons_append, unquoteIdentifier, if_neg]
    rw [List.getLast?_append_of_ne_nil _ present, ends]
    decide
  intro same
  have length := congrArg List.length (kept.symm.trans same)
  have longer : name.length ≤ (doubled '"' name).length := (length_doubled name).1
  simp only [identifier, wrapped, List.length_append, List.length_cons] at length
  omega

/-- Semicolons that are left behind a schema are taken for a part of it. -/
theorem contextUpdate_residue (schema : List Char) (ends : left.getLast? = some ';') :
    contextUpdate (identifier schema ++ left) ≠
      some (Registry.ofList [("schema", String.ofList schema)]) := by
  intro same
  rw [contextUpdate] at same
  split at same
  · cases same
  · generalize split : (identifier schema ++ left).splitOn '.' = parts at same
    have joined : ['.'].intercalate ((identifier schema ++ left).splitOn '.') =
        identifier schema ++ left := List.intercalate_splitOn '.'
    rw [split] at joined
    match parts with
    | [] | _ :: _ :: _ :: _ => cases same
    | [part] =>
      have found := congrArg (fun update : Option (Registry String String) =>
        update.bind fun values => values.lookup "schema") same
      have exact : unquoteIdentifier part = schema :=
        String.ofList_injective (Option.some.inj found)
      rw [show part = identifier schema ++ left by simpa using joined] at exact
      exact unquoteIdentifier_residue schema ends exact
    | [_, _] =>
      have found := congrArg (fun update : Option (Registry String String) =>
        update.bind fun values => values.lookup "catalog") same
      cases found

/-- The same after a catalog. -/
theorem contextUpdate_both_residue (catalog schema : List Char) (ends : left.getLast? = some ';') :
    contextUpdate (identifier catalog ++ '.' :: identifier schema ++ left) ≠
      some (Registry.ofList [("catalog", String.ofList catalog),
        ("schema", String.ofList schema)]) := by
  intro same
  rw [contextUpdate] at same
  split at same
  · cases same
  · rw [List.append_assoc, List.cons_append, List.splitOn_append_cons_self] at same
    have some : (identifier catalog).splitOn '.' ≠ [] := List.splitOn_ne_nil _ _
    generalize split : (identifier schema ++ left).splitOn '.' = parts at same
    have joined : ['.'].intercalate ((identifier schema ++ left).splitOn '.') =
        identifier schema ++ left := List.intercalate_splitOn '.'
    rw [split] at joined
    match before : (identifier catalog).splitOn '.', parts with
    | [], _ => exact some before
    | [_], [part] =>
      rw [before] at same
      have found := congrArg (fun update : Option (Registry String String) =>
        update.bind fun values => values.lookup "schema") same
      have exact : unquoteIdentifier part = schema :=
        String.ofList_injective (Option.some.inj found)
      rw [show part = identifier schema ++ left by simpa using joined] at exact
      exact unquoteIdentifier_residue schema ends exact
    | [_], [] => exact List.splitOn_ne_nil _ _ split
    | [_], _ :: _ :: _ =>
      rw [before] at same
      cases same
    | _ :: _ :: _, [] => exact List.splitOn_ne_nil _ _ split
    | _ :: _ :: rest, _ :: _ =>
      rw [before] at same
      cases rest <;> cases same

/-- A `USE` statement with quoted names, any blank space and any mix of blank space and semicolons
behind it is tracked exactly when the names have no blank space, no dots and no quotes and the
semicolons stand together. -/
theorem trino_use_tracked_iff {before first tail : List Char} (leading : IsBlank before)
    (between : IsBlank first) (apart : first ≠ []) (closing : IsClosing tail)
    (catalog schema : List Char) :
    (useSessionUpdate (String.ofList (before ++ ("USE".toList ++ first ++
        (identifier catalog ++ '.' :: identifier schema) ++ tail))) =
        some (Registry.ofList [("catalog", String.ofList catalog),
          ("schema", String.ofList schema)]) ↔
      (IsTracked catalog ∧ IsTracked schema) ∧ OneRun tail) ∧
    (useSessionUpdate (String.ofList (before ++ ("USE".toList ++ first ++ identifier schema ++
        tail))) =
        some (Registry.ofList [("schema", String.ofList schema)]) ↔
      IsTracked schema ∧ OneRun tail) := by
  obtain ⟨present, begins, ends⟩ := firm_identifier schema
  have solid : isWhitespace '"' = false := rfl
  have last : (identifier catalog ++ '.' :: identifier schema).getLast? = some '"' := by
    rw [← ends, List.getLast?_append_of_ne_nil _ (by simp), ← List.singleton_append,
      List.getLast?_append_of_ne_nil _ present]
  have head : (identifier catalog ++ '.' :: identifier schema).head? = some '"' := rfl
  have firm : ∀ text : List Char, text.head? = some '"' → text.getLast? = some '"' →
      Firm isWhitespace text := by
    intro text first last
    refine ⟨fun letter found => ?_, fun letter found => ?_⟩
    · rw [first] at found
      rw [← Option.some.inj found, solid]
    · rw [last] at found
      rw [← Option.some.inj found, solid]
  rw [useSessionUpdate_use tail leading between apart (by simp [identifier, wrapped])
      (firm _ head last) (by rw [last]; decide),
    useSessionUpdate_use tail leading between apart present (firm _ begins ends)
      (by rw [ends]; decide), ← residue_eq_nil]
  by_cases left : residue tail = []
  · rw [left, List.append_nil, List.append_nil, and_iff_left rfl, and_iff_left rfl]
    exact ⟨contextUpdate_both catalog schema, contextUpdate_schema schema⟩
  · have stays := getLast?_residue closing left
    exact ⟨iff_of_false (contextUpdate_both_residue catalog schema stays) fun both => left both.2,
      iff_of_false (contextUpdate_residue schema stays) fun both => left both.2⟩

/-- Plain names are tracked, with semicolons that stand together. -/
theorem trino_use_tracked_names :
    useSessionUpdate (String.ofList ("  ".toList ++ ("USE".toList ++ " ".toList ++
        (identifier "hive".toList ++ '.' :: identifier "web".toList) ++ " ;;\n".toList))) =
      some (Registry.ofList [("catalog", String.ofList "hive".toList),
        ("schema", String.ofList "web".toList)]) :=
  (trino_use_tracked_iff (by decide) (by decide) (by decide) (by decide)
    "hive".toList "web".toList).1.mpr
      ⟨by decide, " ".toList, "\n".toList, 2, by decide, by decide, rfl⟩

/-- A schema with a dot in its name is taken for a catalog and a schema. -/
theorem trino_use_dotted :
    useSessionUpdate (String.ofList ("USE ".toList ++ identifier "a.b".toList)) =
      some (Registry.ofList [("catalog", "\"a"), ("schema", "b\"")]) := by
  rfl

end Trino

section Words

open Databricks

/-- Words on both sides of blank space. -/
theorem splitWhitespace_append {blank : Char} (space : Text.isWhitespace blank = true)
    (left right : List Char) :
    splitWhitespace (left ++ blank :: right) = splitWhitespace left ++ splitWhitespace right := by
  rw [splitWhitespace, List.splitOnP_append_cons _ _ space, List.filter_append]
  rfl

/-- Blank space before words. -/
theorem splitWhitespace_blank {blank : List Char} (space : IsBlank blank) (text : List Char) :
    splitWhitespace (blank ++ text) = splitWhitespace text := by
  induction blank with
  | nil => rfl
  | cons letter rest step =>
    have one := splitWhitespace_append (space letter List.mem_cons_self) [] (rest ++ text)
    rw [List.cons_append, ← List.nil_append (letter :: (rest ++ text)), one,
      step fun other member => space other (List.mem_cons_of_mem _ member)]
    rfl

theorem splitWhitespace_solid {word : List Char} (present : word ≠ []) (solid : IsSolid word) :
    splitWhitespace word = [word] := by
  rw [splitWhitespace, List.splitOnP_eq_singleton solid]
  simp [present]

theorem splitWhitespace_word {word gap : List Char} (present : word ≠ []) (solid : IsSolid word)
    (space : IsBlank gap) (apart : gap ≠ []) (text : List Char) :
    splitWhitespace (word ++ gap ++ text) = word :: splitWhitespace text := by
  cases gap with
  | nil => exact absurd rfl apart
  | cons letter rest =>
    rw [List.append_assoc, List.cons_append,
      splitWhitespace_append (space letter List.mem_cons_self), splitWhitespace_solid present solid,
      splitWhitespace_blank fun other member => space other (List.mem_cons_of_mem _ member)]
    rfl

variable {text : List Char}

/-- A text that is not solid has blank space between two parts. -/
theorem exists_blank (blank : ¬ IsSolid text) : ∃ left letter right,
    Text.isWhitespace letter = true ∧ text = left ++ letter :: right := by
  simp only [IsSolid, not_forall, Bool.not_eq_false] at blank
  obtain ⟨letter, member, space⟩ := blank
  obtain ⟨left, right, split⟩ := List.append_of_mem member
  exact ⟨left, letter, right, space, split⟩

theorem splitWhitespace_visible {letter : Char} (visible : Text.isWhitespace letter = false)
    (member : letter ∈ text) : 0 < (splitWhitespace text).length := by
  induction size : text.length using Nat.strong_induction_on generalizing text with
  | _ length step =>
    by_cases solid : IsSolid text
    · rw [splitWhitespace_solid (List.ne_nil_of_mem member) solid]
      exact Nat.one_pos
    · obtain ⟨left, blank, right, space, rfl⟩ := exists_blank solid
      rw [List.length_append, List.length_cons] at size
      rw [splitWhitespace_append space, List.length_append]
      rcases List.mem_append.mp member with before | later
      · have := step left.length (by omega) before rfl
        omega
      · rcases List.mem_cons.mp later with rfl | after
        · rw [space] at visible
          cases visible
        · have := step right.length (by omega) after rfl
          omega

/-- A text with blank space inside has two words at least. -/
theorem two_le_splitWhitespace {first last : Char} (begins : text.head? = some first)
    (ends : text.getLast? = some last) (solid : Text.isWhitespace first = false)
    (closed : Text.isWhitespace last = false) (blank : ¬ IsSolid text) :
    2 ≤ (splitWhitespace text).length := by
  obtain ⟨left, letter, right, space, rfl⟩ := exists_blank blank
  rw [splitWhitespace_append space, List.length_append]
  have before : 0 < (splitWhitespace left).length := by
    cases left with
    | nil =>
      rw [← Option.some.inj begins, space] at solid
      cases solid
    | cons head rest =>
      exact splitWhitespace_visible solid (by rw [← Option.some.inj begins]; simp)
  have after : 0 < (splitWhitespace right).length := by
    rw [List.getLast?_append_of_ne_nil _ (by simp)] at ends
    cases right with
    | nil =>
      rw [List.getLast?_singleton] at ends
      rw [← Option.some.inj ends, space] at closed
      cases closed
    | cons head rest =>
      rw [← List.singleton_append, List.getLast?_append_of_ne_nil _ (by simp)] at ends
      exact splitWhitespace_visible closed (List.mem_of_getLast? ends)
  omega

end Words

section Keywords

open Databricks

/-- How a `USE` statement of a kind is typed: its words in any case, with blank space around and
between them. -/
structure Spelling (keyword : String) where
  /-- Blank space before the statement. -/
  before : List Char
  useWord : List Char
  first : List Char
  kind : List Char
  second : List Char
  /-- Blank space after the statement. -/
  after : List Char
  blank : IsBlank before ∧ IsBlank first ∧ IsBlank second ∧ IsBlank after
  apart : first ≠ [] ∧ second ≠ []
  /-- The first word is `USE`. -/
  isUse : isWord useWord "use" = true
  /-- The second word is the keyword. -/
  isKind : isWord kind keyword = true

/-- The statement with what it names. -/
def Spelling.text {keyword : String} (spelling : Spelling keyword) (named : List Char) : String :=
  String.ofList (spelling.before ++ (spelling.useWord ++ spelling.first ++
    (spelling.kind ++ spelling.second ++ named)) ++ spelling.after)

theorem solid_of_isWord {word : List Char} {keyword : String} (same : isWord word keyword = true)
    (solid : IsSolid keyword.toList) : IsSolid word := by
  intro letter member
  rw [← NativeTypes.isWhitespace_toLower]
  refine solid _ ?_
  rw [← beq_iff_eq.mp same]
  exact List.mem_map_of_mem member

/-- A keyword is not empty. -/
theorem ne_nil_of_isWord {word : List Char} {keyword : String} (same : isWord word keyword = true)
    (present : keyword.toList ≠ []) : word ≠ [] := by
  rintro rfl
  exact present (beq_iff_eq.mp same).symm

variable {keyword : String} (spelling : Spelling keyword) {named : List Char} {quote : Char}

/-- What is named begins and ends with quotes. -/
structure IsQuoted (quote : Char) (named : List Char) : Prop where
  begins : named.head? = some quote
  ends : named.getLast? = some quote

/-- The words of a `USE` statement are its two words and those of what it names; the space around it
is dropped. -/
theorem Spelling.words (word : IsSolid keyword.toList) (some : keyword.toList ≠ [])
    (solid : Text.isWhitespace quote = false) (other : quote ≠ ';')
    (quoted : IsQuoted quote named) :
    Text.strip ((Text.strip (spelling.text named).toList).reverse.dropWhile (· == ';')).reverse =
        spelling.useWord ++ spelling.first ++ (spelling.kind ++ spelling.second ++ named) ∧
      ((Text.strip (spelling.text named).toList).reverse.dropWhile (· == ';')).reverse =
        spelling.useWord ++ spelling.first ++ (spelling.kind ++ spelling.second ++ named) ∧
      splitWhitespace (spelling.useWord ++ spelling.first ++
          (spelling.kind ++ spelling.second ++ named)) =
        spelling.useWord :: spelling.kind :: splitWhitespace named := by
  have use := solid_of_isWord spelling.isUse (by decide)
  have present := ne_nil_of_isWord spelling.isUse (by decide)
  have ends : (spelling.useWord ++ spelling.first ++
      (spelling.kind ++ spelling.second ++ named)).getLast? = Option.some quote := by
    have some : named ≠ [] := by
      rintro rfl
      cases quoted.ends
    rw [List.getLast?_append_of_ne_nil _ (by simp [some]),
      List.getLast?_append_of_ne_nil _ some, quoted.ends]
  have firm : Firm Text.isWhitespace (spelling.useWord ++ spelling.first ++
      (spelling.kind ++ spelling.second ++ named)) := by
    refine ⟨fun letter found => ?_, fun letter found => ?_⟩
    · rw [List.append_assoc, List.head?_append_of_ne_nil _ present] at found
      exact use.firm.1 letter found
    · rw [ends] at found
      rw [← Option.some.inj found, solid]
  have trimmed : Text.strip (spelling.text named).toList = spelling.useWord ++ spelling.first ++
      (spelling.kind ++ spelling.second ++ named) := by
    rw [Spelling.text, String.toList_ofList]
    exact trim_pad firm spelling.blank.1 spelling.blank.2.2.2
  have kept : ((Text.strip (spelling.text named).toList).reverse.dropWhile (· == ';')).reverse =
      spelling.useWord ++ spelling.first ++ (spelling.kind ++ spelling.second ++ named) := by
    rw [trimmed, dropWhile_eq_self, List.reverse_reverse]
    intro letter found
    rw [List.head?_reverse, ends] at found
    rw [← Option.some.inj found]
    exact beq_eq_false_iff_ne.mpr other
  refine ⟨?_, kept, ?_⟩
  · rw [kept]
    exact trim_eq_self firm
  · rw [splitWhitespace_word present use spelling.blank.2.1 spelling.apart.1,
      splitWhitespace_word (ne_nil_of_isWord spelling.isKind some)
        (solid_of_isWord spelling.isKind word) spelling.blank.2.2.1 spelling.apart.2]

end Keywords

/-- The properties that a name or two names make current. -/
def properties (names : List (String × List Char)) : Registry String String :=
  Registry.ofList (names.map fun entry => (entry.1, String.ofList entry.2))

theorem isWord_eq {word : List Char} {keyword : String}
    (same : Databricks.isWord word keyword = true)
    (other : String) : Databricks.isWord word other = (keyword.toList == other.toList) := by
  rw [Databricks.isWord, beq_iff_eq.mp same]

/-- Keywords have no blank space. -/
theorem isSolid_keyword : ∀ keyword ∈ ["catalog", "schema", "database"],
    IsSolid keyword.toList ∧ keyword.toList ≠ [] := by
  decide

/-- Quoted names begin and end with quotes, also with a dot between them. -/
theorem isQuoted_wrapped (quote : Char) (name : List Char) : IsQuoted quote (wrapped quote name) :=
  ⟨rfl, by rw [wrapped, ← List.cons_append, List.getLast?_concat]⟩

theorem isQuoted_pair (quote : Char) (first second : List Char) :
    IsQuoted quote (wrapped quote first ++ '.' :: wrapped quote second) := by
  refine ⟨rfl, ?_⟩
  rw [List.getLast?_append_of_ne_nil _ (by simp), ← List.singleton_append,
    List.getLast?_append_of_ne_nil _ (by simp [wrapped]), (isQuoted_wrapped quote second).ends]

/-- A quoted name has blank space where the name has. -/
theorem isSolid_wrapped {quote : Char} (solid : Text.isWhitespace quote = false)
    (name : List Char) : IsSolid (wrapped quote name) ↔ IsSolid name := by
  constructor
  · intro whole letter member
    exact whole letter (by simp [wrapped, member])
  · intro inside letter member
    have cases : letter = quote ∨ letter ∈ name := by
      simpa [wrapped, or_comm] using member
    rcases cases with rfl | inner
    · exact solid
    · exact inside letter inner

/-- So do two names. -/
theorem isSolid_pair {quote : Char} (solid : Text.isWhitespace quote = false)
    (first second : List Char) : IsSolid (wrapped quote first ++ '.' :: wrapped quote second) ↔
      IsSolid first ∧ IsSolid second := by
  rw [← isSolid_wrapped solid first, ← isSolid_wrapped solid second]
  constructor
  · intro whole
    exact ⟨fun letter member => whole letter (List.mem_append_left _ member),
      fun letter member => whole letter (List.mem_append_right _ (List.mem_cons_of_mem _ member))⟩
  · rintro ⟨left, right⟩ letter member
    rcases List.mem_append.mp member with before | after
    · exact left letter before
    · rcases List.mem_cons.mp after with rfl | later
      · rfl
      · exact right letter later

namespace Databricks

/-- Names that survive `clean_identifier`. -/
def IsCleaned (name : List Char) : Prop := Firm isQuote name ∧ backQuote ∉ name

/-- A quoted name is cleaned to the name exactly when it survives. -/
theorem cleanIdentifier_identifier (name : List Char) :
    cleanIdentifier (identifier name) = String.ofList name ↔ IsCleaned name := by
  have dropped : isQuote backQuote = true := by decide
  rw [IsCleaned, ← trim_wrapped_iff dropped]
  exact ⟨fun same => String.ofList_injective same, fun same => congrArg String.ofList same⟩

/-- The `USE` statements of Databricks. -/
inductive Use
  | catalog (catalog : List Char)
  | schema (schema : List Char)
  | qualifiedSchema (catalog schema : List Char)
  | database (schema : List Char)
  | qualifiedDatabase (catalog schema : List Char)

namespace Use

/-- The second word. -/
def keyword : Use → String
  | .catalog _ => "catalog"
  | .schema _ | .qualifiedSchema _ _ => "schema"
  | .database _ | .qualifiedDatabase _ _ => "database"

/-- What the statement names. -/
def named : Use → List Char
  | .catalog name | .schema name | .database name => identifier name
  | .qualifiedSchema one two | .qualifiedDatabase one two => identifier one ++ '.' :: identifier two

/-- What the statement makes current in the engine, which takes a schema of its own with a catalog.
-/
def current (own : Option String) : Use → Registry String String
  | .catalog name => properties
      (("catalog", name) :: (own.map fun schema => ("schema", schema.toList)).toList)
  | .schema name | .database name => properties [("schema", name)]
  | .qualifiedSchema one two | .qualifiedDatabase one two =>
    properties [("catalog", one), ("schema", two)]

/-- The statements that are tracked. -/
def Tracked (own : Option String) : Use → Prop
  | .catalog name => IsSolid name ∧ IsCleaned name ∧ own = some "default"
  | .schema name => IsSolid name ∧ IsCleaned name
  | .qualifiedSchema _ _ => False
  | .database name => IsSolid name ∧ IsCleaned name ∧ '.' ∉ name
  | .qualifiedDatabase one two =>
    (IsSolid one ∧ IsSolid two) ∧ IsCleaned one ∧ '.' ∉ one ∧ IsCleaned two

theorem isQuoted_named (use : Use) : IsQuoted backQuote use.named := by
  cases use with
  | catalog name | schema name | database name => exact isQuoted_wrapped backQuote name
  | qualifiedSchema one two | qualifiedDatabase one two => exact isQuoted_pair backQuote one two

theorem Tracked.solid {own : Option String} {use : Use} (tracked : use.Tracked own) :
    IsSolid use.named := by
  have solid : Text.isWhitespace backQuote = false := by decide
  cases use with
  | catalog name | database name => exact (isSolid_wrapped solid name).mpr tracked.1
  | schema name => exact (isSolid_wrapped solid name).mpr tracked.1
  | qualifiedSchema => cases tracked
  | qualifiedDatabase one two => exact (isSolid_pair solid one two).mpr tracked.1

end Use

/-- A statement is read by its words, and not at all when it names blank space. -/
theorem sessionUpdate_spelling (use : Use) (spelling : Spelling use.keyword) :
    sessionUpdate (spelling.text use.named) =
      if IsSolid use.named then wordsUpdate spelling.kind use.named else none := by
  have visible : Text.isWhitespace backQuote = false := by decide
  have keyword : IsSolid use.keyword.toList ∧ use.keyword.toList ≠ [] := by
    refine isSolid_keyword _ ?_
    cases use <;> simp [Use.keyword]
  obtain ⟨statement, -, words⟩ := spelling.words keyword.1 keyword.2 visible (by decide)
    use.isQuoted_named
  have quoted := use.isQuoted_named
  rw [sessionUpdate, statement, words]
  by_cases solid : IsSolid use.named
  · have present : use.named ≠ [] := by
      intro none
      rw [none] at quoted
      cases quoted.begins
    rw [splitWhitespace_solid present solid, if_pos solid]
    simp only [spelling.isUse, if_true]
  · have many := two_le_splitWhitespace quoted.begins quoted.ends visible visible solid
    rw [if_neg solid]
    generalize splitWhitespace use.named = rest at many
    match rest with
    | [] | [_] => simp at many
    | _ :: _ :: _ => rfl

/-- A quoted name splits at the first dot of the name. -/
theorem splitOnce_identifier {name : List Char} (undotted : '.' ∉ name) (rest : List Char) :
    splitOnce '.' (identifier name) = none ∧
      splitOnce '.' (identifier name ++ '.' :: rest) = some (identifier name, rest) := by
  have plain : '.' ∉ identifier name := by simp [identifier, wrapped, undotted, backQuote]
  exact ⟨splitOnce_eq_none.mpr plain, splitOnce_eq_some.mpr ⟨plain, rfl⟩⟩

/-- What stands before the first dot has no dot, also when it is cleaned. -/
theorem splitOnce_dotted {value : List Char} (dotted : '.' ∈ value) :
    ∃ before after, splitOnce '.' value = some (before, after) ∧
      ∀ name : List Char, '.' ∈ name → cleanIdentifier before ≠ String.ofList name := by
  obtain ⟨before, after, whole, free⟩ := List.eq_append_cons_of_mem dotted
  refine ⟨before, after, splitOnce_eq_some.mpr ⟨free, whole⟩, fun name inside same => free ?_⟩
  have exact : trim isQuote before = name := String.ofList_injective same
  obtain ⟨left, right, -, -, padded⟩ := exists_pad isQuote before
  rw [← exact] at inside
  rw [padded]
  exact List.mem_append_left _ (List.mem_append_right _ inside)

variable {kind : List Char} (value : List Char)

/-- After `CATALOG` the schema is `default`. -/
theorem wordsUpdate_catalog (same : isWord kind "catalog" = true) : wordsUpdate kind value =
    some (Registry.ofList [("catalog", cleanIdentifier value), ("schema", "default")]) := by
  rw [wordsUpdate, if_pos same]

/-- After `SCHEMA` the name is not split. -/
theorem wordsUpdate_schema (same : isWord kind "schema" = true) : wordsUpdate kind value =
    some (Registry.ofList [("schema", cleanIdentifier value)]) := by
  rw [wordsUpdate, if_neg (by rw [isWord_eq same]; decide), if_pos same]

/-- After `DATABASE` the name is split at its first dot. -/
theorem wordsUpdate_database (same : isWord kind "database" = true) : wordsUpdate kind value =
    match splitOnce '.' value with
    | none => some (Registry.ofList [("schema", cleanIdentifier value)])
    | some (catalog, schema) => some (Registry.ofList
        [("catalog", cleanIdentifier catalog), ("schema", cleanIdentifier schema)]) := by
  rw [wordsUpdate, if_neg (by rw [isWord_eq same]; decide), if_neg (by rw [isWord_eq same]; decide)]
  exact if_pos same

theorem eq_of_lookup {one other : Registry String String} (same : some one = some other)
    (name : String) : one.lookup name = other.lookup name :=
  congrArg (fun values : Registry String String => values.lookup name) (Option.some.inj same)

theorem schema_iff (name : List Char) :
    some (Registry.ofList [("schema", cleanIdentifier (identifier name))]) =
      some (properties [("schema", name)]) ↔ IsCleaned name := by
  rw [← cleanIdentifier_identifier]
  constructor
  · intro same
    exact Option.some.inj (eq_of_lookup same "schema")
  · intro same
    rw [same]
    rfl

/-- A catalog and a schema are tracked when both names are cleaned. -/
theorem pair_iff (one two : List Char) :
    some (Registry.ofList [("catalog", cleanIdentifier (identifier one)),
        ("schema", cleanIdentifier (identifier two))]) =
      some (properties [("catalog", one), ("schema", two)]) ↔ IsCleaned one ∧ IsCleaned two := by
  rw [← cleanIdentifier_identifier, ← cleanIdentifier_identifier]
  constructor
  · intro same
    exact ⟨Option.some.inj (eq_of_lookup same "catalog"),
      Option.some.inj (eq_of_lookup same "schema")⟩
  · rintro ⟨first, second⟩
    rw [first, second]
    rfl

/-- A catalog is tracked when its name is cleaned and the engine takes the schema `default`. -/
theorem catalog_iff (own : Option String) (name : List Char) :
    some (Registry.ofList [("catalog", cleanIdentifier (identifier name)), ("schema", "default")]) =
      some (Use.current own (.catalog name)) ↔ IsCleaned name ∧ own = some "default" := by
  rw [← cleanIdentifier_identifier]
  cases own with
  | none =>
    refine iff_of_false (fun same => ?_) nofun
    cases eq_of_lookup same "schema"
  | some schema =>
    constructor
    · intro same
      have schemas : "default" = String.ofList schema.toList :=
        Option.some.inj (eq_of_lookup same "schema")
      rw [String.ofList_toList] at schemas
      exact ⟨Option.some.inj (eq_of_lookup same "catalog"), congrArg some schemas.symm⟩
    · rintro ⟨cleaned, rest⟩
      rw [cleaned, Option.some.inj rest]
      rfl

/-- A statement of Databricks is tracked exactly when its names have no blank space and survive
cleaning, the engine takes the schema `default` with a catalog, a schema is not qualified, and the
first name after `DATABASE` has no dot. -/
theorem sessionUpdate_iff (own : Option String) (use : Use) (spelling : Spelling use.keyword) :
    sessionUpdate (spelling.text use.named) = some (use.current own) ↔ use.Tracked own := by
  have visible : Text.isWhitespace backQuote = false := by decide
  rw [sessionUpdate_spelling]
  by_cases solid : IsSolid use.named
  · rw [if_pos solid]
    cases use with
    | catalog name =>
      have single := (isSolid_wrapped visible name).mp solid
      rw [wordsUpdate_catalog _ spelling.isKind, Use.Tracked, and_iff_right single]
      exact catalog_iff own name
    | schema name =>
      have single := (isSolid_wrapped visible name).mp solid
      rw [wordsUpdate_schema _ spelling.isKind, Use.Tracked, and_iff_right single]
      exact schema_iff name
    | qualifiedSchema one two =>
      rw [wordsUpdate_schema _ spelling.isKind]
      refine iff_of_false (fun same => ?_) id
      cases eq_of_lookup same "catalog"
    | database name =>
      have single := (isSolid_wrapped visible name).mp solid
      rw [wordsUpdate_database _ spelling.isKind, Use.Tracked, and_iff_right single, Use.named]
      by_cases dotted : '.' ∈ name
      · have inside : '.' ∈ identifier name := by simp [identifier, wrapped, dotted]
        obtain ⟨before, after, split, -⟩ := splitOnce_dotted inside
        rw [split]
        refine iff_of_false (fun same => ?_) fun tracked => tracked.2 dotted
        cases eq_of_lookup same "catalog"
      · rw [(splitOnce_identifier dotted []).1, and_iff_left dotted]
        exact schema_iff name
    | qualifiedDatabase one two =>
      have pair := (isSolid_pair visible one two).mp solid
      rw [wordsUpdate_database _ spelling.isKind, Use.Tracked, and_iff_right pair, Use.named]
      by_cases dotted : '.' ∈ one
      · have inside : '.' ∈ identifier one ++ '.' :: identifier two := by simp
        obtain ⟨before, after, split, other⟩ := splitOnce_dotted inside
        rw [split]
        refine iff_of_false (fun same => ?_) fun tracked => tracked.2.1 dotted
        exact other one dotted (Option.some.inj (eq_of_lookup same "catalog"))
      · rw [(splitOnce_identifier dotted (identifier two)).2, and_iff_right dotted]
        exact pair_iff one two
  · rw [if_neg solid]
    exact iff_of_false (fun same => by cases same) fun tracked => solid tracked.solid

end Databricks

namespace Snowflake

/-- The `USE` statements of Snowflake that name a database or a schema. -/
inductive Use
  | database (database : List Char)
  | schema (schema : List Char)
  | qualifiedSchema (database schema : List Char)

namespace Use

/-- The second word. -/
def keyword : Use → String
  | .database _ => "database"
  | .schema _ | .qualifiedSchema _ _ => "schema"

/-- What the statement names. -/
def named : Use → List Char
  | .database name | .schema name => identifier name
  | .qualifiedSchema one two => identifier one ++ '.' :: identifier two

/-- What the statement makes current in the engine, which may take a schema of its own with a
database. -/
def current (own : Option String) : Use → Registry String String
  | .database name => properties
      (("database", name) :: (own.map fun schema => ("schema", schema.toList)).toList)
  | .schema name => properties [("schema", name)]
  | .qualifiedSchema one two => properties [("database", one), ("schema", two)]

/-- The statements that are tracked. -/
def Tracked (own : Option String) : Use → Prop
  | .database name => IsSolid name ∧ '"' ∉ name ∧ own = none
  | .schema name => IsSolid name ∧ '"' ∉ name
  | .qualifiedSchema _ _ => False

end Use

/-- A quoted name loses its quotes exactly when it has none of its own. -/
theorem trim_identifier (name : List Char) :
    String.ofList (trim (· == '"') (identifier name)) = String.ofList name ↔
      '"' ∉ name := by
  have dropped : ('"' == '"') = true := rfl
  have exact := @trim_wrapped_iff '"' (· == '"') dropped name
  rw [String.ofList_inj]
  refine Iff.trans exact ⟨fun both => both.2, fun absent => ⟨⟨?_, ?_⟩, absent⟩⟩
  · intro first found
    exact beq_eq_false_iff_ne.mpr fun same => absent (same ▸ List.mem_of_mem_head? found)
  · intro last found
    exact beq_eq_false_iff_ne.mpr fun same => absent (same ▸ List.mem_of_getLast? found)

/-- What is read of a statement whose name has no blank space. -/
theorem sessionUpdate_spelling (use : Use) (spelling : Spelling use.keyword) :
    sessionUpdate (spelling.text use.named) = if IsSolid use.named then
      some (Registry.ofList
        [(use.keyword, String.ofList (trim (· == '"') use.named))])
      else none := by
  have quoted : IsQuoted '"' use.named := by
    cases use with
    | database name | schema name => exact isQuoted_wrapped '"' name
    | qualifiedSchema one two => exact isQuoted_pair '"' one two
  have keyword : IsSolid use.keyword.toList ∧ use.keyword.toList ≠ [] := by
    refine isSolid_keyword _ ?_
    cases use <;> simp [Use.keyword]
  have kind : ["database", "schema", "warehouse", "role"].find? (Databricks.isWord spelling.kind) =
      some use.keyword := by
    have same : Databricks.isWord spelling.kind =
        fun other => use.keyword.toList == other.toList := funext (isWord_eq spelling.isKind)
    have found : ∀ keyword ∈ ["database", "schema"],
        ["database", "schema", "warehouse", "role"].find?
          (fun other => keyword.toList == other.toList) = some keyword := by decide
    rw [same]
    refine found _ ?_
    cases use <;> simp [Use.keyword]
  obtain ⟨-, statement, words⟩ := spelling.words keyword.1 keyword.2 rfl (by decide) quoted
  rw [sessionUpdate, statement, words]
  by_cases solid : IsSolid use.named
  · have present : use.named ≠ [] := by
      intro none
      rw [none] at quoted
      cases quoted.begins
    rw [splitWhitespace_solid present solid, if_pos solid]
    simp only [spelling.isUse, kind, if_true]
  · have many := two_le_splitWhitespace quoted.begins quoted.ends rfl rfl solid
    rw [if_neg solid]
    generalize Databricks.splitWhitespace use.named = rest at many
    match rest with
    | [] | [_] => simp at many
    | _ :: _ :: _ => rfl

/-- A statement of Snowflake is tracked exactly when its one name has no blank space and no quotes
and the engine takes no schema of its own with a database. -/
theorem sessionUpdate_iff (own : Option String) (use : Use) (spelling : Spelling use.keyword) :
    sessionUpdate (spelling.text use.named) = some (use.current own) ↔ use.Tracked own := by
  have visible : Text.isWhitespace '"' = false := rfl
  rw [sessionUpdate_spelling]
  by_cases solid : IsSolid use.named
  · rw [if_pos solid]
    cases use with
    | database name =>
      have single := (isSolid_wrapped visible name).mp solid
      rw [Use.Tracked, and_iff_right single, ← trim_identifier]
      cases own with
      | none =>
        rw [and_iff_left rfl]
        constructor
        · intro same
          exact Option.some.inj (Databricks.eq_of_lookup same "database")
        · intro same
          rw [Use.named, same]
          rfl
      | some schema =>
        refine iff_of_false (fun same => ?_) nofun
        cases Databricks.eq_of_lookup same "schema"
    | schema name =>
      have single := (isSolid_wrapped visible name).mp solid
      rw [Use.Tracked, and_iff_right single, ← trim_identifier]
      constructor
      · intro same
        exact Option.some.inj (Databricks.eq_of_lookup same "schema")
      · intro same
        rw [Use.named, same]
        rfl
    | qualifiedSchema one two =>
      refine iff_of_false (fun same => ?_) id
      cases Databricks.eq_of_lookup same "database"
  · rw [if_neg solid]
    refine iff_of_false nofun fun tracked => solid ?_
    cases use with
    | database name => exact (isSolid_wrapped visible name).mpr tracked.1
    | schema name => exact (isSolid_wrapped visible name).mpr tracked.1
    | qualifiedSchema => cases tracked

end Snowflake

/-- A `USE` statement of either engine, typed in any case with any blank space and naming quoted
names, sets exactly what it makes current exactly when it is one of the tracked statements. -/
theorem use_statements_tracked_iff (own : Option String) :
    (∀ (use : Databricks.Use) (spelling : Spelling use.keyword),
      Databricks.sessionUpdate (spelling.text use.named) = some (use.current own) ↔
        use.Tracked own) ∧
    ∀ (use : Snowflake.Use) (spelling : Spelling use.keyword),
      Snowflake.sessionUpdate (spelling.text use.named) = some (use.current own) ↔
        use.Tracked own :=
  ⟨Databricks.sessionUpdate_iff own, Snowflake.sessionUpdate_iff own⟩

/-- `use Catalog` and a name, with a line break and other blank space. -/
def Spelling.sample (keyword : String) (kind : List Char)
    (isKind : Databricks.isWord kind keyword = true) : Spelling keyword where
  before := "  ".toList
  useWord := "uSe".toList
  first := "\n".toList
  kind := kind
  second := " \t".toList
  after := "\n".toList
  blank := ⟨by decide, by decide, by decide, by decide⟩
  apart := ⟨by decide, by decide⟩
  isUse := by decide
  isKind := isKind

/-- Plain names are tracked in both engines, in any spelling of the statements. -/
theorem use_statements_tracked_names :
    Databricks.sessionUpdate "  uSe\nCatalog \t`main`\n" =
        some (properties [("catalog", "main".toList), ("schema", "default".toList)]) ∧
      Snowflake.sessionUpdate "  uSe\nSCHEMA \t\"WEB\"\n" =
        some (properties [("schema", "WEB".toList)]) :=
  ⟨((use_statements_tracked_iff (some "default")).1 (.catalog "main".toList)
      (.sample "catalog" "Catalog".toList (by decide))).mpr
        ⟨by decide, ⟨by decide, by decide⟩, rfl⟩,
    ((use_statements_tracked_iff none).2 (.schema "WEB".toList)
      (.sample "schema" "SCHEMA".toList (by decide))).mpr ⟨by decide, by decide⟩⟩

/-- A qualified schema is taken for one name, quotes and dot included, in both engines. -/
theorem use_qualified_schema_untracked :
    Databricks.sessionUpdate "USE SCHEMA `main`.`web`" =
        some (Registry.ofList [("schema", "main`.`web")]) ∧
      Snowflake.sessionUpdate "USE SCHEMA \"main\".\"web\"" =
        some (Registry.ofList [("schema", "main\".\"web")]) :=
  ⟨by rfl, by rfl⟩

end ConfluxQuery
