import ConfluxQuery.Config.Resolve

/-!
# Expanded values and discovered targets

Expanding a value is one pass of substitution: what stands between references is kept, references
are replaced, and what was put in is not read again. It fails just where an opening has no name that
the environment has a Unicode text for. Discovery does not expand, so it finds the targets of a
configuration that loads just where no engine is written with a reference.
-/

namespace ConfluxQuery.Config

/-- How a reference begins. -/
def opening : List Char := ['$', '\x7b']

section Expansion

variable {environment : Environment} {path : String} {line : Nat}

variable {text before : List Char}

/-- A text without an opening is found to have none, and only such a text. -/
theorem findReference_eq_none :
    findReference text = none ↔ ¬ opening <:+: text := by
  induction text with
  | nil => simp [findReference, opening]
  | cons first rest step =>
    rw [findReference, List.infix_cons_iff, not_or, ← step]
    have begins : opening <+: first :: rest ↔ first = '$' ∧ rest.head? = some '\x7b' := by
      rw [opening, List.cons_prefix_cons, eq_comm]
      cases rest with
      | nil => simp
      | cons second rest => simp [List.cons_prefix_cons, eq_comm]
    by_cases found : first = '$' ∧ rest.head? = some '\x7b'
    · rw [if_pos found]
      simp [begins.mpr found]
    · rw [if_neg found, Option.map_eq_none_iff]
      exact ⟨fun none => ⟨fun here => found (begins.mp here), none⟩, fun both => both.2⟩

theorem findReference_append (free : ¬ opening <:+: before) (after : List Char) :
    findReference (before ++ opening ++ after) = some (before, after) := by
  induction before with
  | nil => simp [findReference, opening]
  | cons first rest step =>
    rw [List.infix_cons_iff, not_or] at free
    have apart : ¬ (first = '$' ∧ (rest ++ opening ++ after).head? = some '\x7b') := by
      rintro ⟨rfl, next⟩
      cases rest with
      | nil => simp [opening] at next
      | cons second rest =>
        have same : second = '\x7b' := by simpa using next
        exact free.1 (same ▸ ⟨rest, rfl⟩)
    rw [List.cons_append, List.cons_append, findReference, if_neg apart, step free.2]
    rfl

/-- The openings of a text are the first one and those after it. -/
theorem findReference_openings {after : List Char}
    (found : findReference text = some (before, after)) (later : List Char) :
    opening ++ later <:+ text ↔ later = after ∨ opening ++ later <:+ after := by
  induction text generalizing before with
  | nil => cases found
  | cons first rest step =>
    rw [findReference] at found
    rw [List.suffix_cons_iff]
    split at found
    · next here =>
      obtain ⟨rfl, next⟩ := here
      cases found
      obtain ⟨more, rfl⟩ : ∃ more, rest = '\x7b' :: more := by
        cases rest with
        | nil => cases next
        | cons second more => exact ⟨more, by rw [Option.some.inj next]⟩
      simp [opening, List.suffix_cons_iff]
    · next elsewhere =>
      obtain ⟨parts, inside, same⟩ := Option.map_eq_some_iff.mp found
      cases same
      rw [step inside, or_iff_right]
      intro here
      cases here
      exact elsewhere ⟨rfl, rfl⟩

theorem opening_suffix_append (free : '$' ∉ text) (rest later : List Char) :
    opening ++ later <:+ text ++ rest ↔ opening ++ later <:+ rest := by
  induction text with
  | nil => rfl
  | cons first text step =>
    rw [List.mem_cons, not_or] at free
    rw [List.cons_append, List.suffix_cons_iff, step free.2, or_iff_right]
    intro same
    exact free.1 (List.cons.inj same).1

/-- The name of a variable. -/
def ValidName (name : List Char) : Prop :=
  name ≠ [] ∧ ∀ character ∈ name, isVariableCharacter character = true

theorem validName_iff {name : List Char} :
    (name.isEmpty || !name.all isVariableCharacter) = false ↔ ValidName name := by
  rw [Bool.or_eq_false_iff, List.isEmpty_eq_false_iff, Bool.not_eq_false', List.all_eq_true]
  rfl

theorem ValidName.absent {name : List Char} (valid : ValidName name) {character : Char}
    (other : isVariableCharacter character = false) : character ∉ name := by
  intro member
  rw [valid.2 character member] at other
  cases other

theorem expandFrom_free (free : ¬ opening <:+: text) :
    expandFrom environment path line text = .ok text := by
  rw [expandFrom]
  split
  · rfl
  · next before after found =>
    rw [findReference_eq_none.mpr free] at found
    cases found

/-- What stands behind an opening is a reference to a variable with a text. -/
structure Resolves (environment : Environment) (after name : List Char) (value : String)
    (later : List Char) : Prop where
  split : after = name ++ '\x7d' :: later
  /-- Its name is one of a variable. -/
  valid : ValidName name
  known : environment (String.ofList name) = .text value

theorem Resolves.splitOnce_eq {after name later : List Char} {value : String}
    (resolved : Resolves environment after name value later) :
    Text.splitOnce '\x7d' after = some (name, later) :=
  Text.splitOnce_eq_some.mpr ⟨resolved.valid.absent (by decide), resolved.split⟩

variable (environment path line) in
/-- One turn of the loop: a reference is replaced, or there is an error. -/
theorem expandFrom_turn {after : List Char} (found : findReference text = some (before, after)) :
    (∃ name value later, Resolves environment after name value later ∧
      expandFrom environment path line text =
        (expandFrom environment path line later).map (before ++ value.toList ++ ·)) ∨
    ((∀ name value later, ¬ Resolves environment after name value later) ∧
      ∃ error, expandFrom environment path line text = .error error) := by
  rw [expandFrom]
  split
  · next none =>
    rw [none] at found
    cases found
  next first rest present =>
  rw [present] at found
  cases found
  split
  · next endless =>
    refine .inr ⟨fun name value later resolved => ?_, _, rfl⟩
    rw [Text.splitOnce_eq_none, resolved.split] at endless
    simp at endless
  next name later split =>
  obtain ⟨absent, whole⟩ := Text.splitOnce_eq_some.mp split
  have unique : ∀ other value rest, Resolves environment after other value rest → other = name := by
    intro other value rest resolved
    have again := resolved.splitOnce_eq
    rw [split] at again
    cases again
    rfl
  split
  · next invalid =>
    refine .inr ⟨fun other value rest resolved => ?_, _, rfl⟩
    have valid := unique other value rest resolved ▸ resolved.valid
    rw [validName_iff.mpr valid] at invalid
    cases invalid
  next valid =>
  have valid := validName_iff.mp (Bool.not_eq_true _ ▸ valid)
  split
  · next value known => exact .inl ⟨name, value, later, ⟨whole, valid, known⟩, rfl⟩
  · next unknown =>
    refine .inr ⟨fun other value rest resolved => unknown value ?_, _, rfl⟩
    rw [← unique other value rest resolved]
    exact resolved.known

/-- A reference is replaced, and the loop goes on behind it. -/
theorem expandFrom_resolved {after name later : List Char} {value : String}
    (free : ¬ opening <:+: before) (resolved : Resolves environment after name value later) :
    expandFrom environment path line (before ++ opening ++ after) =
      (expandFrom environment path line later).map (before ++ value.toList ++ ·) := by
  rcases expandFrom_turn environment path line (findReference_append free after) with
    ⟨other, found, rest, same, turn⟩ | ⟨none, -⟩
  · have here := resolved.splitOnce_eq
    rw [same.splitOnce_eq] at here
    cases here
    have values := same.known
    rw [resolved.known] at values
    cases values
    exact turn
  · exact absurd resolved (none name value later)

/-- A text without an opening, a reference behind it, and the value of its variable. -/
structure Piece where
  literal : List Char
  name : List Char
  value : String

namespace Piece

/-- The piece as it is written. -/
def written (piece : Piece) : List Char :=
  piece.literal ++ opening ++ (piece.name ++ ['\x7d'])

/-- The piece with the value in the place of the reference. -/
def replaced (piece : Piece) : List Char := piece.literal ++ piece.value.toList

/-- The literal has no opening, and the name is one of a variable that has the value. -/
def Proper (environment : Environment) (piece : Piece) : Prop :=
  ¬ opening <:+: piece.literal ∧ ValidName piece.name ∧
    environment (String.ofList piece.name) = .text piece.value

end Piece

/-- Pieces are expanded one after the other, and values are not read again. -/
theorem expandFrom_pieces {pieces : List Piece} {last : List Char}
    (proper : ∀ piece ∈ pieces, piece.Proper environment) (free : ¬ opening <:+: last) :
    expandFrom environment path line (pieces.flatMap Piece.written ++ last) =
      .ok (pieces.flatMap Piece.replaced ++ last) := by
  induction pieces with
  | nil => exact expandFrom_free free
  | cons piece pieces step =>
    obtain ⟨literal, valid, known⟩ := proper piece List.mem_cons_self
    have rest := step fun other member => proper other (List.mem_cons_of_mem _ member)
    have shape : (piece :: pieces).flatMap Piece.written ++ last = piece.literal ++ opening ++
        (piece.name ++ '\x7d' :: (pieces.flatMap Piece.written ++ last)) := by
      simp [Piece.written]
    rw [shape, expandFrom_resolved literal ⟨rfl, valid, known⟩, rest]
    simp [Except.map, Piece.replaced]

/-- The expansion fails just where something behind an opening is no reference to a variable with a
text. -/
theorem expandFrom_fails_iff (text : List Char) :
    (∃ error, expandFrom environment path line text = .error error) ↔
      ∃ after, opening ++ after <:+ text ∧
        ∀ name value later, ¬ Resolves environment after name value later := by
  induction bound : text.length using Nat.strong_induction_on generalizing text with
  | _ size step =>
  cases found : findReference text with
  | none =>
    have free := findReference_eq_none.mp found
    rw [expandFrom_free free]
    constructor
    · rintro ⟨error, impossible⟩
      cases impossible
    · rintro ⟨after, inside, -⟩
      exact absurd ((List.prefix_append opening after).isInfix.trans inside.isInfix) free
  | some parts =>
    obtain ⟨before, after⟩ := parts
    simp only [findReference_openings found]
    rcases expandFrom_turn environment path line found with
      ⟨name, value, later, resolved, turn⟩ | ⟨none, failed⟩
    · -- The reference is replaced, so the failures are those of the text behind it.
      have shorter : later.length < size := by
        rw [← bound]
        exact Nat.lt_trans (Text.splitOnce_shorter resolved.splitOnce_eq) (findReference_shorter
          found)
      have passed : (∃ error, expandFrom environment path line text = .error error) ↔
          ∃ error, expandFrom environment path line later = .error error := by
        rw [turn]
        cases expandFrom environment path line later <;> simp [Except.map]
      have behind : ∀ other, opening ++ other <:+ after ↔ opening ++ other <:+ later := by
        intro other
        have dollar : '$' ∉ name := resolved.valid.absent (by decide)
        have apart : '$' ∉ name ++ ['\x7d'] := by simp [dollar]
        rw [resolved.split, ← List.singleton_append, ← List.append_assoc,
          opening_suffix_append apart]
      rw [passed, step later.length shorter later rfl]
      refine exists_congr fun other => and_congr_left fun none => ?_
      rw [behind, or_iff_right]
      rintro rfl
      exact none name value later resolved
    · exact iff_of_true failed ⟨after, .inl rfl, none⟩

/-- What stands behind an opening is no reference: it does not end, its name is empty or has another
character than a letter, a digit or an underscore, or the variable has no Unicode text. -/
def Broken (environment : Environment) (after : List Char) : Prop :=
  '\x7d' ∉ after ∨
    let name := after.takeWhile (· != '\x7d')
    name = [] ∨ (∃ character ∈ name, isVariableCharacter character = false) ∨
      environment (String.ofList name) = .unset ∨ environment (String.ofList name) = .notUnicode

/-- What is broken resolves to nothing, and the other way round. -/
theorem broken_iff {after : List Char} : Broken environment after ↔
    ∀ name value later, ¬ Resolves environment after name value later := by
  by_cases ends : '\x7d' ∈ after
  · obtain ⟨name, later, whole, absent⟩ := List.eq_append_cons_of_mem ends
    have split : Text.splitOnce '\x7d' after = some (name, later) :=
      Text.splitOnce_eq_some.mpr ⟨absent, whole⟩
    have taken : after.takeWhile (· != '\x7d') = name :=
      ((Text.cut_iff fun letter => bne_iff_ne).mpr ⟨absent, whole⟩).1
    have only : (∀ name value later, ¬ Resolves environment after name value later) ↔
        ¬ (ValidName name ∧ ∃ value, environment (String.ofList name) = .text value) := by
      constructor
      · rintro none ⟨valid, value, known⟩
        exact none name value later ⟨whole, valid, known⟩
      · intro none other value rest resolved
        have same := resolved.splitOnce_eq
        rw [split] at same
        cases same
        exact none ⟨resolved.valid, value, resolved.known⟩
    simp only [only, Broken, taken, ValidName]
    generalize environment (String.ofList name) = held
    cases held <;> simp [ends, or_iff_not_imp_left]
  · refine iff_of_true (.inl ends) fun name value later resolved => ends ?_
    rw [resolved.split]
    exact List.mem_append_right _ List.mem_cons_self

/-- Expansion is substitution in one pass: pieces of text are kept and references replaced, whatever
the values contain. It fails just where an opening of the value has no reference behind it to a
variable with a Unicode text. -/
theorem environment_expanded (environment : Environment) (path : String) (line : Nat) :
    (∀ (pieces : List Piece) (last : List Char),
      (∀ piece ∈ pieces, piece.Proper environment) → ¬ opening <:+: last →
        expandEnvironment environment path line
            (String.ofList (pieces.flatMap Piece.written ++ last)) =
          .ok (String.ofList (pieces.flatMap Piece.replaced ++ last))) ∧
    ∀ value : String, (∃ error, expandEnvironment environment path line value = .error error) ↔
      ∃ before after, value.toList = before ++ opening ++ after ∧ Broken environment after := by
  constructor
  · intro pieces last proper free
    rw [expandEnvironment, String.toList_ofList, expandFrom_pieces proper free]
    rfl
  · intro value
    have passed : (∃ error, expandEnvironment environment path line value = .error error) ↔
        ∃ error, expandFrom environment path line value.toList = .error error := by
      rw [expandEnvironment]
      cases expandFrom environment path line value.toList <;> simp [Except.map]
    rw [passed, expandFrom_fails_iff]
    simp only [← broken_iff]
    constructor
    · rintro ⟨after, ⟨before, whole⟩, broken⟩
      exact ⟨before, after, by rw [← whole, List.append_assoc], broken⟩
    · rintro ⟨before, after, whole, broken⟩
      exact ⟨after, ⟨before, by rw [whole, List.append_assoc]⟩, broken⟩

/-- A variable that is set to bytes that are not Unicode is said not to be set. -/
theorem expansion_not_unicode :
    expandEnvironment (fun _ => .notUnicode) "f" 1 "$\x7bX\x7d" =
      .error ⟨"f", some 1, "required environment variable 'X' is not set"⟩ ∧
    (fun _ : String => Variable.notUnicode) "X" ≠ .unset := by
  decide +kernel

end Expansion

section Discovery

variable {environment : Environment} {path : String}

/-- The engine of a section is written without a reference. -/
def PlainEngine (properties : Registry String ParsedValue) : Prop :=
  ∀ engine, properties.lookup "engine" = some engine → ¬ opening <:+: engine.value.toList

/-- An engine that is read is the one the section defines. -/
theorem lookup_of_engineValue {name : String} {properties : Registry String ParsedValue}
    {value : ParsedValue} (read : engineValue path name properties = .ok value) :
    properties.lookup "engine" = some value := by
  rw [engineValue] at read
  split at read
  · cases read
  split at read
  · cases read
  · next found =>
    cases read
    exact found

/-- A value without a reference is its own expansion. -/
theorem expandEnvironment_free {value : String} (free : ¬ opening <:+: value.toList) (line : Nat) :
    expandEnvironment environment path line value = .ok value := by
  rw [expandEnvironment, expandFrom_free free]
  exact congrArg _ String.ofList_toList

/-- The name of an engine has no reference in it, in small or capital letters. -/
theorem validateEngine_free {line : Nat} {value : String}
    (valid : validateEngine path line (toAsciiLowercase value) = .ok ()) :
    ¬ opening <:+: value.toList := by
  intro inside
  have sign : '$' ∈ value.toList := inside.mem List.mem_cons_self
  have lower : '$' ∈ (toAsciiLowercase value).toList := by
    rw [toAsciiLowercase, String.toList_ofList]
    exact List.mem_map.mpr ⟨'$', sign, by decide⟩
  rw [validateEngine] at valid
  split at valid
  · next known =>
    simp only [List.mem_cons, List.not_mem_nil, or_false] at known
    rcases known with same | same | same | same <;> rw [same] at lower <;> revert lower <;> decide
  · cases valid

variable {defaults : Registry String ConfigValue} {entry : String × Registry String ParsedValue}
  {target : ResolvedTarget} {targets : List ResolvedTarget}
  {parsed : Registry String (Registry String ParsedValue)} {file : ConfigFile}

theorem resolveTarget_eq_ok
    (resolved : resolveTarget environment path defaults entry = .ok target) :
    ∃ value expanded, engineValue path entry.1 entry.2 = .ok value ∧
      expandEnvironment environment path value.line value.value = .ok expanded ∧
      validateEngine path value.line (toAsciiLowercase expanded) = .ok () ∧
      target.summary = ⟨entry.1, toAsciiLowercase expanded⟩ := by
  rw [resolveTarget] at resolved
  obtain ⟨value, read, resolved⟩ := Except.bind_eq_ok.mp resolved
  obtain ⟨expanded, expansion, resolved⟩ := Except.bind_eq_ok.mp resolved
  obtain ⟨_, valid, resolved⟩ := Except.bind_eq_ok.mp resolved
  obtain ⟨values, -, resolved⟩ := Except.bind_eq_ok.mp resolved
  cases resolved
  exact ⟨value, expanded, read, expansion, valid, rfl⟩

/-- Discovery finds a target that resolves just where its engine is written without a reference. -/
theorem discoverTarget_iff (resolved : resolveTarget environment path defaults entry = .ok target) :
    discoverTarget path entry = .ok target.summary ↔ PlainEngine entry.2 := by
  obtain ⟨value, expanded, read, expansion, valid, shown⟩ := resolveTarget_eq_ok resolved
  have plain : PlainEngine entry.2 ↔ ¬ opening <:+: value.value.toList := by
    rw [PlainEngine, lookup_of_engineValue read]
    simp
  rw [plain, shown, discoverTarget, read]
  constructor
  · intro discovered
    obtain ⟨_, same, discovered⟩ := Except.bind_eq_ok.mp discovered
    cases same
    obtain ⟨_, other, -⟩ := Except.bind_eq_ok.mp discovered
    exact validateEngine_free other
  · intro free
    rw [expandEnvironment_free free] at expansion
    cases expansion
    change (validateEngine path value.line _ >>= fun _ => _) = _
    rw [valid]
    rfl

/-- Discovery finds the targets of sections that resolve just where every engine is written without
a reference. -/
theorem discoverTargets_mapM_iff {entries : List (String × Registry String ParsedValue)}
    (resolved : entries.mapM (resolveTarget environment path defaults) = .ok targets) :
    entries.mapM (discoverTarget path) = .ok (targets.map ResolvedTarget.summary) ↔
      ∀ entry ∈ entries, PlainEngine entry.2 := by
  have each := List.mapM_eq_ok_iff.mp resolved
  rw [List.mapM_eq_ok_iff, List.forall₂_map_right_iff]
  clear resolved
  induction each with
  | nil => simp
  | cons first _ step =>
    rw [List.forall₂_cons, List.forall_mem_cons, discoverTarget_iff first]
    exact and_congr_right fun _ => step

/-- Resolved targets have the names of their sections. -/
theorem resolveTarget_name (resolved : resolveTarget environment path defaults entry = .ok target) :
    target.name = entry.1 := by
  obtain ⟨_, _, -, -, -, shown⟩ := resolveTarget_eq_ok resolved
  exact congrArg TargetSummary.name shown

/-- Resolved targets have the names of the sections, in their order. -/
theorem resolved_names {entries : List (String × Registry String ParsedValue)}

    (each : List.Forall₂ (fun entry target => resolveTarget environment path defaults entry =
      .ok target) entries targets) :
    targets.map ResolvedTarget.name = entries.map Prod.fst := by
  induction each with
  | nil => rfl
  | cons first _ step => rw [List.map_cons, List.map_cons, step, resolveTarget_name first]

/-- Resolved targets are listed in the order of their sections. -/
theorem targetList_resolved

    (resolved : (Registry.inOrder parsed).mapM (resolveTarget environment path defaults) =
      .ok targets) :
    (Registry.inOrder (Registry.ofList (targets.map fun target => (target.name, target)))).map
      Prod.snd = targets := by
  have names : targets.map ResolvedTarget.name = (Registry.inOrder parsed).map Prod.fst :=
    resolved_names (List.mapM_eq_ok_iff.mp resolved)
  have increasing : (targets.map fun target => (target.name, target)).Pairwise
      fun first second => first.1 < second.1 := by
    rw [List.pairwise_map, ← List.pairwise_map (f := ResolvedTarget.name) (R := (· < ·)), names,
      List.pairwise_map]
    exact Registry.pairwise_inOrder parsed
  rw [Registry.inOrder_ofList increasing, List.map_map]
  exact List.map_id _

/-- A load that succeeds, step by step. -/
theorem load_eq_ok {config : Configuration} (loaded : load environment file = .ok config) :
    ∃ parsed defaults targets, parse file.path file.source = .ok parsed ∧
      validatePermissions file parsed = .ok () ∧
      (Registry.inOrder (parsed.erase "default")).mapM
        (resolveTarget environment file.path defaults) = .ok targets ∧
      targets.isEmpty = false ∧ config.targetList = targets := by
  rw [load] at loaded
  obtain ⟨parsed, read, loaded⟩ := Except.bind_eq_ok.mp loaded
  obtain ⟨_, permitted, loaded⟩ := Except.bind_eq_ok.mp loaded
  rw [resolve] at loaded
  obtain ⟨defaults, -, loaded⟩ := Except.bind_eq_ok.mp loaded
  obtain ⟨targets, resolved, loaded⟩ := Except.bind_eq_ok.mp loaded
  split at loaded
  · cases loaded
  · next some =>
    cases loaded
    exact ⟨parsed, defaults, targets, read, permitted, resolved, Bool.not_eq_true _ ▸ some,
      targetList_resolved resolved⟩

/-- Discovery of a file that is read and permitted is a pass over its sections. -/
theorem discoverTargets_eq_ok_iff {summaries : List TargetSummary}
    (read : parse file.path file.source = .ok parsed)
    (permitted : validatePermissions file parsed = .ok ()) (some : summaries.isEmpty = false) :
    discoverTargets file = .ok summaries ↔
      (Registry.inOrder (parsed.erase "default")).mapM (discoverTarget file.path) =
        .ok summaries := by
  rw [discoverTargets, read]
  change (validatePermissions file parsed >>= fun _ => _) = _ ↔ _
  rw [permitted, Except.bind_eq_ok]
  constructor
  · rintro ⟨-, -, discovered⟩
    obtain ⟨targets, traversed, discovered⟩ := Except.bind_eq_ok.mp discovered
    split at discovered
    · cases discovered
    · cases discovered
      exact traversed
  · intro traversed
    refine ⟨(), rfl, Except.bind_eq_ok.mpr ⟨_, traversed, ?_⟩⟩
    rw [some]
    rfl

/-- The sections of targets are those with other names than `default`. -/
theorem mem_target_sections :
    entry ∈ Registry.inOrder (parsed.erase "default") ↔
      entry.1 ≠ "default" ∧ parsed.lookup entry.1 = some entry.2 := by
  rw [(Registry.inOrder_perm _).mem_iff, Registry.mem_toList, Registry.lookup_erase_ite]
  by_cases same : entry.1 = "default" <;> simp [same]

/-- Discovery finds the targets of a configuration that loads, with their engines and in their
order, just where no target writes its engine with a reference. -/
theorem discovery_agrees_iff (environment : Environment) (file : ConfigFile)
    (config : Configuration) (loaded : load environment file = .ok config) :
    discoverTargets file = .ok (config.targetList.map ResolvedTarget.summary) ↔
      ∀ parsed, parse file.path file.source = .ok parsed → ∀ name properties engine,
        name ≠ "default" → parsed.lookup name = some properties →
          properties.lookup "engine" = some engine → ¬ opening <:+: engine.value.toList := by
  obtain ⟨parsed, defaults, targets, read, permitted, resolved, some, listed⟩ := load_eq_ok loaded
  have summaries : (targets.map ResolvedTarget.summary).isEmpty = false := by
    rw [List.isEmpty_map, some]
  rw [listed, discoverTargets_eq_ok_iff read permitted summaries,
    discoverTargets_mapM_iff resolved, read]
  constructor
  · intro plain other same name properties engine apart present
    cases same
    exact plain (name, properties) (mem_target_sections.mpr ⟨apart, present⟩) engine
  · intro plain entry listed engine
    obtain ⟨apart, present⟩ := mem_target_sections.mp listed
    exact plain parsed rfl entry.1 entry.2 engine apart present

theorem parseLine_named {lineNo : Nat} {text : List Char} {state next : ParseState}
    (parsed : parseLine path lineNo text state = .ok next) (named : "" ∉ state.sections) :
    "" ∉ next.sections := by
  simp only [parseLine] at parsed
  split at parsed
  · cases parsed
    exact named
  split at parsed
  · split at parsed
    · cases parsed
    obtain ⟨_, valid, parsed⟩ := Except.bind_eq_ok.mp parsed
    split at parsed
    · cases parsed
    cases parsed
    rw [validateSectionName] at valid
    split at valid
    · cases valid
    next some =>
    simp only [ParseState.enter, AList.mem_insert, not_or]
    exact ⟨by simpa [← String.toList_inj] using Ne.symm (by simpa using some), named⟩
  · split at parsed
    · cases parsed
    next name opened =>
    split at parsed
    · cases parsed
    obtain ⟨_, _, parsed⟩ := Except.bind_eq_ok.mp parsed
    obtain ⟨_, _, parsed⟩ := Except.bind_eq_ok.mp parsed
    split at parsed
    · cases parsed
    cases parsed
    simp only [ParseState.define, AList.mem_insert, not_or]
    exact ⟨fun same => named (same ▸ state.known name opened), named⟩

/-- The sections of a file have names. -/
theorem parse_named {source : String} (read : parse path source = .ok parsed) : "" ∉ parsed := by
  have run : ∀ (texts : List (List Char)) (lineNo : Nat) (state final : ParseState),
      parseLines path lineNo texts state = .ok final → "" ∉ state.sections →
        "" ∉ final.sections := by
    intro texts
    induction texts with
    | nil =>
      rintro _ _ _ done named
      cases done
      exact named
    | cons text texts step =>
      intro lineNo state final done named
      obtain ⟨next, parsed, done⟩ := Except.bind_eq_ok.mp done
      exact step _ _ _ done (parseLine_named parsed named)
  rw [parse] at read
  obtain ⟨final, done, read⟩ := Except.bind_eq_ok.mp read
  split at read
  · cases read
  · cases read
    exact run _ _ _ _ done (AList.notMem_empty "")

/-- The targets of a configuration that loads have names. -/
theorem load_target_named {config : Configuration} (loaded : load environment file = .ok config)
    (member : target ∈ config.targetList) : target.name ≠ "" := by
  obtain ⟨parsed, defaults, targets, read, -, resolved, -, rfl⟩ := load_eq_ok loaded
  have each := List.mapM_eq_ok_iff.mp resolved
  obtain ⟨entry, listed, same⟩ : ∃ entry ∈ Registry.inOrder (parsed.erase "default"),
      entry.1 = target.name := by
    have names : config.targetList.map ResolvedTarget.name =
        (Registry.inOrder (parsed.erase "default")).map Prod.fst := resolved_names each
    have present := List.mem_map_of_mem (f := ResolvedTarget.name) member
    rw [names] at present
    exact List.mem_map.mp present
  rintro empty
  obtain ⟨-, found⟩ := mem_target_sections.mp listed
  rw [same, empty] at found
  exact parse_named read (AList.lookup_isSome.mp (by rw [found]; rfl))

/-- A file with one target. -/
def oneTarget (engine : String) : ConfigFile := ⟨"f", "[t]\nengine = " ++ engine, .ok 0⟩

/-- The target of a file that names its engine is discovered as it is loaded. -/
theorem discovery_agrees_named : ∃ config, load (fun _ => .unset) (oneTarget "Demo") = .ok config ∧
    discoverTargets (oneTarget "Demo") = .ok (config.targetList.map ResolvedTarget.summary) := by
  have loads : (load (fun _ => .unset) (oneTarget "Demo")).toOption.isSome = true := by
    decide +kernel
  have plain : ((parse "f" (oneTarget "Demo").source).toOption.all fun parsed =>
      parsed.entries.all fun entry => entry.2.entries.all fun property =>
        !decide ('$' ∈ property.2.value.toList)) = true := by
    decide +kernel
  cases loaded : load (fun _ => .unset) (oneTarget "Demo") with
  | error error =>
    rw [loaded] at loads
    cases loads
  | ok config =>
    refine ⟨config, rfl, (discovery_agrees_iff _ _ config loaded).mpr ?_⟩
    intro parsed read name properties engine _ present defined inside
    rw [show (oneTarget "Demo").path = "f" from rfl] at read
    rw [read] at plain
    have entry := List.all_eq_true.mp plain _ (AList.mem_lookup_iff.mp present)
    have sign := List.all_eq_true.mp entry _ (AList.mem_lookup_iff.mp defined)
    have absent : '$' ∉ engine.value.toList := by simpa using sign
    exact absent (inside.mem List.mem_cons_self)

/-- A file whose engine is a variable loads, and discovery refuses it. -/
theorem discovery_refuses_reference :
    ((load (fun _ => .text "demo") (oneTarget "$\x7bE\x7d")).toOption.map fun config =>
      config.targetList.map ResolvedTarget.summary) = some [⟨"t", "demo"⟩] ∧
    discoverTargets (oneTarget "$\x7bE\x7d") =
      .error ⟨"f", some 2, "unsupported engine '$\x7be\x7d'"⟩ := by
  decide +kernel

end Discovery

end ConfluxQuery.Config
