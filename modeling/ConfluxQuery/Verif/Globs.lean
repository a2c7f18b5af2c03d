import ConfluxQuery.Driver.Snowflake
import ConfluxQuery.Driver.TrinoMetadata
import ConfluxQuery.Lib.Wildcards
import ConfluxQuery.Repl.Globs

/-!
# The pattern languages of names

The REPL's matcher accepts a name just where the name splits into pieces for the characters of the
pattern. The `LIKE` pattern of the Trino adapter has the same meaning for every pattern. The filters
of the other adapters have it for the patterns whose only wildcard is a star at the end.
-/

namespace ConfluxQuery

open Wildcard

/-- What a character of a pattern asks for. -/
def globSymbol (character : Char) : Symbol Char :=
  if character = '*' then .run else if character = '?' then .one else .exactly character

/-- A name matches a pattern: it splits into consecutive pieces for the characters. -/
def Glob (pattern name : String) : Prop :=
  Accepts (pattern.toList.map globSymbol) name.toList

theorem globSymbol_single {character : Char} (other : character ≠ '*') (piece : List Char)
    (covered : (globSymbol character).Covers piece) : piece.length = 1 := by
  rw [globSymbol, if_neg other] at covered
  split at covered
  · exact covered
  · rw [covered]
    rfl

/-- The letters a character other than a star covers. -/
theorem globSymbol_covers {character letter : Char} (other : character ≠ '*') :
    (globSymbol character).Covers [letter] ↔ character = '?' ∨ character = letter := by
  rw [globSymbol, if_neg other]
  by_cases any : character = '?'
  · simp [any, Symbol.Covers]
  · simp [any, Symbol.Covers, eq_comm]

namespace Repl

variable {symbols : List (Symbol Char)} {value : List Char}

/-- The cells of a row mark the longer beginnings of the name, when the cells above do. -/
theorem globCells_marks {token : Char} {done : List Char} {diagonal left : Bool} {above : List Bool}
    (before : Marks (Accepts symbols) done value (diagonal :: above))
    (first : left = true ↔ Accepts (symbols ++ [globSymbol token]) done) :
    Marks (Accepts (symbols ++ [globSymbol token])) done value
      (left :: globCells token diagonal left value above) := by
  induction value generalizing done diagonal left above with
  | nil => exact ⟨left, rfl, first⟩
  | cons letter value step =>
    obtain ⟨cell, cells, same, corner, later⟩ := before
    cases same
    obtain ⟨upper, row, rfl, correct⟩ := later.cons
    refine ⟨left, _, rfl, first, step later ?_⟩
    -- A star goes on with the row or takes over from the row above; other characters use a letter.
    by_cases star : token = '*'
    · subst star
      rw [if_pos rfl, Bool.or_eq_true, correct, first]
      exact accepts_run_concat.symm
    · rw [if_neg star, accepts_concat (globSymbol_single star), globSymbol_covers star, ← corner]
      simp

/-- A row of the table marks what the pattern up to its character accepts. -/
theorem globRow_marks {previous : List Bool} (token : Char)
    (before : Marks (Accepts symbols) [] value previous) :
    Marks (Accepts (symbols ++ [globSymbol token])) [] value (globRow value previous token) := by
  obtain ⟨corner, above, rfl, correct⟩ := before.cons
  refine globCells_marks before ?_
  by_cases star : token = '*'
  · subst star
    rw [decide_eq_true rfl, Bool.true_and, correct]
    exact accepts_run_nil.symm
  · simp only [star, decide_false, Bool.false_and, Bool.false_eq_true, false_iff]
    exact not_accepts_nil (globSymbol_single star)

theorem globStart_marks (value : List Char) :
    Marks (Accepts []) [] value (globStart value) := by
  have later : ∀ (rest done : List Char), done ≠ [] →
      Marks (Accepts []) done rest (List.replicate (rest.length + 1) false) := by
    intro rest
    induction rest with
    | nil => exact fun done longer => ⟨false, rfl, by simpa [accepts_nil] using longer⟩
    | cons letter rest step =>
      exact fun done longer => ⟨false, _, rfl, by simpa [accepts_nil] using longer,
        step _ (by simp)⟩
  cases value with
  | nil => exact ⟨true, rfl, by simp [accepts_nil]⟩
  | cons letter rest => exact ⟨true, _, rfl, by simp [accepts_nil], later rest _ (by simp)⟩

/-- The last row marks what the whole pattern accepts. -/
theorem globRows_marks {row : List Bool} (pattern : List Char)
    (before : Marks (Accepts symbols) [] value row) :
    Marks (Accepts (symbols ++ pattern.map globSymbol)) [] value
      (pattern.foldl (globRow value) row) := by
  induction pattern generalizing symbols row with
  | nil => simpa using before
  | cons token pattern step => simpa using step (globRow_marks token before)

/-- The end of the last row is the mark of the whole name. -/
theorem globMatches_eq_true {pattern name : String} :
    globMatches (some pattern) name = true ↔ Glob pattern name := by
  have marks := globRows_marks pattern.toList (globStart_marks name.toList)
  rw [globMatches, beq_iff_eq, marks.getLast?]
  rfl

/-- The REPL's matcher accepts a name just where the name splits into consecutive pieces, one for
each character of the pattern: any letters for a star, one letter for a question mark and the letter
itself for any other. -/
theorem glob_matches_iff (pattern name : String) :
    globMatches (some pattern) name = true ↔
      ∃ pieces : List (List Char), name.toList = pieces.flatten ∧
        List.Forall₂ (fun token piece => if token = '*' then True
          else if token = '?' then piece.length = 1 else piece = [token])
          pattern.toList pieces := by
  rw [globMatches_eq_true, Glob, Accepts]
  simp only [List.forall₂_map_left_iff]
  refine exists_congr fun pieces => and_congr_right fun _ => ?_
  have same : (fun token => (globSymbol token).Covers) = fun token piece =>
      if token = '*' then True else if token = '?' then piece.length = 1 else piece = [token] := by
    funext token piece
    rw [globSymbol]
    split
    · rfl
    split
    · rfl
    · rfl
  rw [same]

end Repl

/-- The symbols of a `LIKE` pattern with an escape character; none if the escape character stands
before another character than a wildcard or itself. -/
def likeSymbols (escape : Char) : List Char → Option (List (Symbol Char))
  | [] => some []
  | character :: rest =>
    if character = escape then
      match rest with
      | [] => none
      | next :: rest =>
        if next = '%' ∨ next = '_' ∨ next = escape then
          (likeSymbols escape rest).map (Symbol.exactly next :: ·)
        else none
    else
      let symbol := if character = '%' then .run
        else if character = '_' then .one else .exactly character
      (likeSymbols escape rest).map (symbol :: ·)

/-- The predicate `name LIKE pattern ESCAPE escape`. -/
def Like (name pattern : List Char) (escape : Char) : Prop :=
  ∃ symbols, likeSymbols escape pattern = some symbols ∧ Accepts symbols name

/-- A character that is not the escape character asks for what it means by itself. -/
theorem likeSymbols_plain {escape character : Char} (plain : character ≠ escape)
    (rest : List Char) : likeSymbols escape (character :: rest) =
      (likeSymbols escape rest).map ((if character = '%' then .run
        else if character = '_' then .one else .exactly character) :: ·) := by
  rw [likeSymbols.eq_def]
  exact if_neg plain

/-- An escaped wildcard or escape character asks for itself. -/
theorem likeSymbols_escaped {escape character : Char}
    (special : character = '%' ∨ character = '_' ∨ character = escape) (rest : List Char) :
    likeSymbols escape (escape :: character :: rest) =
      (likeSymbols escape rest).map (Symbol.exactly character :: ·) := by
  rw [likeSymbols.eq_def]
  exact (if_pos rfl).trans (if_pos special)

/-- The translation of a pattern has the symbols of the pattern. -/
theorem likeSymbols_globToLike (pattern : List Char) :
    likeSymbols '$' (Trino.globToLike pattern) = some (pattern.map globSymbol) := by
  induction pattern with
  | nil => rfl
  | cons character pattern step =>
    rw [Trino.globToLike, List.flatMap_cons, ← Trino.globToLike, List.map_cons, globSymbol]
    by_cases star : character = '*'
    · rw [if_pos star, if_pos star, List.singleton_append, likeSymbols_plain (by decide), step]
      rfl
    by_cases any : character = '?'
    · rw [if_neg star, if_pos any, if_neg star, if_pos any, List.singleton_append,
        likeSymbols_plain (by decide), step]
      rfl
    rw [if_neg star, if_neg any, if_neg star, if_neg any]
    -- The wildcards of the other language and the escape character come escaped.
    by_cases special : character = '%' ∨ character = '_' ∨ character = '$'
    · rw [if_pos special, List.cons_append, List.singleton_append, likeSymbols_escaped special,
        step]
      rfl
    · rw [if_neg special, List.singleton_append]
      simp only [not_or] at special
      rw [likeSymbols_plain special.2.2, if_neg special.1, if_neg special.2.1, step]
      rfl

/-- The translation of a pattern is a `LIKE` pattern, and a name is like it just where the name
matches the pattern. -/
theorem glob_to_like_iff (pattern name : String) :
    (likeSymbols '$' (Trino.globToLike pattern.toList)).isSome = true ∧
      (Like name.toList (Trino.globToLike pattern.toList) '$' ↔ Glob pattern name) := by
  rw [Like, likeSymbols_globToLike]
  refine ⟨rfl, ?_⟩
  constructor
  · rintro ⟨symbols, same, accepted⟩
    cases same
    exact accepted
  · exact fun accepted => ⟨_, rfl, accepted⟩

/-- A pattern whose only wildcard is a star at its end. -/
def SuffixPattern (pattern : List Char) : Prop :=
  '?' ∉ pattern ∧ '*' ∉ pattern.dropLast

variable {letters : List Char}

theorem map_globSymbol_plain (any : '?' ∉ letters) (star : '*' ∉ letters) :
    letters.map globSymbol = letters.map Symbol.exactly := by
  refine List.map_congr_left fun letter member => ?_
  have solid : letter ≠ '*' ∧ letter ≠ '?' :=
    ⟨ne_of_mem_of_not_mem member star, ne_of_mem_of_not_mem member any⟩
  rw [globSymbol, if_neg solid.1, if_neg solid.2]

/-- A name that a character of a pattern accepts and that differs from the character, if it is a
wildcard. -/
def plainPiece (character : Char) : List Char :=
  if character = '*' then [] else if character = '?' then ['a'] else [character]

/-- The characters of a pattern cover the pieces chosen for them. -/
theorem accepts_plainPiece (pattern : List Char) :
    Accepts (pattern.map globSymbol) (pattern.flatMap plainPiece) := by
  induction pattern with
  | nil => exact accepts_nil.mpr rfl
  | cons character pattern step =>
    refine accepts_cons.mpr ⟨plainPiece character, _, List.flatMap_cons, ?_, step⟩
    rw [globSymbol, plainPiece]
    split
    · trivial
    split
    · exact rfl
    · exact rfl

theorem length_plainPiece_le (pattern : List Char) :
    (pattern.flatMap plainPiece).length ≤ pattern.length := by
  induction pattern with
  | nil => exact Nat.le_refl 0
  | cons character pattern step =>
    have short : (plainPiece character).length ≤ 1 := by
      rw [plainPiece]
      split
      · exact Nat.zero_le 1
      · split <;> exact Nat.le_refl 1
    rw [List.flatMap_cons, List.length_append, List.length_cons]
    omega

theorem plainPiece_plain {pattern : List Char} {letter : Char}
    (member : letter ∈ pattern.flatMap plainPiece) : letter ≠ '*' ∧ letter ≠ '?' := by
  obtain ⟨character, -, inside⟩ := List.mem_flatMap.mp member
  rw [plainPiece] at inside
  split at inside
  · cases inside
  split at inside
  · cases List.mem_singleton.mp inside
    decide
  · next star any =>
    cases List.mem_singleton.mp inside
    exact ⟨star, any⟩

/-- A pattern with a wildcard accepts a name that does not begin with the pattern. -/
theorem exists_accepted {pattern : List Char} (wild : '?' ∈ pattern ∨ '*' ∈ pattern) :
    ∃ name, Accepts (pattern.map globSymbol) name ∧ ¬ pattern <+: name := by
  refine ⟨pattern.flatMap plainPiece, accepts_plainPiece pattern, fun begins => ?_⟩
  have same : pattern = pattern.flatMap plainPiece :=
    begins.eq_of_length_le (length_plainPiece_le pattern)
  rcases wild with member | member
  · rw [same] at member
    exact (plainPiece_plain member).2 rfl
  · rw [same] at member
    exact (plainPiece_plain member).1 rfl

/-- A pattern with a star at its end accepts what begins with a name its other characters accept. -/
theorem glob_star {name : List Char} :
    Accepts ((letters ++ ['*']).map globSymbol) name ↔
      ∃ before after, name = before ++ after ∧ Accepts (letters.map globSymbol) before := by
  rw [List.map_append, accepts_append]
  constructor
  · rintro ⟨before, after, rfl, left, -⟩
    exact ⟨before, after, rfl, left⟩
  · rintro ⟨before, after, rfl, left⟩
    exact ⟨before, after, rfl, left, accepts_singleton.mpr trivial⟩

theorem suffixGlobMatches_iff (pattern name : String) :
    suffixGlobMatches (some pattern) name = true ↔
      if pattern.toList.getLast? = some '*' then pattern.toList.dropLast <+: name.toList
      else pattern.toList = name.toList := by
  rw [suffixGlobMatches]
  split
  · exact List.isPrefixOf_iff_prefix
  · rw [beq_iff_eq, String.toList_inj]

/-- With a star at the end of the pattern, the filters agree with the pattern just where there is no
wildcard before it. -/
theorem suffix_agrees_star :
    (∀ name, letters <+: name ↔ Accepts ((letters ++ ['*']).map globSymbol) name) ↔
      '?' ∉ letters ∧ '*' ∉ letters := by
  constructor
  · intro agree
    rw [← not_or]
    intro wild
    obtain ⟨name, accepted, other⟩ := exists_accepted wild
    exact other ((agree name).mpr (glob_star.mpr ⟨name, [], (List.append_nil _).symm, accepted⟩))
  · rintro ⟨any, star⟩ name
    rw [glob_star, map_globSymbol_plain any star]
    constructor
    · rintro ⟨after, rfl⟩
      exact ⟨letters, after, rfl, accepts_exactly.mpr rfl⟩
    · rintro ⟨before, after, rfl, accepted⟩
      exact ⟨after, by rw [accepts_exactly.mp accepted]⟩

/-- Without a star at the end of the pattern, the filters agree with the pattern just where there is
no wildcard. -/
theorem suffix_agrees_plain :
    (∀ name, letters = name ↔ Accepts (letters.map globSymbol) name) ↔
      '?' ∉ letters ∧ '*' ∉ letters := by
  constructor
  · intro agree
    rw [← not_or]
    intro wild
    obtain ⟨name, accepted, other⟩ := exists_accepted wild
    exact other ((agree name).mpr accepted ▸ List.prefix_rfl)
  · rintro ⟨any, star⟩ name
    rw [map_globSymbol_plain any star, accepts_exactly, eq_comm]

/-- The filters that know a star at the end agree with a pattern just where it is its only
wildcard. -/
theorem suffix_agrees_iff (pattern : String) :
    (∀ name : String, suffixGlobMatches (some pattern) name = true ↔ Glob pattern name) ↔
      SuffixPattern pattern.toList := by
  have texts : (∀ name : String, suffixGlobMatches (some pattern) name = true ↔
      Glob pattern name) ↔ ∀ name : List Char,
        (if pattern.toList.getLast? = some '*' then pattern.toList.dropLast <+: name
          else pattern.toList = name) ↔ Accepts (pattern.toList.map globSymbol) name := by
    constructor
    · intro agree name
      have here := agree (String.ofList name)
      rwa [suffixGlobMatches_iff, Glob, String.toList_ofList] at here
    · intro agree name
      rw [suffixGlobMatches_iff]
      exact agree name.toList
  rw [texts, SuffixPattern]
  rcases List.eq_nil_or_concat pattern.toList with empty | ⟨letters, last, whole⟩
  · simp [empty, accepts_nil, eq_comm]
  rw [List.concat_eq_append] at whole
  rw [whole, List.getLast?_concat, List.dropLast_concat]
  by_cases star : last = '*'
  · subst star
    simp only [if_true]
    rw [suffix_agrees_star]
    simp
  · simp only [Option.some.injEq, star, if_false]
    rw [suffix_agrees_plain]
    simp [star, eq_comm]

/-- The filters of the adapters accept the names that the REPL's matcher accepts just for the
patterns whose only wildcard is a star at the end. -/
theorem pattern_filters_agree_iff (pattern : Option String) :
    (∀ name, Databricks.globMatches pattern name = Repl.globMatches pattern name ∧
      Snowflake.globMatches pattern name = Repl.globMatches pattern name ∧
      Demo.globMatches pattern name = Repl.globMatches pattern name) ↔
    ∀ text, pattern = some text → SuffixPattern text.toList := by
  cases pattern with
  | none =>
    constructor
    · intro _ _ impossible
      cases impossible
    · exact fun _ _ => ⟨rfl, rfl, rfl⟩
  | some text =>
    have agree : (∀ name, suffixGlobMatches (some text) name = Repl.globMatches (some text) name) ↔
        SuffixPattern text.toList := by
      rw [← suffix_agrees_iff]
      refine forall_congr' fun name => ?_
      rw [← Repl.globMatches_eq_true, Bool.eq_iff_iff]
    constructor
    · intro same other known
      cases known
      exact agree.mp fun name => (same name).1
    · intro known name
      have same := agree.mpr (known text rfl) name
      exact ⟨same, same, same⟩

/-- The demo adapter finds no table for a pattern that the REPL's matcher knows. -/
theorem pattern_filters_question_mark :
    Demo.globMatches (some "event?") "events" = false ∧
      Databricks.globMatches (some "event?") "events" = false ∧
      Snowflake.globMatches (some "event?") "events" = false ∧
      Repl.globMatches (some "event?") "events" = true := by
  decide

end ConfluxQuery
