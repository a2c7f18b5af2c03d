import Mathlib

/-!
# Patterns of names

The patterns of the metadata commands. The REPL filters catalogs and schemas with a matcher of its
own, which fills one row of a table for every character of the pattern; tables are filtered by the
adapters.
-/

namespace ConfluxQuery

namespace Repl

/-- The inner loop of `glob_matches`: the cells of a row after the cells `diagonal` of the row above
and `left` of the row itself. -/
def globCells (token : Char) : Bool → Bool → List Char → List Bool → List Bool
  | diagonal, left, letter :: value, above :: previous =>
    let cell := if token = '*' then above || left
      else diagonal && (token == '?' || token == letter)
    cell :: globCells token above cell value previous
  | _, _, _, _ => []

/-- The row of a character of the pattern, under the row before it. -/
def globRow (value : List Char) (previous : List Bool) (token : Char) : List Bool :=
  match previous with
  | [] => []
  | diagonal :: above =>
    let left := decide (token = '*') && diagonal
    left :: globCells token diagonal left value above

/-- The row before any character of the pattern. -/
def globStart (value : List Char) : List Bool := true :: List.replicate value.length false

/-- The REPL's matcher. -/
def globMatches (pattern : Option String) (value : String) : Bool :=
  match pattern with
  | none => true
  | some pattern =>
    (pattern.toList.foldl (globRow value.toList) (globStart value.toList)).getLast? == some true

end Repl

end ConfluxQuery
