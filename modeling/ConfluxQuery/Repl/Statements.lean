import ConfluxQuery.Driver.Trino

/-!
# Complete statements

The REPL gathers lines until they make a complete statement. One pass over the characters keeps two
flags for quotes, one for a backslash, and the last character of interest.
-/

namespace ConfluxQuery

namespace Repl

/-- The variables of the loop of `statement_complete`. -/
structure Scan where
  single : Bool := false
  double : Bool := false
  escaped : Bool := false
  /-- Last character outside quotes that is neither a quote nor white space. -/
  last : Option Char := none
  deriving DecidableEq, Repr

/-- One turn of the loop. -/
def scanCharacter (scan : Scan) (character : Char) : Scan :=
  if scan.escaped then { scan with escaped := false }
  else if character = '\\' then { scan with escaped := true }
  else if character = '\'' ∧ scan.double = false then { scan with single := !scan.single }
  else if character = '"' ∧ scan.single = false then { scan with double := !scan.double }
  else if scan.single = false ∧ scan.double = false ∧ Text.isWhitespace character = false then
    { scan with last := some character }
  else scan

/-- The loop. -/
def scan (text : List Char) : Scan := text.foldl scanCharacter {}

/-- Whether a text is a complete statement. -/
def statementComplete (sql : String) : Bool :=
  let final := scan sql.toList
  !final.single && !final.double && final.last == some ';'

end Repl

end ConfluxQuery
