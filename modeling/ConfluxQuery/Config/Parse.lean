import ConfluxQuery.Lib.Registry
import ConfluxQuery.Lib.Text

/-!
# Reading a configuration file

The line loop of the configuration parser: comments are cut off, section headers open a section and
properties are stored in it. Cutting a comment and reading a value know quotes by different rules.
-/

namespace ConfluxQuery.Config

open Text

/-- An error with its place in the file, when it has one. -/
structure ConfigError where
  path : String
  line : Option Nat
  message : String
deriving DecidableEq

/-- A value and the line it was read from. -/
structure ParsedValue where
  value : String
  line : Nat
deriving DecidableEq

/-- What the line loop keeps; the section that is open is known. -/
structure ParseState where
  sections : Registry String (Registry String ParsedValue)
  current : Option String
  /-- The open section is one of them. -/
  known : ∀ name, current = some name → name ∈ sections

/-- The quotes that `strip_comment` has open. -/
structure Quoting where
  quote : Option Char
  /-- Whether the next character is passed over. -/
  escaped : Bool
deriving DecidableEq

/-- One character of `strip_comment`; none where a comment begins. -/
def Quoting.next (state : Quoting) (character : Char) : Option Quoting :=
  if state.escaped then some { state with escaped := false }
  else if character = '\\' ∧ state.quote = some '"' then some { state with escaped := true }
  else if character = '\'' ∨ character = '"' then
    if state.quote = some character then some { state with quote := none }
    else if state.quote = none then some { state with quote := some character }
    else some state
  else if character = '#' ∧ state.quote = none then none
  else some state

/-- The loop of `strip_comment`. -/
def stripFrom (state : Quoting) : List Char → List Char
  | [] => []
  | character :: rest =>
    match state.next character with
    | none => []
    | some next => character :: stripFrom next rest

/-- A line without its comment. -/
def stripComment (line : List Char) : List Char := stripFrom ⟨none, false⟩ line

/-- The text of a value, without its quotes when it begins with one. -/
def parseValue (path : String) (line : Nat) (raw : List Char) : Except ConfigError String :=
  match raw with
  | [] => .ok ""
  | first :: rest =>
    if first = '"' ∨ first = '\'' then
      if rest.getLast? ≠ some first then .error ⟨path, some line, "unterminated quoted value"⟩
      else .ok (String.ofList rest.dropLast)
    else .ok (String.ofList raw)

/-- Characters of section and property names. -/
def isNameCharacter (character : Char) : Bool :=
  character.isAlphanum || character == '_' || character == '-' || character == '.'

/-- The source's `validate_section_name`. -/
def validateSectionName (path : String) (line : Nat) (name : List Char) :
    Except ConfigError Unit :=
  if name.isEmpty then .error ⟨path, some line, "section name cannot be empty"⟩
  else if !name.all isNameCharacter then
    .error ⟨path, some line, "invalid section name '" ++ String.ofList name ++ "'"⟩
  else .ok ()

/-- The source's `validate_property_name`. -/
def validatePropertyName (path : String) (line : Nat) (name : List Char) :
    Except ConfigError Unit :=
  if name.isEmpty || !name.all isNameCharacter then
    .error ⟨path, some line, "invalid property name '" ++ String.ofList name ++ "'"⟩
  else .ok ()

namespace ParseState

/-- Open a new section. -/
def enter (state : ParseState) (name : String) : ParseState :=
  ⟨state.sections.insert name ∅, some name, fun _ same => by simp [Option.some.inj same]⟩

/-- Store a property in a section. -/
def define (state : ParseState) (name key : String) (value : ParsedValue) : ParseState :=
  ⟨state.sections.insert name (((state.sections.lookup name).getD ∅).insert key value),
    state.current, fun other same => by simp [state.known other same]⟩

end ParseState

/-- One line of `parse`. -/
def parseLine (path : String) (lineNo : Nat) (rawLine : List Char) (state : ParseState) :
    Except ConfigError ParseState :=
  let line := trim Text.isWhitespace (stripComment rawLine)
  if line.isEmpty then .ok state
  else if line.head? = some '[' then
    if line.getLast? ≠ some ']' then
      .error ⟨path, some lineNo, "section header must end with ']'"⟩
    else do
      let name := trim Text.isWhitespace (line.drop 1).dropLast
      validateSectionName path lineNo name
      if String.ofList name ∈ state.sections then
        .error ⟨path, some lineNo, "duplicate section [" ++ String.ofList name ++ "]"⟩
      else .ok (state.enter (String.ofList name))
  else
    match state.current with
    | none => .error ⟨path, some lineNo, "property must appear inside a section"⟩
    | some name =>
      match splitOnce '=' line with
      | none => .error ⟨path, some lineNo, "property must use 'name = value'"⟩
      | some (rawKey, rawValue) => do
        let key := trim Text.isWhitespace rawKey
        validatePropertyName path lineNo key
        let value ← parseValue path lineNo (trim Text.isWhitespace rawValue)
        if String.ofList key ∈ (state.sections.lookup name).getD ∅ then
          .error ⟨path, some lineNo,
            "duplicate property '" ++ String.ofList key ++ "' in [" ++ name ++ "]"⟩
        else .ok (state.define name (String.ofList key) ⟨value, lineNo⟩)

/-- The line loop of `parse`. -/
def parseLines (path : String) : Nat → List (List Char) → ParseState → Except ConfigError ParseState
  | _, [], state => .ok state
  | lineNo, line :: rest, state => do
    parseLines path (lineNo + 1) rest (← parseLine path lineNo line state)

/-- The lines of a text, each without its line break. -/
def lines (source : List Char) : List (List Char) :=
  let pieces := source.splitOn '\n'
  let pieces := if pieces.getLast? = some [] then pieces.dropLast else pieces
  pieces.map fun line => if line.getLast? = some '\r' then line.dropLast else line

/-- The sections of a configuration file. -/
def parse (path source : String) :
    Except ConfigError (Registry String (Registry String ParsedValue)) := do
  let state ← parseLines path 1 (lines source.toList) ⟨∅, none, nofun⟩
  if state.sections.keys.isEmpty then .error ⟨path, none, "configuration contains no sections"⟩
  else .ok state.sections

end ConfluxQuery.Config
