import ConfluxQuery.Lib.Listing
import ConfluxQuery.Lib.Numerals

/-!
# Session options of the Flight frontend

The options a client sets and reads. An option names a property of the session, by itself for
`catalog`, `schema` and `timeout` and after `engine.` for any property; `qcli.target` names the
target, and `qcli.session_id` and `qcli.version` are read-only. The options of a request come in the
order in which its hash map is iterated. The texts of numbers with fractions and of lists are
parameters.
-/

namespace ConfluxQuery.SessionOptions

/-- A value as the protocol carries it; a double is its bits. -/
inductive OptionValue
  | string (value : String)
  | bool (value : Bool)
  | int64 (value : Int)
  | double (bits : BitVec 64)
  | stringList (values : List String)
deriving DecidableEq

/-- A value of an option; without one, the option is unset. -/
abbrev SessionOptionValue : Type := Option OptionValue

/-- Texts of values: the decimal text of a double and the JSON text of a list. -/
structure Texts where
  double : BitVec 64 → String
  list : List String → String

/-- A double that is neither infinite nor no number. -/
def isFinite (bits : BitVec 64) : Bool := bits.extractLsb' 52 11 != BitVec.allOnes 11

/-- An option as the session takes it. -/
inductive ParsedSessionOption
  | unset
  | value (text : String)
deriving DecidableEq

/-- The new value of a property; none to unset it. -/
def ParsedSessionOption.override : ParsedSessionOption → Option String
  | unset => none
  | value text => some text

/-- Why an option is refused. -/
inductive ErrorValue
  | invalidName
  | invalidValue
deriving DecidableEq

/-- What a request asks for. -/
structure ParsedSetSessionOptions where
  target : Option String
  /-- New values of properties; none to unset one. -/
  overrides : Registry String (Option String)
  errors : Registry String ErrorValue

/-- The source's `session_option_string`. -/
def sessionOptionString (texts : Texts) : SessionOptionValue → Option ParsedSessionOption
  | none => some .unset
  | some (.string value) => some (.value value)
  | some (.bool value) => some (.value (if value then "true" else "false"))
  | some (.int64 value) => some (.value (String.ofList (Numeral.printSigned value)))
  | some (.double bits) => if isFinite bits then some (.value (texts.double bits)) else none
  | some (.stringList values) => some (.value (texts.list values))

/-- How the option of a property begins that has no option of its own. -/
def enginePrefix : List Char := ['e', 'n', 'g', 'i', 'n', 'e', '.']

/-- The properties with options of their own names. -/
def ownNames : List String := ["catalog", "schema", "timeout"]

/-- The source's `session_property_name`. -/
def sessionPropertyName (option : String) : Option String :=
  if option ∈ ownNames then some option
  else if enginePrefix <+: option.toList then
    let name := option.toList.drop enginePrefix.length
    if name = [] then none else some (String.ofList name)
  else none

/-- The source's `session_option_name`. -/
def sessionOptionName (property : String) : String :=
  if property ∈ ownNames then property else String.ofList (enginePrefix ++ property.toList)

/-- One turn of `parse_set_session_options`. -/
def parseOption (texts : Texts) (parsed : ParsedSetSessionOptions)
    (option : String × SessionOptionValue) : ParsedSetSessionOptions :=
  let refused (error : ErrorValue) : ParsedSetSessionOptions :=
    { parsed with errors := parsed.errors.insert option.1 error }
  if option.1 = "qcli.version" ∨ option.1 = "qcli.session_id" then refused .invalidName
  else
    match sessionOptionString texts option.2 with
    | none => refused .invalidValue
    | some value =>
      if option.1 = "qcli.target" then
        match value with
        | .value text => if text = "" then refused .invalidValue
          else { parsed with target := some text }
        | .unset => refused .invalidValue
      else
        match sessionPropertyName option.1 with
        | some property =>
          { parsed with overrides := parsed.overrides.insert property value.override }
        | none => refused .invalidName

/-- Parse options in the order in which they come. -/
def parseSetSessionOptions (texts : Texts) (options : List (String × SessionOptionValue)) :
    ParsedSetSessionOptions :=
  options.foldl (parseOption texts) ⟨none, ∅, ∅⟩

/-- A session as the gateway describes it. -/
structure SessionView where
  target : String
  id : String
  version : Nat
  overrides : Registry String String

/-- The options of a session that stand for no override. -/
def fixedOptions (session : SessionView) : List (String × SessionOptionValue) :=
  [("qcli.target", some (.string session.target)), ("qcli.session_id", some (.string session.id)),
    ("qcli.version", some (.int64 (min session.version (2 ^ 63 - 1))))]

/-- The options that `get_session_options` answers. -/
def getSessionOptions (session : SessionView) : Registry String SessionOptionValue :=
  (Registry.inOrder session.overrides).foldl
    (fun options entry =>
      options.insert (sessionOptionName entry.1) (some (.string entry.2)))
    (Registry.ofList (fixedOptions session))

end ConfluxQuery.SessionOptions
