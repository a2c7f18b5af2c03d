import ConfluxQuery.Config.Resolve
import ConfluxQuery.Core.Driver

/-!
# Durations of the adapters

How the Trino and the Databricks adapter read the durations of their properties. A duration is in
milliseconds.
-/

namespace ConfluxQuery

open Config

namespace Trino

/-- The number and the multiplier of a duration. -/
def durationParts (value : List Char) : Option (List Char × Nat) :=
  if let some number := stripSuffix ['m', 's'] value then some (number, 1)
  else if let some number := stripSuffix ['s'] value then some (number, 1000)
  else if let some number := stripSuffix ['m'] value then some (number, 60000)
  else if let some number := stripSuffix ['h'] value then some (number, 3600000)
  else none

/-- The Trino adapter's `parse_duration`. -/
def parseDuration (name value : String) : Except DriverError Nat :=
  let invalid : DriverError := ⟨"configuration", "property '" ++ name ++ "' has invalid duration"⟩
  match durationParts value.toList with
  | none => .error invalid
  | some (number, multiplier) =>
    match Numeral.parseUnsigned (2 ^ 64) number with
    | none => .error invalid
    -- `saturating_mul` stops at the largest number of 64 bits.
    | some number => .ok (min (number * multiplier) (2 ^ 64 - 1))

end Trino

namespace Databricks

/-- The Databricks adapter's `parse_duration`. -/
def parseDuration (value : String) : Option Nat :=
  ((stripSuffix ['m', 's'] value.toList).bind (Numeral.parseUnsigned (2 ^ 64))).or
    (((stripSuffix ['s'] value.toList).bind (Numeral.parseUnsigned (2 ^ 64))).map (· * 1000))

/-- The timeout of `Connection::from_properties`, ten seconds without a duration. -/
def connectTimeout (properties : Registry String String) : Nat :=
  ((properties.lookup "connect_timeout").bind parseDuration).getD 10000

end Databricks

end ConfluxQuery
