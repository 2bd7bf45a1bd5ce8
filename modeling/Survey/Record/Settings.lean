import Survey.Settings
import Survey.Json.Reader
import Survey.Json.Record

/-!
# Configurations in records

A configuration is read from a JSON text. A setting that is missing is on.
-/

namespace Survey

/-- Why a text is no configuration. -/
inductive SettingsError where
  | malformed
  deriving DecidableEq, Repr

/-- An error in words. -/
def SettingsError.message : SettingsError → String
  | .malformed => "Invalid session configuration"

namespace SessionSettings

/-- The fields of a configuration in their order. -/
def fieldNames : List String := ["require_tos_agreement", "enforce_max_characters"]

/-- A configuration as a record. -/
def toJson (c : SessionSettings) : Json :=
  .record [("require_tos_agreement", .bool c.requireTerms), ("enforce_max_characters", .bool c.enforceMaxCharacters)]

/-- Reads a configuration. -/
def ofJson? (v : Json) : Option SessionSettings := do
  let fields ← v.fields? fieldNames
  let requireTerms ← Json.defaulted "require_tos_agreement" true Json.bool? fields
  let enforceMaxCharacters ← Json.defaulted "enforce_max_characters" true Json.bool? fields
  return { requireTerms, enforceMaxCharacters }

/-- Reads a configuration from a JSON text. -/
def ofText (text : String) : Except SettingsError SessionSettings :=
  match (Json.read? text).bind ofJson? with
  | some c => .ok c
  | none => .error .malformed

end SessionSettings

end Survey
