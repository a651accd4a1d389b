import LayerCull.Config.Reference
import LayerCull.Config.Settings
import LayerCull.Toml.Document

/-!
This module contains settings in a TOML document with references to the environment. Sections and keys
that it does not know are passed over.
-/

namespace LayerCull.Settings

open Toml (Value Fields)

/-- Looks up one field of a section. -/
abbrev Section := String → Option Value

/-- The fields of a section: by name in a table, by position in an array that has all of them. A date
has no fields. -/
def section? (names : List String) : Value → Option Section
  | .table _ fields =>
    if fields.all fun (key, value) => names.contains key || value.isReadable then
      some fun name => fields.lookup name
    else
      none
  | .array items =>
    if names.length ≤ items.length then
      some fun name => (names.zip items).lookup name
    else
      none
  | .datetime _ => some fun _ => none
  | _ => none

/-- The section of a document, which is empty if it is missing. -/
def lookupSection? (document : Fields) (name : String) (names : List String) : Option Section :=
  match document.lookup name with
  | some value => section? names value
  | none => some fun _ => none

/-- Reads a field that may be missing, but not be of another kind. -/
def field? {α : Type} (read? : Value → Option α) (fields : Section) (name : String) :
    Option (Option α) :=
  match fields name with
  | none => some none
  | some value => (read? value).map some

def readString? : Value → Option String
  | .string text => some text
  | _ => none

def readBoolean? : Value → Option Bool
  | .boolean b => some b
  | _ => none

/-- Whole numbers of 64 bits. -/
def readNumber? : Value → Option Nat
  | .integer n => if 0 ≤ n ∧ n < UInt64.size then some n.toNat else none
  | _ => none

def sections : List String :=
  ["geoserver", "cleanup", "http"]

def ofDocument? (document : Fields) : Option Settings := do
  if !document.all fun (key, value) => sections.contains key || value.isReadable then
    none
  let geoserver ← lookupSection? document "geoserver"
    ["endpoint", "username", "password", "workspace"]
  let cleanup ← lookupSection? document "cleanup" ["max_iterations", "verify_deletion"]
  let http ← lookupSection? document "http" ["timeout_seconds"]
  return {
    endpoint := ← field? readString? geoserver "endpoint"
    username := ← field? readString? geoserver "username"
    password := ← field? readString? geoserver "password"
    workspace := ← field? readString? geoserver "workspace"
    maxIterations := ← field? readNumber? cleanup "max_iterations"
    verifyDeletion := ← field? readBoolean? cleanup "verify_deletion"
    timeoutSeconds := ← field? readNumber? http "timeout_seconds" }

/-- What is said about a document that is not TOML, or not of the right form. One wording stands for
all the messages that a reader of TOML has behind the colon. -/
def unreadableDocument : Failure :=
  .invalidDocument "toml_parsing" "TOML parsing error: the document cannot be read"

/-- Reads settings once the references in the text are replaced. -/
def ofText (env : Environment) (text : String) : Except Failure Settings :=
  match (Toml.parse? (Reference.expand env text.toList)).bind ofDocument? with
  | some settings => .ok settings
  | none => .error unreadableDocument

end LayerCull.Settings
