import LayerCull.Failure
import LayerCull.Text.Blank
import LayerCull.Url.Parse

/-!
This module contains the checks that a setting has to pass. Each one names the field that it looks at,
and gives back a failure with the field, its value and the reason.
-/

namespace LayerCull.Check

abbrev Checked := Except Failure Unit

/-- Passes if the condition holds. -/
def ensure (condition : Bool) (failure : Failure) : Checked :=
  if condition then .ok () else .error failure

/-- A URL that a path can be appended to: of the web, without query and fragment. -/
def url (field value : String) : Checked :=
  if value.isEmpty then
    reject "URL cannot be empty"
  else
    match Url.parse value.toList with
    | .error fault => reject ("Invalid URL format: " ++ fault.message)
    | .ok url =>
      let scheme := String.ofList url.scheme
      if scheme = "http" ∨ scheme = "https" then
        if url.query.isSome || url.fragment.isSome then
          reject "URL must not contain a query string or fragment"
        else
          .ok ()
      else
        reject ("Unsupported URL scheme: " ++ scheme)
where
  reject (reason : String) : Checked :=
    .error (.invalidSetting field value reason)

def positive (field : String) (value least : Nat) : Checked :=
  ensure (least ≤ value)
    (.invalidSetting field (toString value) ("Value must be at least " ++ toString least))

def range (field : String) (value least greatest : Int) : Checked :=
  ensure (least ≤ value && value ≤ greatest)
    (.invalidSetting field (toString value)
      ("Value must be between " ++ toString least ++ " and " ++ toString greatest))

def required (field : String) (value : Option String) : Except Failure String :=
  match value with
  | some text => .ok text
  | none => .error (.missingSetting field)

def nonEmpty (field value : String) : Checked :=
  ensure (!value.toList.all Text.isBlank)
    (.invalidSetting field value "Value cannot be empty or whitespace-only")

/-- The characters that end a segment of a path, or would be read as blanks. -/
def breaksSegment (c : Char) : Bool :=
  c == '/' || c == '?' || c == '#' || Text.isBlank c

def pathSegment (field value : String) : Checked := do
  nonEmpty field value
  ensure (!value.toList.any breaksSegment)
    (.invalidSetting field value "Value must not contain '/', '?', '#' or whitespace")

end LayerCull.Check
