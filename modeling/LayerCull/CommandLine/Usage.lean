import LayerCull.CommandLine

/-!
This module contains what the command line is told about itself: how it is used, and why its words are
not carried out.
-/

namespace LayerCull.CommandLine

/-- An option and what it is for. -/
structure Entry where
  form : String
  purpose : String

def entries : List Entry := [
  ⟨"-g <URI>", "GeoServer URI"⟩,
  ⟨"-u <USERNAME>", "GeoServer user name"⟩,
  ⟨"-p <PASSWORD>", "GeoServer password"⟩,
  ⟨"-c, --config <CONFIG>", "Path to a TOML configuration file; flags override its values"⟩,
  ⟨"--workspace <WORKSPACE>", "Workspace holding the layer groups"⟩,
  ⟨"--timeout-seconds <SECONDS>", "Per-request timeout in seconds"⟩,
  ⟨"--max-iterations <COUNT>", "Give up after deleting this many layers"⟩,
  ⟨"--verify-deletion", "Confirm through the REST API that each deleted layer is gone"⟩,
  ⟨"--dry-run", "Report the first bad layer without deleting anything"⟩,
  ⟨"-v, --verbose", "Enable verbose output"⟩,
  ⟨"--log-format <FORMAT>", "Format of the log, compact or json [default: compact]"⟩,
  ⟨"-h, --help", "Print help"⟩]

/-- The purposes stand in one column. -/
def Entry.line (width : Nat) (entry : Entry) : String :=
  let gap := List.replicate (width + 2 - entry.form.length) ' '
  "  " ++ entry.form ++ String.ofList gap ++ entry.purpose

def usage : List String :=
  let width := (entries.map fun entry => entry.form.length).foldl Nat.max 0
  ["Cull corrupted layers from GeoServer", "", "Usage: geoserver-cleanup [OPTIONS]", "",
    "Options:"] ++ entries.map (Entry.line width)

def Rejection.message : Rejection → String
  | .help => "help was asked for"
  | .unknown => "unexpected argument found"
  | .valueMissing => "a value is required for an option, but none was supplied"
  | .valueNotListed => "a value is not one of those that the option knows"
  | .numberMalformed => "a value is not a whole number of 64 bits"
  | .repeated => "an option is used more than once"
  | .valueNeedless => "an option that takes no value was given one"

/-- What the person at the terminal reads when nothing is carried out. -/
def Rejection.lines : Rejection → List String
  | .help => usage
  | rejection =>
    ["error: " ++ rejection.message, "", "For more information, try '--help'."]

end LayerCull.CommandLine
