import LayerCull.Config.File
import LayerCull.Log.Line
import LayerCull.Text.Digits

/-!
This module contains the command line. `CommandLine.read` goes through the words from left to right; an
option is checked when the next option is met or the line ends.
-/

namespace LayerCull

/-- What the command line asks for. -/
structure CommandLine where
  endpoint : Option String := none
  username : Option String := none
  password : Option String := none
  /-- The path of a file with settings. -/
  file : Option String := none
  workspace : Option String := none
  timeoutSeconds : Option Nat := none
  maxIterations : Option Nat := none
  verifyDeletion : Bool := false
  dryRun : Bool := false
  verbose : Bool := false
  logFormat : Log.Format := .compact
  deriving DecidableEq, Repr

namespace CommandLine

/-- An option that is followed by a value. -/
inductive Valued where
  | endpoint
  | username
  | password
  | file
  | workspace
  | timeoutSeconds
  | maxIterations
  | logFormat
  deriving DecidableEq, Repr

/-- An option that stands alone. -/
inductive Flag where
  | verifyDeletion
  | dryRun
  | verbose
  | help
  deriving DecidableEq, Repr

inductive Switch where
  | valued (option : Valued)
  | flag (flag : Flag)
  deriving DecidableEq, Repr

/-- Why the words are not carried out. -/
inductive Rejection where
  | help
  /-- There is no such option, or a word that belongs to none. -/
  | unknown
  | valueMissing
  | valueNotListed
  | numberMalformed
  /-- An option that may stand once stands twice. -/
  | repeated
  /-- A value for an option that takes none. -/
  | valueNeedless
  deriving DecidableEq, Repr

/-- Asking for help is no failure. -/
def Rejection.exitCode : Rejection → Nat
  | .help => 0
  | _ => 2

def Switch.ofLetter? : Char → Option Switch
  | 'g' => some (.valued .endpoint)
  | 'u' => some (.valued .username)
  | 'p' => some (.valued .password)
  | 'c' => some (.valued .file)
  | 'v' => some (.flag .verbose)
  | 'h' => some (.flag .help)
  | _ => none

def Switch.ofName? (name : List Char) : Option Switch :=
  match String.ofList name with
  | "config" => some (.valued .file)
  | "workspace" => some (.valued .workspace)
  | "timeout-seconds" => some (.valued .timeoutSeconds)
  | "max-iterations" => some (.valued .maxIterations)
  | "log-format" => some (.valued .logFormat)
  | "verify-deletion" => some (.flag .verifyDeletion)
  | "dry-run" => some (.flag .dryRun)
  | "verbose" => some (.flag .verbose)
  | "help" => some (.flag .help)
  | _ => none

/-- A whole number of 64 bits; a plus sign may come before it. -/
def number? (text : List Char) : Option Nat :=
  (Text.Digits.natural? text).filter (· < UInt64.size)

/-- How far the reading has come. -/
structure Reading where
  line : CommandLine := {}
  seen : List Switch := []
  /-- An option that is not checked yet, and its value once that is met. -/
  pending : Option (Valued × Option (List Char)) := none

namespace Reading

/-- Notes that the option stands in the line, for the first time. -/
def see (r : Reading) (switch : Switch) : Except Rejection Reading :=
  if r.seen.contains switch then .error .repeated
  else .ok { r with seen := switch :: r.seen }

/-- The line with the value of one option. -/
def assign (line : CommandLine) (option : Valued) (text : List Char) :
    Except Rejection CommandLine :=
  match option with
  | .endpoint => .ok { line with endpoint := some (String.ofList text) }
  | .username => .ok { line with username := some (String.ofList text) }
  | .password => .ok { line with password := some (String.ofList text) }
  | .file => .ok { line with file := some (String.ofList text) }
  | .workspace => .ok { line with workspace := some (String.ofList text) }
  | .timeoutSeconds =>
    match number? text with
    | some n => .ok { line with timeoutSeconds := some n }
    | none => .error .numberMalformed
  | .maxIterations =>
    match number? text with
    | some n => .ok { line with maxIterations := some n }
    | none => .error .numberMalformed
  | .logFormat =>
    match String.ofList text with
    | "compact" => .ok { line with logFormat := .compact }
    | "json" => .ok { line with logFormat := .json }
    | _ => .error .valueNotListed

def store (r : Reading) (option : Valued) (text : List Char) : Except Rejection Reading := do
  let r ← r.see (.valued option)
  return { r with line := ← assign r.line option text }

/-- Checks the option that is pending. -/
def settle (r : Reading) : Except Rejection Reading :=
  match r.pending with
  | none => .ok r
  | some (_, none) => .error .valueMissing
  | some (option, some text) => store { r with pending := none } option text

def raise (r : Reading) (flag : Flag) : Except Rejection Reading := do
  let r ← r.settle
  if flag = .help then
    .error .help
  let r ← r.see (.flag flag)
  match flag with
  | .verifyDeletion => return { r with line := { r.line with verifyDeletion := true } }
  | .dryRun => return { r with line := { r.line with dryRun := true } }
  | .verbose => return { r with line := { r.line with verbose := true } }
  | .help => return r

/-- Takes an option whose value is attached, or has to come in the next word. -/
def begin (r : Reading) (option : Valued) (attached : Option (List Char)) :
    Except Rejection Reading := do
  let r ← r.settle
  match attached with
  | some text => store r option text
  | none => return { r with pending := some (option, none) }

/-- Takes a word of two hyphens, a name, and perhaps a sign of equality and a value. -/
def long (r : Reading) (word : List Char) : Except Rejection Reading :=
  let (name, attached) := Text.cut '=' word
  match Switch.ofName? name, attached with
  | none, _ => .error .unknown
  | some (.flag _), some _ => .error .valueNeedless
  | some (.flag flag), none => r.raise flag
  | some (.valued option), attached => r.begin option attached

/-- Takes a word of one hyphen and letters; the rest after an option with a value is that value. -/
def short (r : Reading) : List Char → Except Rejection Reading
  | [] => .ok r
  | letter :: rest =>
    match Switch.ofLetter? letter with
    | none => .error .unknown
    | some (.flag flag) => do (← r.raise flag).short rest
    | some (.valued option) =>
      match rest with
      | [] => r.begin option none
      | '=' :: text => r.begin option (some text)
      | text => r.begin option (some text)

/-- Takes a word that is no option. -/
def plain (r : Reading) (word : List Char) : Except Rejection Reading :=
  match r.pending with
  | some (option, none) => .ok { r with pending := some (option, some word) }
  | _ => .error .unknown

/-- Takes the words one after another. After two hyphens no word belongs to an option. -/
def words (r : Reading) : List (List Char) → Except Rejection Reading
  | [] => r.settle
  | ['-', '-'] :: rest => if rest.isEmpty then r.settle else .error .unknown
  | ('-' :: '-' :: word) :: rest => do (← r.long word).words rest
  | ('-' :: c :: word) :: rest => do (← r.short (c :: word)).words rest
  | word :: rest => do (← r.plain word).words rest

end Reading

def read (words : List String) : Except Rejection CommandLine := do
  let r ← Reading.words {} (words.map String.toList)
  return r.line

/-- The settings that the command line gives. A flag can turn a setting on, but not off. -/
def settings (line : CommandLine) : Settings where
  endpoint := line.endpoint
  username := line.username
  password := line.password
  workspace := line.workspace
  maxIterations := line.maxIterations
  verifyDeletion := if line.verifyDeletion then some true else none
  timeoutSeconds := line.timeoutSeconds

end CommandLine

end LayerCull
