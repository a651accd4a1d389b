import LayerCull.Cleanup
import LayerCull.CommandLine
import LayerCull.Http.Client
import LayerCull.Log.Filter
import LayerCull.Surroundings

/-!
This module contains the program as one dialogue, from the command line to the exit code, and what it
writes on its two streams.
-/

namespace LayerCull

namespace CommandLine

/-- The settings of the file that the line names. -/
def fileSettings (line : CommandLine) (s : Surroundings) : Except Failure Settings :=
  match line.file with
  | none => .ok {}
  | some path =>
    match s.textAt path with
    | .ok text => Settings.ofText s.environment text
    | .error reason => .error (.unreadable reason.message)

/-- The configuration that file and line make together. -/
def config (line : CommandLine) (s : Surroundings) : Except Failure Config := do
  let lower ← line.fileSettings s
  (lower.overlay line.settings).resolve

def resolve {Q A : Type} (line : CommandLine) (s : Surroundings) : Dialogue Q A Config := do
  if let some path := line.file then
    .log (.fileNamed path)
  .ofExcept (line.config s)

end CommandLine

def Config.policy (config : Config) (dryRun : Bool) : Policy :=
  ⟨config.maxIterations, config.verifyDeletion, dryRun⟩

namespace Program

/-- A legal configuration. -/
def prepare {Q A : Type} (line : CommandLine) (s : Surroundings) : Dialogue Q A Config := do
  let config ← line.resolve s
  .ofExcept config.validate
  return config

def reject {Q A : Type} (failure : Failure) : Dialogue Q A Nat := do
  .log (.settingsRejected failure)
  .log (.settingsAdvice failure)
  .complain (.cause failure)
  return failure.exitCode

def giveUp {Q A : Type} (failure : Failure) : Dialogue Q A Nat := do
  .log (.cleanupFailed failure)
  if let some body := failure.responseBody? then
    .log (.failureBody body)
  .log (.recoveryAdvice failure)
  .complain (.cause failure)
  .complain (.advice failure)
  return failure.exitCode

/-- Cleans up and ends with an exit code. -/
def clean (config : Config) (dryRun : Bool) : Dialogue Http.Request Http.Delivery Nat := do
  .log (.settingsResolved config.describe)
  match ← (Http.overWire config (Cleanup.run (config.policy dryRun))).attempt with
  | .ok summary =>
    .log (.cleanupReported summary.culledLayers.length summary.removedGroups.length
      summary.iterations)
    return 0
  | .error failure => giveUp failure

def run (line : CommandLine) (s : Surroundings) : Dialogue Http.Request Http.Delivery Nat := do
  .log .programStarted
  match ← (prepare line s).attempt with
  | .ok config => clean config line.dryRun
  | .error failure => reject failure

inductive Stream where
  | output
  | errors
  deriving DecidableEq, Repr

/-- How the log is kept. -/
structure Logging where
  filter : Log.Filter
  format : Log.Format

/-- The variable that asks for a filter. -/
def filterVariable : String := "RUST_LOG"

def Logging.choose (line : CommandLine) (environment : Environment) : Logging :=
  ⟨Log.Filter.choose (environment filterVariable) line.verbose, line.logFormat⟩

/-- The line that a note makes, if it makes one. Progress alone goes to the output. -/
def written? (logging : Logging) (clock : Log.Clock) : Note → Option (Stream × String)
  | .progress event => some (.output, event.line)
  | .log event =>
    if logging.filter.lets event then some (.errors, event.line logging.format clock) else none
  | .complaint complaint => some (.errors, complaint.line)

end Program

end LayerCull
