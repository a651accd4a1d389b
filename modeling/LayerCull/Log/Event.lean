import LayerCull.Failure

/-!
This module contains the events that go into the log. An event knows its level, the part of the
program that it comes from, and its message.
-/

namespace LayerCull.Log

inductive Level where
  | debug
  | info
  | warn
  | error
  deriving DecidableEq, Repr

def Level.name : Level → String
  | .debug => "DEBUG"
  | .info => "INFO"
  | .warn => "WARN"
  | .error => "ERROR"

/-- The part of the program that an event comes from. -/
inductive Origin where
  | program
  | settings
  | cleanup
  | probe
  | removal
  | client
  deriving DecidableEq, Repr

/-- The path by which a filter directive names the part. -/
def Origin.target : Origin → String
  | .program => "geoserver_cleanup"
  | .settings => "geoserver_cleanup::config::cli"
  | .cleanup => "geoserver_cleanup::core::driver"
  | .probe => "geoserver_cleanup::core::prober"
  | .removal => "geoserver_cleanup::core::deleter"
  | .client => "geoserver_cleanup::adapters::http"

inductive Event where
  | programStarted
  | settingsRejected (failure : Failure)
  | settingsAdvice (failure : Failure)
  | settingsResolved (settings : String)
  | cleanupReported (layers groups iterations : Nat)
  | cleanupFailed (failure : Failure)
  | failureBody (body : String)
  | recoveryAdvice (failure : Failure)
  | fileNamed (path : String)
  | cleanupStarted (limit : Nat) (verify dryRun : Bool)
  | iterationStarted (number : Nat) (layer : LayerId)
  | limitReached (layer : LayerId) (deletions : Nat)
  | cleanupFinished (layers groups : Nat)
  | capabilitiesReceived (status bytes : Nat)
  | badLayerFound (layer : LayerId)
  | badLayerUnidentified
  | noBadLayer
  | deletionFailed (layer : LayerId) (status : Nat)
  | groupUnidentified (layer : LayerId)
  | groupHoldsLayer (layer group : LayerId)
  | groupDeletionFailed (group : LayerId) (status : Nat)
  | retryFailed (layer : LayerId) (status : Nat)
  | layerStillPresent (layer : LayerId) (status : Nat)
  | lookupFailed (layer : LayerId) (status : Nat)
  | requestMade (method url : String)
  deriving DecidableEq, Repr

namespace Event

def level : Event → Level
  | .programStarted | .cleanupReported .. | .fileNamed _ | .cleanupStarted .. | .cleanupFinished ..
  | .badLayerFound _ | .groupHoldsLayer .. => .info
  | .settingsResolved _ | .failureBody _ | .iterationStarted .. | .capabilitiesReceived ..
  | .noBadLayer | .requestMade .. => .debug
  | .badLayerUnidentified | .groupDeletionFailed .. => .warn
  | .settingsRejected _ | .settingsAdvice _ | .cleanupFailed _ | .recoveryAdvice _
  | .limitReached .. | .deletionFailed .. | .groupUnidentified _ | .retryFailed ..
  | .layerStillPresent .. | .lookupFailed .. => .error

def origin : Event → Origin
  | .programStarted | .settingsRejected _ | .settingsAdvice _ | .settingsResolved _
  | .cleanupReported .. | .cleanupFailed _ | .failureBody _ | .recoveryAdvice _ => .program
  | .fileNamed _ => .settings
  | .cleanupStarted .. | .iterationStarted .. | .limitReached .. | .cleanupFinished .. => .cleanup
  | .capabilitiesReceived .. | .badLayerFound _ | .badLayerUnidentified | .noBadLayer => .probe
  | .deletionFailed .. | .groupUnidentified _ | .groupHoldsLayer .. | .groupDeletionFailed ..
  | .retryFailed .. | .layerStillPresent .. | .lookupFailed .. => .removal
  | .requestMade .. => .client

/-- The text of the event; `elapsed` is how many milliseconds the cleanup took. -/
def message (elapsed : String) : Event → String
  | .programStarted => "Starting geoserver-cleanup"
  | .settingsRejected failure => "❌ Configuration validation failed: " ++ failure.message
  | .settingsAdvice failure => "💡 Suggestion: " ++ failure.advice
  | .settingsResolved settings => "Resolved config: " ++ settings
  | .cleanupReported layers groups iterations =>
    "✅ Culled " ++ toString layers ++ " layers and " ++ toString groups ++ " layer groups in " ++
      toString iterations ++ " iterations"
  | .cleanupFailed failure =>
    "❌ Cleanup failed: " ++ failure.message ++ " (Category: " ++ failure.category.name ++
      ", Severity: " ++ failure.severity.name ++ ")"
  | .failureBody body => "GeoServer response body: " ++ body
  | .recoveryAdvice failure => "💡 Recovery suggestion: " ++ failure.advice
  | .fileNamed path => "Loading configuration from: " ++ path
  | .cleanupStarted limit verify dryRun =>
    "Starting cleanup (max iterations: " ++ toString limit ++ ", verify deletion: " ++
      toString verify ++ ", dry run: " ++ toString dryRun ++ ")"
  | .iterationStarted number layer =>
    "Iteration " ++ toString number ++ ": culling " ++ layer.text
  | .limitReached layer deletions =>
    "Layer " ++ layer.text ++ " is still reported after " ++ toString deletions ++
      " deletions, giving up"
  | .cleanupFinished layers groups =>
    "Cleanup finished: " ++ toString layers ++ " layers culled, " ++ toString groups ++
      " layer groups removed in " ++ elapsed ++ "ms"
  | .capabilitiesReceived status bytes =>
    "Capabilities response status: " ++ toString status ++ ", " ++ toString bytes ++ " bytes"
  | .badLayerFound layer => "Bad layer reported by capabilities: " ++ layer.text
  | .badLayerUnidentified =>
    "Capabilities report a metadata failure, but no layer id could be extracted"
  | .noBadLayer => "No bad layers reported"
  | .deletionFailed layer status =>
    "Deleting layer " ++ layer.text ++ " failed with status " ++ toString status
  | .groupUnidentified layer =>
    "Layer " ++ layer.text ++ " is held by a layer group that could not be identified"
  | .groupHoldsLayer layer group =>
    "Layer " ++ layer.text ++ " is referenced by layer group " ++ group.text ++
      ", removing the group"
  | .groupDeletionFailed group status =>
    "Deleting layer group " ++ group.text ++ " returned status " ++ toString status
  | .retryFailed layer status =>
    "Retrying deletion of layer " ++ layer.text ++ " failed with status " ++ toString status
  | .layerStillPresent layer status =>
    "Layer " ++ layer.text ++ " still resolves after deletion (status " ++ toString status ++ ")"
  | .lookupFailed layer status =>
    "Could not look up layer " ++ layer.text ++ " after deletion (status " ++ toString status ++
      ")"
  | .requestMade method url => method ++ " " ++ url

end Event

end LayerCull.Log
