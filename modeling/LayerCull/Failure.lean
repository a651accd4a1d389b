import LayerCull.Call

/-!
This module contains the causes by which a cleanup fails. `Failure.message` is the wording,
`Failure.category` sorts the causes, and the severity, the exit code and the advice follow.
-/

namespace LayerCull

inductive Failure where
  | transport (fault : Fault)
  /-- A file could not be read. -/
  | unreadable (reason : String)
  | missingSetting (field : String)
  | invalidSetting (field value reason : String)
  | invalidDocument (field reason : String)
  | deletionFailed (layer : String) (status : Nat) (body : String)
  /-- A layer group holds the layer, and the server does not say which. -/
  | unidentifiedGroup (layer body : String)
  /-- A look-up after the deletion says neither that the layer is gone nor that it is there. -/
  | unverified (layer : String) (status : Nat) (body : String)
  | stillPresent (layer : String) (status : Nat)
  | iterationLimit (limit : Nat)
  deriving DecidableEq, Repr

namespace Failure

inductive Category where
  | network
  | configuration
  | server
  | consistency
  deriving DecidableEq, Repr

inductive Severity where
  /-- It may pass by itself. -/
  | medium
  /-- Someone has to step in. -/
  | high
  deriving DecidableEq, Repr

def Category.name : Category → String
  | .network => "Network"
  | .configuration => "Configuration"
  | .server => "Server"
  | .consistency => "Consistency"

def Severity.name : Severity → String
  | .medium => "Medium"
  | .high => "High"

def message : Failure → String
  | .transport fault => "HTTP transport error: " ++ fault.message
  | .unreadable reason => "IO error: " ++ reason
  | .missingSetting field => "Missing required configuration: " ++ field
  | .invalidSetting field value reason =>
    "Invalid value '" ++ value ++ "' for " ++ field ++ ": " ++ reason
  | .invalidDocument field reason => "Configuration error in " ++ field ++ ": " ++ reason
  | .deletionFailed layer status _ =>
    "Could not delete layer " ++ layer ++ ": server responded with status " ++ toString status
  | .unidentifiedGroup layer _ =>
    "Layer " ++ layer ++
      " is referenced by a layer group, but no group id was found in the response"
  | .unverified layer status _ =>
    "Could not confirm deletion of layer " ++ layer ++ ": lookup returned status " ++
      toString status
  | .stillPresent layer status =>
    "Layer " ++ layer ++ " still exists after deletion (lookup returned status " ++
      toString status ++ ")"
  | .iterationLimit limit =>
    "Bad layers were still reported after " ++ toString limit ++ " iterations"

def category : Failure → Category
  | .transport _ => .network
  | .unreadable _ | .missingSetting _ | .invalidSetting .. | .invalidDocument .. => .configuration
  | .deletionFailed .. | .unidentifiedGroup .. | .unverified .. => .server
  | .stillPresent .. | .iterationLimit _ => .consistency

def severity (failure : Failure) : Severity :=
  match failure.category with
  | .network => .medium
  | _ => .high

/-- The exit code of a process that ends with the failure. -/
def exitCode (failure : Failure) : Nat :=
  match failure.severity with
  | .medium => 2
  | .high => 1

/-- The server's answer that the failure carries as evidence. -/
def responseBody? : Failure → Option String
  | .deletionFailed _ _ body | .unidentifiedGroup _ body | .unverified _ _ body => some body
  | _ => none

/-- What the operator can do about it. -/
def advice : Failure → String
  | .transport _ =>
    "Check that GeoServer is reachable from this host, or raise --timeout-seconds"
  | .unreadable _ => "Check that the configuration file exists and is readable"
  | .missingSetting _ =>
    "Pass the value with -g/-u/-p or set it in the [geoserver] section of the config file"
  | .invalidSetting .. | .invalidDocument .. => "Fix the configuration value and run again"
  | .deletionFailed .. | .unidentifiedGroup .. =>
    "Inspect the GeoServer response above and remove the layer manually"
  | .unverified .. =>
    "Check the credentials and GeoServer logs, then confirm the layer is gone before rerunning"
  | .stillPresent .. =>
    "GeoServer reported a successful delete but kept the layer; check the catalog and server logs"
  | .iterationLimit _ =>
    "GeoServer keeps reporting bad layers; run with --verify-deletion or raise --max-iterations"

/-- The message for the operator, with less detail. -/
def summary : Failure → String
  | .transport fault =>
    if fault.timedOut then
      "GeoServer did not answer before the request timed out"
    else
      "Could not reach GeoServer"
  | .deletionFailed layer _ _ | .unidentifiedGroup layer _ => "Could not delete layer " ++ layer
  | .unverified layer status _ =>
    "Could not confirm that layer " ++ layer ++ " was deleted (status " ++ toString status ++ ")"
  | failure => failure.message

theorem exitCode_eq_two_iff (failure : Failure) :
    failure.exitCode = 2 ↔ ∃ fault, failure = .transport fault := by
  cases failure <;> simp [exitCode, severity, category]

theorem exitCode_eq_one_or_two (failure : Failure) :
    failure.exitCode = 1 ∨ failure.exitCode = 2 := by
  cases failure <;> simp [exitCode, severity, category]

end Failure

end LayerCull
