import LayerCull.Removal

/-!
This module contains the cleanup itself: as long as the capabilities document names a bad layer,
remove that layer. `Cleanup.run` is the whole cleanup; a `Policy` says how far it may go.
-/

namespace LayerCull

structure Policy where
  /-- How many layers may be deleted. -/
  maxIterations : Nat := 100
  /-- Look every deleted layer up again. -/
  verifyDeletion : Bool := false
  /-- Only say which layer would be deleted first. -/
  dryRun : Bool := false
  deriving DecidableEq, Repr

namespace Cleanup

/-- Asks for the capabilities document and reads off the layer that makes it fail. -/
def probe : Dialogue Call Answer (Option LayerId) := do
  let answer ← .consult .capabilities
  .log (.capabilitiesReceived answer.status answer.body.utf8ByteSize)
  let layer := badLayer? answer.body
  .log (finding answer.body layer)
  return layer
where
  finding (body : String) : Option LayerId → Log.Event
    | some layer => .badLayerFound layer
    | none => if Marker.metadataFailure.isIn body then .badLayerUnidentified else .noBadLayer

def finish (summary : Summary) : Dialogue Call Answer Summary := do
  .report .finished
  .log (.cleanupFinished summary.culledLayers.length summary.removedGroups.length)
  return summary.finish

/-- Removes one layer and enters it into the summary. -/
def removeNext (policy : Policy) (layer : LayerId) (summary : Summary) :
    Dialogue Call Answer Summary := do
  let summary := { summary with iterations := summary.iterations + 1 }
  .log (.iterationStarted summary.iterations layer)
  let removal ← removeLayer layer
  if policy.verifyDeletion then
    confirmGone layer
  return summary.record layer removal

/-- Removes bad layers until none is left, or the budget of deletions is spent. -/
def cull (policy : Policy) (budget : Nat) (summary : Summary) : Dialogue Call Answer Summary := do
  match ← probe with
  | none => finish summary
  | some layer =>
    match budget with
    | 0 =>
      .log (.limitReached layer summary.iterations)
      .fail (.iterationLimit policy.maxIterations)
    | budget + 1 => cull policy budget (← removeNext policy layer summary)

/-- Names the layer that a cleanup would begin with. -/
def preview : Dialogue Call Answer Summary := do
  let layer ← probe
  .report (.candidate layer)
  return { pendingLayer := layer, finished := true }

def run (policy : Policy) : Dialogue Call Answer Summary := do
  .report .started
  .log (.cleanupStarted policy.maxIterations policy.verifyDeletion policy.dryRun)
  if policy.dryRun then
    preview
  else
    cull policy policy.maxIterations {}

end Cleanup

end LayerCull
