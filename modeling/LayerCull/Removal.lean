import LayerCull.Diagnosis
import LayerCull.Dialogue
import LayerCull.Summary

/-!
This module contains the removal of one layer. `removeLayer` deletes it, and its layer group first
if need be; `confirmGone` looks it up again.
-/

namespace LayerCull

/-- Shows the server's error text and gives up. -/
def abortDeletion (failure : Failure) (body : String) : Dialogue Call Answer Removal := do
  .report (.serverErrorBody body)
  .report .deletionAborted
  .fail failure

/-- Deletes the layer group once, whatever the answer, and then the layer once more. -/
def removeAfterGroup (layer group : LayerId) : Dialogue Call Answer Removal := do
  .log (.groupHoldsLayer layer group)
  let groupAnswer ← .consult (.deleteGroup group)
  .report (.groupDeleted group groupAnswer.status)
  if groupAnswer.isInternalError then
    .log (.groupDeletionFailed group groupAnswer.status)
    .report (.serverErrorBody groupAnswer.body)
  let answer ← .consult (.deleteLayer layer)
  .report (.deleteRetried layer answer.status)
  if answer.isInternalError then
    .log (.retryFailed layer answer.status)
    abortDeletion (.deletionFailed layer.text answer.status answer.body) answer.body
  else
    return .afterGroup group groupAnswer.status answer.status

/-- Deletes the layer. A refusal that names a layer group leads to one more attempt. -/
def removeLayer (layer : LayerId) : Dialogue Call Answer Removal := do
  let answer ← .consult (.deleteLayer layer)
  .report (.deleteAttempted layer answer.status)
  if !answer.isInternalError then
    return .direct answer.status
  else if !isGroupReferenceError answer.body then
    .log (.deletionFailed layer answer.status)
    abortDeletion (.deletionFailed layer.text answer.status answer.body) answer.body
  else
    match holdingGroup? answer.body with
    | none =>
      .log (.groupUnidentified layer)
      abortDeletion (.unidentifiedGroup layer.text answer.body) answer.body
    | some group => removeAfterGroup layer group

/-- Looks the layer up; only the answer that there is none confirms the deletion. -/
def confirmGone (layer : LayerId) : Dialogue Call Answer Unit := do
  let answer ← .consult (.lookup layer)
  if answer.isNotFound then
    .report (.verified layer)
  else if answer.isSuccess then
    .log (.layerStillPresent layer answer.status)
    .fail (.stillPresent layer.text answer.status)
  else
    .log (.lookupFailed layer answer.status)
    .report (.serverErrorBody answer.body)
    .fail (.unverified layer.text answer.status answer.body)

end LayerCull
