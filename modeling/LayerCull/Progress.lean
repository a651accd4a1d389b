import LayerCull.LayerId

/-!
This module contains what a cleanup tells its operator, one line for each event.
-/

namespace LayerCull

inductive Progress where
  | started
  | deleteAttempted (layer : LayerId) (status : Nat)
  | groupDeleted (group : LayerId) (status : Nat)
  | deleteRetried (layer : LayerId) (status : Nat)
  | serverErrorBody (body : String)
  | deletionAborted
  | verified (layer : LayerId)
  /-- What a dry run would have deleted first. -/
  | candidate (layer : Option LayerId)
  | finished
  deriving DecidableEq, Repr

namespace Progress

def line : Progress → String
  | .started => "Begin culling of Bad Layers"
  | .deleteAttempted layer status =>
    "Culling " ++ layer.text ++ ", response was " ++ toString status
  | .groupDeleted group status =>
    "Culled Layer Group " ++ group.text ++ ", response was " ++ toString status
  | .deleteRetried layer status =>
    "Retry culling " ++ layer.text ++ ", response was " ++ toString status
  | .serverErrorBody body => body
  | .deletionAborted => "Could not delete layer. Exiting."
  | .verified layer => "Verified " ++ layer.text ++ " is gone"
  | .candidate (some layer) => "Dry run: would cull " ++ layer.text
  | .candidate none => "Dry run: no Bad Layers found"
  | .finished => "Done culling Bad Layers"

end Progress

end LayerCull
