import LayerCull.LayerId

/-!
This module contains how a layer was removed, and the account that a cleanup keeps of its removals.
-/

namespace LayerCull

/-- How the deletion of a layer came to its end. -/
inductive Removal where
  | direct (status : Nat)
  /-- The layer group that held the layer was deleted first. -/
  | afterGroup (group : LayerId) (groupStatus status : Nat)
  deriving DecidableEq, Repr

/-- The layer group that was deleted on the way. -/
def Removal.group? : Removal → Option LayerId
  | .direct _ => none
  | .afterGroup group _ _ => some group

structure Summary where
  /-- How many deletions were begun. -/
  iterations : Nat := 0
  culledLayers : List LayerId := []
  removedGroups : List LayerId := []
  /-- The layer that a dry run would have deleted. -/
  pendingLayer : Option LayerId := none
  finished : Bool := false
  deriving DecidableEq, Repr

namespace Summary

def record (summary : Summary) (layer : LayerId) (removal : Removal) : Summary :=
  { summary with
    culledLayers := summary.culledLayers ++ [layer]
    removedGroups := summary.removedGroups ++ removal.group?.toList }

def finish (summary : Summary) : Summary :=
  { summary with finished := true }

end Summary

end LayerCull
