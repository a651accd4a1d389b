import LayerCull.Dialogue

/-!
This module contains a counterpart that answers from prepared lists, one for each kind of call.
-/

namespace LayerCull

/-- The answers that are still to be given. -/
structure Script where
  capabilities : List Answer := []
  layerDeletes : List Answer := []
  groupDeletes : List Answer := []
  lookups : List Answer := []

namespace Script

/-- A document that names no layer. -/
def cleanDocument : Answer :=
  .ok ⟨200, "<WMT_MS_Capabilities/>"⟩

def absent : Answer :=
  .ok ⟨404, ""⟩

/-- The next answer of the call's list; an empty list stands for a clean and empty server. -/
def respond : Dialogue.Counterpart Call Answer Script
  | .capabilities, script =>
    (script.capabilities.headD cleanDocument,
      { script with capabilities := script.capabilities.tail })
  | .deleteLayer _, script =>
    (script.layerDeletes.headD absent, { script with layerDeletes := script.layerDeletes.tail })
  | .deleteGroup _, script =>
    (script.groupDeletes.headD absent, { script with groupDeletes := script.groupDeletes.tail })
  | .lookup _, script =>
    (script.lookups.headD absent, { script with lookups := script.lookups.tail })

end Script

end LayerCull
