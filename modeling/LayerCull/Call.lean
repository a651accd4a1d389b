import LayerCull.LayerId
import LayerCull.Response

/-!
This module contains the four requests that a cleanup makes of the map server, and what comes back:
a response, or a fault of the transport.
-/

namespace LayerCull

inductive Call where
  | capabilities
  | deleteLayer (layer : LayerId)
  | deleteGroup (group : LayerId)
  | lookup (layer : LayerId)
  deriving DecidableEq, Repr

namespace Call

def describe : Call → String
  | .capabilities => "GET capabilities"
  | .deleteLayer layer => "DELETE layer " ++ layer.text
  | .deleteGroup group => "DELETE group " ++ group.text
  | .lookup layer => "GET layer " ++ layer.text

/-- The identifier that the call is about. -/
def subject? : Call → Option LayerId
  | .capabilities => none
  | .deleteLayer id | .deleteGroup id | .lookup id => some id

end Call

/-- How far a call came before the transport failed. -/
inductive Stage where
  /-- No request could be built. -/
  | building
  /-- The request could not be delivered, or no answer came back. -/
  | sending
  /-- The answer's body broke off. -/
  | reading
  deriving DecidableEq, Repr

structure Fault where
  stage : Stage
  /-- The address that the request was for, where it is known. -/
  url : Option String := none
  timedOut : Bool := false
  deriving DecidableEq, Repr

namespace Fault

def message (fault : Fault) : String :=
  stageText fault.stage ++
    match fault.url with
    | some url => " for url (" ++ url ++ ")"
    | none => ""
where
  stageText : Stage → String
    | .building => "builder error"
    | .sending => "error sending request"
    | .reading => "error decoding response body"

end Fault

abbrev Answer := Except Fault Response

end LayerCull
