import LayerCull.Dialogue
import LayerCull.Http.Request

/-!
This module contains how calls are put to the map server: each call becomes one request, or none if
the request cannot be built.
-/

namespace LayerCull.Http

/-- Puts one call. -/
def perform (config : Config) (call : Call) : Dialogue Request Delivery Answer := do
  .log (.requestMade (Method.ofCall call).name (Address.ofCall config call))
  match Request.build config call with
  | .error fault => return .error fault
  | .ok request => .ask request fun delivery => .done (request.receive delivery)

/-- Puts all calls of a dialogue. -/
def overWire {α : Type} (config : Config) (d : Dialogue Call Answer α) :
    Dialogue Request Delivery α :=
  d.lower (perform config)

end LayerCull.Http
