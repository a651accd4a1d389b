import LayerCull.Call
import LayerCull.Config.Basic

/-!
This module contains the addresses at which the map server answers, as texts made from the endpoint.
-/

namespace LayerCull.Http

namespace Address

/-- The endpoint without slashes at its end. -/
def base (config : Config) : String :=
  Config.dropTrailingSlashes config.endpoint

def capabilities (config : Config) : String :=
  base config ++ "/geoserver/wms?request=GetCapabilities&service=wms&version=1.1.1"

def layer (config : Config) (layer : LayerId) : String :=
  base config ++ "/geoserver/rest/layers/" ++ layer.text

def layerGroup (config : Config) (group : LayerId) : String :=
  base config ++ "/geoserver/rest/workspaces/" ++ config.workspace ++ "/layergroups/" ++
    group.text ++ ".json"

/-- A look-up asks for the layer as a document. -/
def ofCall (config : Config) : Call → String
  | .capabilities => capabilities config
  | .deleteLayer id => layer config id
  | .deleteGroup id => layerGroup config id
  | .lookup id => layer config id ++ ".json"

end Address

end LayerCull.Http
