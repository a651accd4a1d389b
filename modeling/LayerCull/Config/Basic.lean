import LayerCull.Config.Check
import LayerCull.Text.Quoted

/-!
This module contains the configuration of a cleanup, and whether it is legal.
-/

namespace LayerCull

structure Config where
  endpoint : String
  username : String
  password : String
  workspace : String := "piazza"
  timeoutSeconds : Nat := 30
  maxIterations : Nat := 100
  verifyDeletion : Bool := false
  deriving DecidableEq, Repr

namespace Config

def dropTrailingSlashes (text : String) : String :=
  String.ofList (text.toList.reverse.dropWhile (· == '/')).reverse

/-- The configuration of an endpoint, with everything else as it is by default. Paths are appended to
the endpoint, so its own slashes at the end go. -/
def ofEndpoint (endpoint username password : String) : Config :=
  { endpoint := dropTrailingSlashes endpoint, username, password }

def maxTimeoutSeconds : Nat := 3600

/-- The configuration in words, without the password. -/
def describe (config : Config) : String :=
  "CleanupConfig \x7b endpoint: " ++ Text.quoted config.endpoint ++
    ", username: " ++ Text.quoted config.username ++
    ", password: \"***\", workspace: " ++ Text.quoted config.workspace ++
    ", timeout_seconds: " ++ toString config.timeoutSeconds ++
    ", max_iterations: " ++ toString config.maxIterations ++
    ", verify_deletion: " ++ toString config.verifyDeletion ++ " \x7d"

/-- Names the first setting that is not legal. -/
def validate (config : Config) : Check.Checked := do
  Check.url "geoserver.endpoint" config.endpoint
  Check.nonEmpty "geoserver.username" config.username
  Check.ensure (!config.password.isEmpty)
    (.invalidSetting "geoserver.password" "" "Password cannot be empty")
  Check.pathSegment "geoserver.workspace" config.workspace
  Check.range "http.timeout_seconds" config.timeoutSeconds 1 maxTimeoutSeconds
  Check.positive "cleanup.max_iterations" config.maxIterations 1

end Config

end LayerCull
