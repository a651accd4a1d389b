import LayerCull.Config.Basic

/-!
This module contains settings, of which any may be left open. Settings are laid over one another, and
in the end resolved into a configuration.
-/

namespace LayerCull

structure Settings where
  endpoint : Option String := none
  username : Option String := none
  password : Option String := none
  workspace : Option String := none
  maxIterations : Option Nat := none
  verifyDeletion : Option Bool := none
  timeoutSeconds : Option Nat := none
  deriving DecidableEq, Repr

namespace Settings

/-- What the upper settings leave open, the lower ones decide. -/
def overlay (lower upper : Settings) : Settings where
  endpoint := upper.endpoint <|> lower.endpoint
  username := upper.username <|> lower.username
  password := upper.password <|> lower.password
  workspace := upper.workspace <|> lower.workspace
  maxIterations := upper.maxIterations <|> lower.maxIterations
  verifyDeletion := upper.verifyDeletion <|> lower.verifyDeletion
  timeoutSeconds := upper.timeoutSeconds <|> lower.timeoutSeconds

/-- The configuration, if the three settings without a default are there. -/
def resolve (settings : Settings) : Except Failure Config := do
  let endpoint ← Check.required "geoserver.endpoint (-g)" settings.endpoint
  let username ← Check.required "geoserver.username (-u)" settings.username
  let password ← Check.required "geoserver.password (-p)" settings.password
  let base := Config.ofEndpoint endpoint username password
  return { base with
    workspace := settings.workspace.getD base.workspace
    timeoutSeconds := settings.timeoutSeconds.getD base.timeoutSeconds
    maxIterations := settings.maxIterations.getD base.maxIterations
    verifyDeletion := settings.verifyDeletion.getD base.verifyDeletion }

end Settings

end LayerCull
