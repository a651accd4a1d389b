import LayerCull.Failure

/-!
This module contains what the person at the terminal is told when a run fails, whatever the log is set
to.
-/

namespace LayerCull

inductive Complaint where
  | cause (failure : Failure)
  | advice (failure : Failure)
  deriving DecidableEq, Repr

def Complaint.line : Complaint → String
  | .cause failure => "❌ " ++ failure.summary
  | .advice failure => "💡 " ++ failure.advice

end LayerCull
