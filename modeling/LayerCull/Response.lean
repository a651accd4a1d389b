/-!
This module contains what the map server answers: a status and a body.
-/

namespace LayerCull

structure Response where
  status : Nat
  body : String
  deriving DecidableEq, Repr

namespace Response

/-- The server answers every delete that it could not carry out with a plain 500. -/
def isInternalError (r : Response) : Bool :=
  r.status == 500

def isSuccess (r : Response) : Bool :=
  200 ≤ r.status && r.status < 300

def isNotFound (r : Response) : Bool :=
  r.status == 404

theorem isInternalError_iff {r : Response} : r.isInternalError = true ↔ r.status = 500 := by
  simp [isInternalError]

theorem isInternalError_eq_false_iff {r : Response} :
    r.isInternalError = false ↔ r.status ≠ 500 := by
  simp [isInternalError]

end Response

end LayerCull
