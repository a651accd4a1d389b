import LayerCull.Cleanup
import LayerCull.Proofs.Identifier
import LayerCull.Proofs.Transcript
import LayerCull.Script

/-!
This module contains the exchanges of a cleanup, and the rounds into which they fall: one for each
capabilities call.
-/

namespace LayerCull

abbrev Exchange := Call × Answer

namespace Exchange

def document? : Exchange → Option Answer
  | (.capabilities, answer) => some answer
  | _ => none

def layerDeletion? : Exchange → Option (LayerId × Answer)
  | (.deleteLayer layer, answer) => some (layer, answer)
  | _ => none

def groupDeletion? : Exchange → Option (LayerId × Answer)
  | (.deleteGroup group, answer) => some (group, answer)
  | _ => none

def lookup? : Exchange → Option (LayerId × Answer)
  | (.lookup layer, answer) => some (layer, answer)
  | _ => none

def isProbe (x : Exchange) : Bool :=
  x.document?.isSome

def isLayerDeletion (x : Exchange) : Bool :=
  x.layerDeletion?.isSome

def isGroupDeletion (x : Exchange) : Bool :=
  x.groupDeletion?.isSome

def isDeletion (x : Exchange) : Bool :=
  x.isLayerDeletion || x.isGroupDeletion

def isLookup (x : Exchange) : Bool :=
  x.lookup?.isSome

/-- The layer that the answer, a capabilities document, reports. -/
def reported? : Exchange → Option LayerId
  | (.capabilities, .ok document) => badLayer? document.body
  | _ => none

end Exchange

/-- A capabilities call and what follows it, up to the next one. -/
structure Round where
  document : Answer
  calls : List Exchange
  deriving DecidableEq

namespace Round

def exchanges (round : Round) : List Exchange :=
  (.capabilities, round.document) :: round.calls

def layer? (round : Round) : Option LayerId :=
  Exchange.reported? (.capabilities, round.document)

def layerDeletions (round : Round) : List (LayerId × Answer) :=
  round.calls.filterMap Exchange.layerDeletion?

def groupDeletions (round : Round) : List (LayerId × Answer) :=
  round.calls.filterMap Exchange.groupDeletion?

def lookups (round : Round) : List (LayerId × Answer) :=
  round.calls.filterMap Exchange.lookup?

def deletes (round : Round) : Bool :=
  round.calls.any Exchange.isDeletion

/-- The reported layer was deleted at last and, where that is asked for, looked up once and not
found. -/
def Completed (verify : Bool) (round : Round) : Prop :=
  ∃ layer reply, round.layer? = some layer ∧
    round.layerDeletions.getLast? = some (layer, .ok reply) ∧ reply.status ≠ 500 ∧
    (verify = true → ∃ found, round.lookups = [(layer, .ok found)] ∧ found.status = 404) ∧
    (verify = false → round.lookups = [])

end Round

/-- Cuts the exchanges at the capabilities calls. -/
def rounds : List Exchange → List Round
  | [] => []
  | (.capabilities, document) :: rest => ⟨document, rest.takeWhile (!·.isProbe)⟩ :: rounds rest
  | _ :: rest => rounds rest

theorem rounds_append_of_no_probe {calls : List Exchange} (h : ∀ x ∈ calls, x.isProbe = false)
    (rest : List Exchange) : rounds (calls ++ rest) = rounds rest := by
  induction calls with
  | nil => rfl
  | cons x calls ih =>
    have hx := h x (by simp)
    have hcalls := ih fun y hy => h y (by simp [hy])
    rcases x with ⟨_ | _ | _ | _, answer⟩
    . simp [Exchange.isProbe, Exchange.document?] at hx
    all_goals
      rw [List.cons_append, rounds]
      . exact hcalls
      . simp

theorem rounds_flatMap_exchanges {rs : List Round}
    (h : ∀ r ∈ rs, ∀ x ∈ r.calls, x.isProbe = false) : rounds (rs.flatMap Round.exchanges) = rs := by
  induction rs with
  | nil => rfl
  | cons r rs ih =>
    have hr := h r (by simp)
    have hstop : (rs.flatMap Round.exchanges).takeWhile (!·.isProbe) = [] := by
      cases rs <;> simp [Round.exchanges, Exchange.isProbe, Exchange.document?]
    have hcalls : (r.calls ++ rs.flatMap Round.exchanges).takeWhile (!·.isProbe) = r.calls := by
      rw [List.takeWhile_append_of_pos, hstop, List.append_nil]
      simpa using hr
    rw [List.flatMap_cons, Round.exchanges, List.cons_append, rounds, hcalls,
      rounds_append_of_no_probe hr, ih]
    intro r' hr'
    apply h
    simp [hr']

theorem countP_isProbe_flatMap_exchanges {rs : List Round}
    (h : ∀ r ∈ rs, ∀ x ∈ r.calls, x.isProbe = false) :
    (rs.flatMap Round.exchanges).countP Exchange.isProbe = rs.length := by
  induction rs with
  | nil => rfl
  | cons r rs ih =>
    have hr : r.calls.countP Exchange.isProbe = 0 := by
      rw [List.countP_eq_zero]
      intro x hx
      rw [h r (by simp) x hx]
      simp
    have hrs := ih fun r' hr' => h r' (by simp [hr'])
    have hprobe : Exchange.isProbe (.capabilities, r.document) = true := rfl
    rw [List.flatMap_cons, List.countP_append, hrs, Round.exchanges, List.countP_cons, hr, hprobe,
      List.length_cons]
    simp only [if_true]
    omega

theorem Exchange.reported?_eq_none {x : Exchange} (h : x.isProbe = false) : x.reported? = none := by
  rcases x with ⟨_ | _ | _ | _, answer⟩
  . simp [isProbe, document?] at h
  all_goals rfl

theorem Round.filterMap_reported? {r : Round} (h : ∀ x ∈ r.calls, x.isProbe = false) :
    r.exchanges.filterMap Exchange.reported? = r.layer?.toList := by
  have hcalls : r.calls.filterMap Exchange.reported? = [] := by
    rw [List.filterMap_eq_nil_iff]
    intro x hx
    exact Exchange.reported?_eq_none (h x hx)
  rw [Round.exchanges, Round.layer?, List.filterMap_cons, hcalls]
  cases Exchange.reported? (.capabilities, r.document) <;> rfl

namespace Script

def sampleLayer : LayerId := ⟨"3f2b8c1e-0d4a-4b6f-9e57-a1c2d3e4f506", by decide +kernel⟩

def sampleGroup : LayerId := ⟨"9c0d7a52-61be-4f38-8a24-0b1c2d3e4f5a", by decide +kernel⟩

/-- One bad layer, and a group that holds it. -/
def heldLayer : Script where
  capabilities := [.ok ⟨200, Marker.metadataFailure.saying sampleLayer⟩]
  layerDeletes := [.ok ⟨500, Marker.groupReference.saying sampleGroup⟩, .ok ⟨200, ""⟩]
  groupDeletes := [.ok ⟨200, ""⟩]

end Script

open Script Dialogue in
example : rounds (exchanges ((Cleanup.run ⟨1, true, false⟩).run respond heldLayer).1.entries) =
    [⟨.ok ⟨200, Marker.metadataFailure.saying sampleLayer⟩,
      [(.deleteLayer sampleLayer, .ok ⟨500, Marker.groupReference.saying sampleGroup⟩),
        (.deleteGroup sampleGroup, .ok ⟨200, ""⟩), (.deleteLayer sampleLayer, .ok ⟨200, ""⟩),
        (.lookup sampleLayer, absent)]⟩,
      ⟨cleanDocument, []⟩] := by
  decide +kernel

end LayerCull
