import LayerCull.Proofs.FailStop

/-!
This module contains the deletion of one layer from its first call to its result. `Removes` lists what
the server can answer to the calls of a deletion and what comes of it, and `removeLayer_run_iff` states
that a deletion goes in just these ways.
-/

namespace LayerCull

open Dialogue

/-- The server refuses the deletion of a layer and names the group that holds it. -/
structure Response.HeldBy (r : Response) (group : LayerId) : Prop where
  refused : r.status = 500
  named : Marker.groupReference.Names r.body group

/-- The deletion of the layer can take these calls, answered so, and come to this result. -/
inductive Removes (layer : LayerId) : List Exchange → Except Failure Removal → Prop where
  | unanswered (fault : Fault) :
    Removes layer [(.deleteLayer layer, .error fault)] (.error (.transport fault))
  | accepted {reply : Response} (accepted : reply.status ≠ 500) :
    Removes layer [(.deleteLayer layer, .ok reply)] (.ok (.direct reply.status))
  | unmarked {reply : Response} (refused : reply.status = 500) (unmarked : ¬reply.SaysHeld) :
    Removes layer [(.deleteLayer layer, .ok reply)]
      (.error (.deletionFailed layer.text 500 reply.body))
  | unidentified {reply : Response} (refused : reply.status = 500) (unnamed : reply.NamesNoGroup) :
    Removes layer [(.deleteLayer layer, .ok reply)]
      (.error (.unidentifiedGroup layer.text reply.body))
  | groupUnanswered {refusal : Response} {group : LayerId} (held : refusal.HeldBy group)
    (fault : Fault) :
    Removes layer [(.deleteLayer layer, .ok refusal), (.deleteGroup group, .error fault)]
      (.error (.transport fault))
  | retryUnanswered {refusal : Response} {group : LayerId} (held : refusal.HeldBy group)
    (groupReply : Response) (fault : Fault) :
    Removes layer [(.deleteLayer layer, .ok refusal), (.deleteGroup group, .ok groupReply),
      (.deleteLayer layer, .error fault)] (.error (.transport fault))
  | retryRefused {refusal : Response} {group : LayerId} (held : refusal.HeldBy group)
    (groupReply : Response) {retry : Response} (refused : retry.status = 500) :
    Removes layer [(.deleteLayer layer, .ok refusal), (.deleteGroup group, .ok groupReply),
      (.deleteLayer layer, .ok retry)] (.error (.deletionFailed layer.text 500 retry.body))
  | retryAccepted {refusal : Response} {group : LayerId} (held : refusal.HeldBy group)
    (groupReply : Response) {retry : Response} (accepted : retry.status ≠ 500) :
    Removes layer [(.deleteLayer layer, .ok refusal), (.deleteGroup group, .ok groupReply),
      (.deleteLayer layer, .ok retry)] (.ok (.afterGroup group groupReply.status retry.status))

namespace Course

theorem Refusal.heldBy (refusal : Refusal) : refusal.reply.HeldBy refusal.group where
  refused := refusal.status_eq
  named := Marker.subject?_eq_some_iff.1 refusal.named

theorem exists_refusal_of_heldBy {reply : Response} {group : LayerId} (h : reply.HeldBy group) :
    ∃ refusal : Refusal, refusal.reply = reply ∧ refusal.group = group := by
  have refused := Response.isInternalError_iff.2 h.refused
  exact ⟨⟨reply, group, refused, Marker.subject?_eq_some_iff.2 h.named⟩, rfl, rfl⟩

variable {layer : LayerId}

theorem Deletion.removes (deletion : Deletion) :
    Removes layer (deletion.calls layer) (.ok deletion.removal) := by
  cases deletion with
  | direct reply accepted => exact .accepted (status_ne_of_accepted accepted)
  | afterGroup refusal groupReply retry accepted =>
    exact .retryAccepted refusal.heldBy groupReply (status_ne_of_accepted accepted)

theorem Failed.removes (failed : Failed) :
    Removes layer (failed.calls layer) (.error (failed.failure layer)) := by
  cases failed with
  | unanswered fault => exact .unanswered fault
  | unmarked reply refused unmarked =>
    have hstatus := status_eq_of_refused refused
    rw [failure, hstatus]
    apply Removes.unmarked hstatus
    rw [← Response.saysHeld_iff]
    exact Bool.eq_false_iff.1 unmarked
  | unidentified reply refused marked unnamed =>
    apply Removes.unidentified (status_eq_of_refused refused)
    exact Response.namesNoGroup_iff.1 ⟨marked, unnamed⟩
  | groupUnanswered refusal fault => exact .groupUnanswered refusal.heldBy fault
  | retryUnanswered refusal groupReply fault =>
    exact .retryUnanswered refusal.heldBy groupReply fault
  | retryRefused refusal groupReply retry refused =>
    have hstatus := status_eq_of_refused refused
    rw [failure, hstatus]
    exact .retryRefused refusal.heldBy groupReply hstatus

/-- What is listed is a deletion that was carried out or one that failed. -/
theorem exists_of_removes {calls : List Exchange} {result : Except Failure Removal}
    (h : Removes layer calls result) :
    (∃ deletion : Deletion, deletion.calls layer = calls ∧ result = .ok deletion.removal) ∨
      ∃ failed : Failed, failed.calls layer = calls ∧ result = .error (failed.failure layer) := by
  cases h with
  | unanswered fault => exact .inr ⟨.unanswered fault, rfl, rfl⟩
  | accepted hstatus =>
    have accepted := Response.isInternalError_eq_false_iff.2 hstatus
    exact .inl ⟨.direct _ accepted, rfl, rfl⟩
  | unmarked hstatus hunmarked =>
    have refused := Response.isInternalError_iff.2 hstatus
    rw [← Response.saysHeld_iff] at hunmarked
    refine .inr ⟨.unmarked _ refused (Bool.eq_false_iff.2 hunmarked), rfl, ?_⟩
    rw [Failed.failure, hstatus]
  | unidentified hstatus hnone =>
    have refused := Response.isInternalError_iff.2 hstatus
    rcases Response.namesNoGroup_iff.2 hnone with ⟨marked, unnamed⟩
    exact .inr ⟨.unidentified _ refused marked unnamed, rfl, rfl⟩
  | groupUnanswered held fault =>
    rcases exists_refusal_of_heldBy held with ⟨refusal, rfl, rfl⟩
    exact .inr ⟨.groupUnanswered refusal fault, rfl, rfl⟩
  | retryUnanswered held groupReply fault =>
    rcases exists_refusal_of_heldBy held with ⟨refusal, rfl, rfl⟩
    exact .inr ⟨.retryUnanswered refusal groupReply fault, rfl, rfl⟩
  | retryRefused held groupReply hstatus =>
    have refused := Response.isInternalError_iff.2 hstatus
    rcases exists_refusal_of_heldBy held with ⟨refusal, rfl, rfl⟩
    refine .inr ⟨.retryRefused refusal groupReply _ refused, rfl, ?_⟩
    rw [Failed.failure, hstatus]
  | retryAccepted held groupReply hstatus =>
    have accepted := Response.isInternalError_eq_false_iff.2 hstatus
    rcases exists_refusal_of_heldBy held with ⟨refusal, rfl, rfl⟩
    exact .inl ⟨.afterGroup refusal groupReply _ accepted, rfl, rfl⟩

theorem removes_of_admits {entries : Entries} {result : Except Failure Removal}
    (h : (removeLayer layer).Admits entries result) : Removes layer (exchanges entries) result := by
  rcases course_of_removeLayer h with ⟨deletion, rfl, rfl⟩ | ⟨failed, rfl, rfl⟩
  . rw [exchanges_deletion]
    exact deletion.removes
  . rw [exchanges_failed]
    exact failed.removes

theorem exists_admits_of_removes {calls : List Exchange} {result : Except Failure Removal}
    (h : Removes layer calls result) :
    ∃ entries, exchanges entries = calls ∧ (removeLayer layer).Admits entries result := by
  rcases exists_of_removes h with ⟨deletion, rfl, rfl⟩ | ⟨failed, rfl, rfl⟩
  . exact ⟨_, exchanges_deletion layer deletion, removeLayer_admits_deletion layer deletion⟩
  . exact ⟨_, exchanges_failed layer failed, removeLayer_admits_failed layer failed⟩

end Course

/-- Whoever answers, the deletion of a layer makes the calls of a listed way and comes to its result,
and it goes that way if the answers are those. -/
theorem removeLayer_run_iff (layer : LayerId) {σ : Type} (respond : Counterpart Call Answer σ)
    (first last : σ) (calls : List Exchange) (result : Except Failure Removal) :
    (∃ entries, exchanges entries = calls ∧
        (removeLayer layer).run respond first = (⟨entries, result⟩, last)) ↔
      Removes layer calls result ∧ Replies respond calls first last := by
  constructor
  . rintro ⟨entries, rfl, hrun⟩
    have hadmits := admits_run respond (removeLayer layer) first
    have hreplies := replies_run respond (removeLayer layer) first
    rw [hrun] at hadmits hreplies
    exact ⟨Course.removes_of_admits hadmits, hreplies⟩
  . rintro ⟨hremoves, hreplies⟩
    rcases Course.exists_admits_of_removes hremoves with ⟨entries, rfl, hadmits⟩
    exact ⟨entries, rfl, run_eq_of_admits hadmits hreplies⟩

open Script in
-- A second refusal is the last word, though it names a group again.
example :
    ((removeLayer sampleLayer).run respond { heldLayer with
      layerDeletes := List.replicate 2 (.ok ⟨500, Marker.groupReference.saying sampleGroup⟩)
    }).1.result = .error (.deletionFailed sampleLayer.text 500
      (Marker.groupReference.saying sampleGroup)) := by
  decide +kernel

end LayerCull
