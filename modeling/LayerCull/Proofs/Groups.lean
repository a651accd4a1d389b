import LayerCull.Proofs.Account
import LayerCull.Proofs.Preview
import Mathlib.Data.List.Basic

/-!
This module contains what a summary says of the layer groups. It lists every group whose deletion the
server answered, and a refusal is an answer too: so it lists the groups that were removed exactly if
the server refused the deletion of none, `run_truthful_iff`.
-/

namespace LayerCull

open Dialogue

def Exchange.groupReply? : Exchange → Option (LayerId × Response)
  | (.deleteGroup group, .ok reply) => some (group, reply)
  | _ => none

/-- The groups whose deletion was answered, with the answers. -/
def groupReplies (calls : List Exchange) : List (LayerId × Response) :=
  calls.filterMap Exchange.groupReply?

/-- The server did not refuse to delete the group. -/
def Agreed (x : LayerId × Response) : Prop :=
  x.2.status ≠ 500

instance (x : LayerId × Response) : Decidable (Agreed x) :=
  inferInstanceAs (Decidable (x.2.status ≠ 500))

/-- The summary lists the groups that the server agreed to delete, and as many as it agreed to. -/
structure Truthful (calls : List Exchange) (summary : Summary) : Prop where
  removed : ∀ group ∈ summary.removedGroups,
    ∃ reply, (group, reply) ∈ groupReplies calls ∧ Agreed (group, reply)
  listed : ∀ group reply, (group, reply) ∈ groupReplies calls → Agreed (group, reply) →
    group ∈ summary.removedGroups
  number : summary.removedGroups.length = (groupReplies calls).countP (Agreed ·)

section Truthful

variable {calls : List Exchange}

theorem map_fst_groupReplies (h : ∀ x ∈ calls, ∃ reply, x.2 = .ok reply) :
    (groupReplies calls).map Prod.fst = (calls.filterMap Exchange.groupDeletion?).map Prod.fst := by
  rw [groupReplies, List.map_filterMap, List.map_filterMap]
  apply List.filterMap_congr
  rintro ⟨call, answer⟩ hx
  rcases h _ hx with ⟨reply, rfl⟩
  cases call <;> rfl

theorem truthful_iff {summary : Summary}
    (h : summary.removedGroups = (groupReplies calls).map Prod.fst) :
    Truthful calls summary ↔ ∀ x ∈ groupReplies calls, Agreed x := by
  constructor
  . intro htruthful
    have hnumber := htruthful.number
    rw [h, List.length_map, eq_comm, List.countP_eq_length] at hnumber
    intro x hx
    exact of_decide_eq_true (hnumber x hx)
  . intro hagreed
    constructor
    case removed =>
      intro group hgroup
      rw [h, List.mem_map] at hgroup
      rcases hgroup with ⟨⟨_, reply⟩, hreply, rfl⟩
      exact ⟨reply, hreply, hagreed _ hreply⟩
    case listed =>
      intro group reply hreply _
      rw [h]
      exact List.mem_map_of_mem hreply
    case number =>
      rw [h, List.length_map, eq_comm, List.countP_eq_length]
      intro x hx
      exact decide_eq_true (hagreed x hx)

end Truthful

namespace Course

variable {policy : Policy}

theorem Deletion.answered (layer : LayerId) (deletion : Deletion) :
    ∀ x ∈ deletion.calls layer, ∃ reply, x.2 = .ok reply := by
  cases deletion <;> simp [calls]

theorem Culling.answered (c : Culling policy) : ∀ x ∈ c.round.exchanges, ∃ reply, x.2 = .ok reply := by
  intro x hx
  rw [Round.exchanges, round, calls, List.mem_cons, List.mem_append, List.mem_map] at hx
  rcases hx with rfl | hx | ⟨found, _, rfl⟩
  . exact ⟨_, rfl⟩
  . exact c.deletion.answered c.layer x hx
  . exact ⟨_, rfl⟩

/-- A cleanup that succeeds got an answer to every call. -/
theorem answered_of_result_eq_ok {course : Course policy} {summary : Summary}
    (h : course.result = .ok summary) :
    ∀ x ∈ exchanges course.entries, ∃ reply, x.2 = .ok reply := by
  rcases (result_eq_ok_iff.1 h).1 with ⟨document, clean, hending⟩
  intro x hx
  rw [exchanges_entries, flatMap_exchanges_rounds, hending, List.mem_append, List.mem_flatMap] at hx
  rcases hx with ⟨c, _, hx⟩ | hx
  . exact c.answered x hx
  . rw [List.mem_singleton.1 hx]
    exact ⟨_, rfl⟩

end Course

section Run

variable (policy : Policy) {σ : Type} (respond : Counterpart Call Answer σ) (state : σ)
  {summary : Summary}

theorem Cleanup.removedGroups_eq
    (h : ((Cleanup.run policy).run respond state).1.result = .ok summary) :
    summary.removedGroups =
      (groupReplies (exchanges ((Cleanup.run policy).run respond state).1.entries)).map
        Prod.fst := by
  cases hdry : policy.dryRun with
  | false =>
    rcases Course.run_course hdry respond state with ⟨course, hrun⟩
    rw [hrun] at h ⊢
    rw [(Course.accounted h).removedGroups, map_fst_groupReplies]
    exact Course.answered_of_result_eq_ok h
  | true =>
    -- A dry run asks for one document and lists nothing.
    rcases hanswer : respond .capabilities state with ⟨fault | document, next⟩
    . rw [Course.run_of_dryRun_of_unanswered hdry hanswer] at h
      contradiction
    . rw [Course.run_of_dryRun_of_answered hdry hanswer] at h ⊢
      rw [← Except.ok.inj h]
      rfl

/-- Whoever answers, the summary of a cleanup that succeeds lists the groups whose deletion was
answered, so it is truthful exactly if the server agreed to every such deletion. -/
theorem Cleanup.run_truthful_iff
    (h : ((Cleanup.run policy).run respond state).1.result = .ok summary) :
    let calls := exchanges ((Cleanup.run policy).run respond state).1.entries
    summary.removedGroups = (groupReplies calls).map Prod.fst ∧
      (Truthful calls summary ↔ ∀ x ∈ groupReplies calls, Agreed x) := by
  have hlist := Cleanup.removedGroups_eq policy respond state h
  exact ⟨hlist, truthful_iff hlist⟩

end Run

open Script

theorem Cleanup.run_truthful_iff_heldLayer :
    ((Cleanup.run ⟨1, true, false⟩).run respond heldLayer).1.result =
        .ok ⟨1, [sampleLayer], [sampleGroup], none, true⟩ ∧
      Truthful (exchanges ((Cleanup.run ⟨1, true, false⟩).run respond heldLayer).1.entries)
        ⟨1, [sampleLayer], [sampleGroup], none, true⟩ := by
  have h : ((Cleanup.run ⟨1, true, false⟩).run respond heldLayer).1.result =
      .ok ⟨1, [sampleLayer], [sampleGroup], none, true⟩ := by
    decide +kernel
  refine ⟨h, ?_⟩
  rw [(Cleanup.run_truthful_iff _ respond heldLayer h).2]
  decide +kernel

/-- One bad layer, and a group that holds it until someone else takes it out. -/
def lockedGroup : Script :=
  { heldLayer with groupDeletes := [.ok ⟨500, "group is locked"⟩] }

/-- The only deletion of the group was refused, and yet summary and log call the group removed. -/
theorem Cleanup.not_truthful_of_lockedGroup :
    ((Cleanup.run ⟨1, true, false⟩).run respond lockedGroup).1.result =
        .ok ⟨1, [sampleLayer], [sampleGroup], none, true⟩ ∧
      groupReplies (exchanges ((Cleanup.run ⟨1, true, false⟩).run respond lockedGroup).1.entries) =
        [(sampleGroup, ⟨500, "group is locked"⟩)] ∧
      .note (.log (.cleanupFinished 1 1)) ∈
        ((Cleanup.run ⟨1, true, false⟩).run respond lockedGroup).1.entries ∧
      ¬Truthful (exchanges ((Cleanup.run ⟨1, true, false⟩).run respond lockedGroup).1.entries)
        ⟨1, [sampleLayer], [sampleGroup], none, true⟩ := by
  have hreplies :
      groupReplies (exchanges ((Cleanup.run ⟨1, true, false⟩).run respond lockedGroup).1.entries) =
        [(sampleGroup, ⟨500, "group is locked"⟩)] := by
    decide +kernel
  refine ⟨by decide +kernel, hreplies, by decide +kernel, ?_⟩
  intro htruthful
  rcases htruthful.removed sampleGroup (by simp) with ⟨reply, hreply, hagreed⟩
  rw [hreplies, List.mem_singleton] at hreply
  rw [hreply] at hagreed
  exact hagreed rfl

end LayerCull
