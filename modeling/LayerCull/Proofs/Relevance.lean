import LayerCull.Proofs.Course.Admits
import LayerCull.Proofs.Lockstep

/-!
This module contains the proof that a cleanup looks at the relevant parts of an answer only. `Agree`
says which answers agree in these parts, and `run_sameConduct` states that servers whose answers agree
see the same cleanup.
-/

namespace LayerCull

open Dialogue

/-- No layer deletion was tried since the last capabilities call. -/
def FirstTry (before : List Call) : Prop :=
  ∀ call ∈ before.reverse.takeWhile (· != .capabilities), ∀ layer, call ≠ .deleteLayer layer

/-- The responses to the call, which comes after the calls `before`, agree in what is relevant. -/
inductive Alike (before : List Call) : Call → Response → Response → Prop where
  | same (call : Call) (reply : Response) : Alike before call reply reply
  | document {document document' : Response}
    (layer : badLayer? document'.body = badLayer? document.body) :
    Alike before .capabilities document document'
  | layerDeletion {reply reply' : Response} (layer : LayerId)
    (status : reply'.status = reply.status) (accepted : reply.status ≠ 500) :
    Alike before (.deleteLayer layer) reply reply'
  | groupDeletion {reply reply' : Response} (group : LayerId)
    (status : reply'.status = reply.status) (accepted : reply.status ≠ 500) :
    Alike before (.deleteGroup group) reply reply'
  | refusal {reply reply' : Response} (layer group : LayerId) (first : FirstTry before)
    (status : reply'.status = reply.status) (refused : reply.status = 500)
    (named : holdingGroup? reply.body = some group)
    (named' : holdingGroup? reply'.body = some group) :
    Alike before (.deleteLayer layer) reply reply'
  | lookup {found found' : Response} (layer : LayerId) (status : found'.status = found.status)
    (read : found.status = 404 ∨ 200 ≤ found.status ∧ found.status < 300) :
    Alike before (.lookup layer) found found'

/-- The answers are the same fault, or responses that agree in what is relevant. -/
inductive Agree (before : List Call) (call : Call) : Answer → Answer → Prop where
  | fault (fault : Fault) : Agree before call (.error fault) (.error fault)
  | response {reply reply' : Response} (h : Alike before call reply reply') :
    Agree before call (.ok reply) (.ok reply')

namespace Cleanup

variable {α : Type} {before : List Call}

theorem isInternalError_of_accepted {reply reply' : Response}
    (status : reply'.status = reply.status) (accepted : reply.status ≠ 500) :
    reply.isInternalError = false ∧ reply'.isInternalError = false := by
  simp [Response.isInternalError, status, accepted]

theorem consult_lockstep {question : Call} {f g : Response → Dialogue Call Answer α}
    (h : ∀ reply reply', Alike before question reply reply' →
      Lockstep Agree (before ++ [question]) (f reply) (g reply')) :
    Lockstep Agree before ((consult question).bind f) ((consult question).bind g) := by
  apply Lockstep.ask question
  intro answer answer' hagree
  cases hagree with
  | fault fault => exact .fail _ _
  | response hreply => exact h _ _ hreply

theorem probe_lockstep (before : List Call) : Lockstep Agree before probe probe := by
  apply consult_lockstep
  intro document document' h
  have hlayer : badLayer? document'.body = badLayer? document.body := by
    cases h with
    | same => rfl
    | document layer => exact layer
  simp only [bind_eq, log_bind, pure_eq_done, hlayer]
  exact .log _ _ (.log _ _ (.done _ _))

theorem abortDeletion_lockstep (before : List Call) (failure : Failure) (body : String) :
    Lockstep Agree before (abortDeletion failure body) (abortDeletion failure body) :=
  .note _ (.note _ (.fail _ _))

/-- A refusal of the second attempt is read as a whole. -/
theorem retryLayer_lockstep (hretry : ¬FirstTry before) (layer group : LayerId)
    (groupStatus : Nat) :
    Lockstep Agree before (Course.retryLayer layer group groupStatus)
      (Course.retryLayer layer group groupStatus) := by
  apply consult_lockstep
  intro reply reply' h
  cases h with
  | same =>
    apply Lockstep.note
    cases reply.isInternalError with
    | true => exact .log _ _ (abortDeletion_lockstep _ _ _)
    | false => exact .done _ _
  | layerDeletion _ status accepted =>
    rcases isInternalError_of_accepted status accepted with ⟨hreply, hreply'⟩
    simp only [bind_eq, report_bind, hreply, hreply', status]
    exact .note _ (.done _ _)
  | refusal _ _ first => exact absurd first hretry

theorem not_firstTry (before : List Call) (layer group : LayerId) :
    ¬FirstTry (before ++ [.deleteLayer layer] ++ [.deleteGroup group]) := by
  intro h
  apply h (.deleteLayer layer) _ layer rfl
  simp

theorem removeAfterGroup_lockstep (before : List Call) (layer group : LayerId) :
    Lockstep Agree (before ++ [.deleteLayer layer]) (removeAfterGroup layer group)
      (removeAfterGroup layer group) := by
  have hretry := retryLayer_lockstep (not_firstTry before layer group) layer group
  rw [Course.removeAfterGroup_eq]
  apply Lockstep.log
  apply consult_lockstep
  intro reply reply' h
  cases h with
  | same =>
    apply Lockstep.note
    cases reply.isInternalError with
    | true => exact .log _ _ (.note _ (hretry _))
    | false => exact hretry _
  | groupDeletion _ status accepted =>
    rcases isInternalError_of_accepted status accepted with ⟨hreply, hreply'⟩
    simp only [bind_eq, report_bind, hreply, hreply', status]
    exact .note _ (hretry _)

theorem judgeAttempt_lockstep {layer : LayerId} {reply reply' : Response}
    (h : Alike before (.deleteLayer layer) reply reply') :
    Lockstep Agree (before ++ [.deleteLayer layer]) (Course.judgeAttempt layer reply)
      (Course.judgeAttempt layer reply') := by
  cases h with
  | same =>
    unfold Course.judgeAttempt
    cases reply.isInternalError with
    | false => exact .done _ _
    | true =>
      cases isGroupReferenceError reply.body with
      | false => exact .log _ _ (abortDeletion_lockstep _ _ _)
      | true =>
        cases holdingGroup? reply.body with
        | none => exact .log _ _ (abortDeletion_lockstep _ _ _)
        | some group => exact removeAfterGroup_lockstep before layer group
  | layerDeletion _ status accepted =>
    rcases isInternalError_of_accepted status accepted with ⟨hreply, hreply'⟩
    simp only [Course.judgeAttempt, hreply, hreply', status]
    exact .done _ _
  | refusal _ group _ status refused named named' =>
    have hrefused := Response.isInternalError_iff.2 refused
    have hrefused' := Response.isInternalError_iff.2 (status.trans refused)
    rw [Course.judgeAttempt_of_refusal layer ⟨reply, group, hrefused, named⟩,
      Course.judgeAttempt_of_refusal layer ⟨reply', group, hrefused', named'⟩]
    exact removeAfterGroup_lockstep before layer group

theorem removeLayer_lockstep (before : List Call) (layer : LayerId) :
    Lockstep Agree before (removeLayer layer) (removeLayer layer) := by
  rw [Course.removeLayer_eq]
  apply consult_lockstep
  intro reply reply' h
  have hstatus : reply'.status = reply.status := by
    cases h with
    | same => rfl
    | layerDeletion _ status => exact status
    | refusal _ _ _ status => exact status
  simp only [bind_eq, report_bind, hstatus]
  exact .note _ (judgeAttempt_lockstep h)

theorem confirmGone_lockstep (before : List Call) (layer : LayerId) :
    Lockstep Agree before (confirmGone layer) (confirmGone layer) := by
  apply consult_lockstep
  intro found found' h
  cases h with
  | same =>
    cases found.isNotFound with
    | true => exact .note _ (.done _ _)
    | false =>
      cases found.isSuccess with
      | true => exact .log _ _ (.fail _ _)
      | false => exact .log _ _ (.note _ (.fail _ _))
  | lookup _ status read =>
    have hgone : found'.isNotFound = found.isNotFound := by
      rw [Response.isNotFound, Response.isNotFound, status]
    have hthere : found'.isSuccess = found.isSuccess := by
      rw [Response.isSuccess, Response.isSuccess, status]
    have hread : found.isNotFound = false → found.isSuccess = true := by
      simp only [Response.isNotFound, Response.isSuccess, beq_eq_false_iff_ne, Bool.and_eq_true,
        decide_eq_true_eq]
      omega
    simp only [bind_eq, report_bind, log_bind, hgone, hthere, status]
    cases hnot : found.isNotFound with
    | true => exact .note _ (.done _ _)
    | false =>
      rw [hread hnot]
      exact .log _ _ (.fail _ _)

theorem removeNext_lockstep (policy : Policy) (before : List Call) (layer : LayerId)
    (summary : Summary) :
    Lockstep Agree before (removeNext policy layer summary) (removeNext policy layer summary) := by
  rw [Course.removeNext_eq]
  apply Lockstep.log
  apply (removeLayer_lockstep before layer).bind
  intro before removal
  cases policy.verifyDeletion with
  | true => exact (confirmGone_lockstep before layer).bind fun _ _ => .done _ _
  | false => exact .done _ _

theorem cull_lockstep (policy : Policy) (budget : Nat) (before : List Call) (summary : Summary) :
    Lockstep Agree before (cull policy budget summary) (cull policy budget summary) := by
  induction budget generalizing before summary with
  | zero =>
    unfold cull
    apply (probe_lockstep before).bind
    intro before layer
    cases layer with
    | none => exact .note _ (.log _ _ (.done _ _))
    | some layer => exact .log _ _ (.fail _ _)
  | succ budget ih =>
    unfold cull
    apply (probe_lockstep before).bind
    intro before layer
    cases layer with
    | none => exact .note _ (.log _ _ (.done _ _))
    | some layer => exact (removeNext_lockstep policy before layer summary).bind ih

theorem run_lockstep (policy : Policy) (before : List Call) :
    Lockstep Agree before (run policy) (run policy) := by
  cases hdry : policy.dryRun with
  | true =>
    rw [Course.run_eq_of_dryRun hdry]
    apply Lockstep.note
    apply Lockstep.log
    apply (probe_lockstep before).bind
    intro before layer
    exact .note _ (.done _ _)
  | false =>
    rw [Course.run_eq hdry]
    apply Lockstep.note
    apply Lockstep.log
    exact cull_lockstep policy policy.maxIterations before {}

/-- Servers whose answers agree in what is relevant see the same cleanup, whatever the policy. -/
theorem run_sameConduct (policy : Policy) {σ τ : Type} {respond : Counterpart Call Answer σ}
    {respond' : Counterpart Call Answer τ} {state : σ} {state' : τ}
    (h : ∀ before call, Agree before call (respond call (after respond before state)).1
      (respond' call (after respond' before state')).1) :
    SameConduct ((run policy).run respond state).1 ((run policy).run respond' state').1 :=
  (run_lockstep policy []).conduct h

end Cleanup

namespace Script

/-- A server that remembers the calls. It reports one layer once, refuses to delete a layer right
after a report, and puts a remark into every answer. -/
def remembering (status : Nat) (remark : String) : Counterpart Call Answer (List Call) :=
  fun call before => (answer call before, before ++ [call])
where
  answer : Call → List Call → Answer
    | .capabilities, before =>
      if before = [] then
        .ok ⟨status, Marker.metadataFailure.saying sampleLayer ++ remark⟩
      else
        .ok ⟨status, remark⟩
    | .deleteLayer _, before =>
      if before.getLast? = some .capabilities then
        .ok ⟨500, Marker.groupReference.saying sampleGroup ++ remark⟩
      else
        .ok ⟨200, remark⟩
    | .deleteGroup _, _ => .ok ⟨200, remark⟩
    | .lookup _, _ => .ok ⟨404, remark⟩

theorem after_remembering (status : Nat) (remark : String) (before later : List Call) :
    after (remembering status remark) later before = before ++ later := by
  induction later generalizing before with
  | nil => exact (List.append_nil before).symm
  | cons call later ih =>
    rw [after, List.foldl_cons, ← after, ih, remembering, List.append_assoc]
    rfl

theorem firstTry_of_getLast? {before : List Call} (h : before.getLast? = some .capabilities) :
    FirstTry before := by
  rcases List.getLast?_eq_some_iff.1 h with ⟨earlier, rfl⟩
  intro call hcall
  rw [List.reverse_append] at hcall
  contradiction

end Script

open Script in
theorem Cleanup.run_sameConduct_remembering :
    (∀ before call, Agree before call
      (remembering 200 "" call (after (remembering 200 "") before [])).1
      (remembering 503 "<!-- busy -->" call (after (remembering 503 "<!-- busy -->") before [])).1) ∧
    ((Cleanup.run ⟨1, true, false⟩).run (remembering 200 "") []).1.result =
      .ok ⟨1, [sampleLayer], [sampleGroup], none, true⟩ ∧
    SameConduct ((Cleanup.run ⟨1, true, false⟩).run (remembering 200 "") []).1
      ((Cleanup.run ⟨1, true, false⟩).run (remembering 503 "<!-- busy -->") []).1 := by
  have hagree : ∀ before call, Agree before call
      (remembering 200 "" call (after (remembering 200 "") before [])).1
      (remembering 503 "<!-- busy -->" call
        (after (remembering 503 "<!-- busy -->") before [])).1 := by
    intro before call
    rw [after_remembering, after_remembering, List.nil_append, remembering, remembering]
    cases call with
    | capabilities =>
      dsimp only [remembering.answer]
      split <;> exact .response (.document (by decide +kernel))
    | deleteLayer layer =>
      dsimp only [remembering.answer]
      split
      . next hlast =>
        exact .response (.refusal layer sampleGroup (firstTry_of_getLast? hlast) rfl rfl
          (by decide +kernel) (by decide +kernel))
      . exact .response (.layerDeletion layer rfl (by decide))
    | deleteGroup group => exact .response (.groupDeletion group rfl (by decide))
    | lookup layer => exact .response (.lookup layer rfl (.inl rfl))
  exact ⟨hagree, by decide +kernel, Cleanup.run_sameConduct ⟨1, true, false⟩ hagree⟩

end LayerCull
