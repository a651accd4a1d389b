import LayerCull.Proofs.Course.Basic

/-!
This module contains the proof that the transcripts of a cleanup are those of its courses, part by
part: the probe, the deletion, the look-up, one round, and the rounds in their order.
-/

namespace LayerCull

open Dialogue

namespace Course

variable {entries : Entries}

theorem probe_admits {result : Except Failure (Option LayerId)} :
    Cleanup.probe.Admits entries result ↔
      (∃ fault, entries = [.exchange .capabilities (.error fault)] ∧
        result = .error (.transport fault)) ∨
      ∃ document, entries = probeEntries document ∧ result = .ok (badLayer? document.body) := by
  unfold Cleanup.probe
  simp only [bind_eq, pure_eq_done, admits_consult_bind, log_bind, admits_note, admits_done]
  constructor
  . rintro (⟨fault, rfl, rfl⟩ | ⟨document, _, rfl, _, rfl, _, rfl, rfl, rfl⟩)
    . exact .inl ⟨fault, rfl, rfl⟩
    . exact .inr ⟨document, rfl, rfl⟩
  . rintro (⟨fault, rfl, rfl⟩ | ⟨document, rfl, rfl⟩)
    . exact .inl ⟨fault, rfl, rfl⟩
    . exact .inr ⟨document, _, rfl, _, rfl, _, rfl, rfl, rfl⟩

theorem abortDeletion_admits {failure : Failure} {body : String}
    {result : Except Failure Removal} :
    (abortDeletion failure body).Admits entries result ↔
      entries = abortEntries body ∧ result = .error failure := by
  unfold abortDeletion abortEntries
  simp only [bind_eq, report_bind, admits_note, admits_fail]
  constructor
  . rintro ⟨_, rfl, _, rfl, rfl, rfl⟩
    exact ⟨rfl, rfl⟩
  . rintro ⟨rfl, rfl⟩
    exact ⟨_, rfl, _, rfl, rfl, rfl⟩

def retryLayer (layer group : LayerId) (groupStatus : Nat) : Dialogue Call Answer Removal := do
  let answer ← .consult (.deleteLayer layer)
  .report (.deleteRetried layer answer.status)
  if answer.isInternalError then
    .log (.retryFailed layer answer.status)
    abortDeletion (.deletionFailed layer.text answer.status answer.body) answer.body
  else
    return .afterGroup group groupStatus answer.status

theorem removeAfterGroup_eq (layer group : LayerId) : removeAfterGroup layer group = (do
    .log (.groupHoldsLayer layer group)
    let groupAnswer ← .consult (.deleteGroup group)
    .report (.groupDeleted group groupAnswer.status)
    if groupAnswer.isInternalError then
      .log (.groupDeletionFailed group groupAnswer.status)
      .report (.serverErrorBody groupAnswer.body)
    retryLayer layer group groupAnswer.status) :=
  rfl

theorem retryLayer_admits {layer group : LayerId} {groupStatus : Nat}
    {result : Except Failure Removal} :
    (retryLayer layer group groupStatus).Admits entries result ↔
      (∃ fault, entries = [.exchange (.deleteLayer layer) (.error fault)] ∧
        result = .error (.transport fault)) ∨
      ∃ retry,
        (retry.isInternalError = true ∧
          entries = retryEntries layer retry ++
            .note (.log (.retryFailed layer retry.status)) :: abortEntries retry.body ∧
          result = .error (.deletionFailed layer.text retry.status retry.body)) ∨
        (retry.isInternalError = false ∧ entries = retryEntries layer retry ∧
          result = .ok (.afterGroup group groupStatus retry.status)) := by
  unfold retryLayer
  simp only [bind_eq, pure_eq_done, report_bind, log_bind, admits_consult_bind, admits_note]
  constructor
  . rintro (⟨fault, rfl, rfl⟩ | ⟨retry, _, rfl, _, rfl, h⟩)
    . exact .inl ⟨fault, rfl, rfl⟩
    . right
      cases hr : retry.isInternalError with
      | false =>
        rw [hr] at h
        rcases h with ⟨rfl, rfl⟩
        exact ⟨retry, .inr ⟨hr, rfl, rfl⟩⟩
      | true =>
        rw [hr, if_pos rfl, admits_note] at h
        rcases h with ⟨_, rfl, h⟩
        rw [abortDeletion_admits] at h
        rcases h with ⟨rfl, rfl⟩
        exact ⟨retry, .inl ⟨hr, rfl, rfl⟩⟩
  . rintro (⟨fault, rfl, rfl⟩ | ⟨retry, ⟨hr, rfl, rfl⟩ | ⟨hr, rfl, rfl⟩⟩)
    . exact .inl ⟨fault, rfl, rfl⟩
    all_goals
      refine .inr ⟨retry, _, rfl, _, rfl, ?_⟩
      rw [hr]
    . exact ⟨_, rfl, abortDeletion_admits.2 ⟨rfl, rfl⟩⟩
    . exact ⟨rfl, rfl⟩

theorem removeAfterGroup_admits {layer group : LayerId} {result : Except Failure Removal} :
    (removeAfterGroup layer group).Admits entries result ↔
      ∃ later, entries = .note (.log (.groupHoldsLayer layer group)) :: later ∧
        ((∃ fault, later = [.exchange (.deleteGroup group) (.error fault)] ∧
            result = .error (.transport fault)) ∨
          ∃ groupReply rest, later = groupEntries group groupReply ++ rest ∧
            (retryLayer layer group groupReply.status).Admits rest result) := by
  rw [removeAfterGroup_eq]
  simp only [bind_eq, log_bind, report_bind, admits_note, admits_consult_bind, groupEntries]
  apply exists_congr
  intro later
  apply and_congr_right
  rintro rfl
  apply or_congr_right
  apply exists_congr
  intro groupReply
  -- The group's answer decides which notes are made, and nothing else.
  cases groupReply.isInternalError with
  | false =>
    constructor
    . rintro ⟨_, rfl, _, rfl, h⟩
      exact ⟨_, rfl, h⟩
    . rintro ⟨_, rfl, h⟩
      exact ⟨_, rfl, _, rfl, h⟩
  | true =>
    constructor
    . rintro ⟨_, rfl, _, rfl, _, rfl, _, rfl, h⟩
      exact ⟨_, rfl, h⟩
    . rintro ⟨_, rfl, h⟩
      exact ⟨_, rfl, _, rfl, _, rfl, _, rfl, h⟩

theorem marked_of_holdingGroup? {body : String} {group : LayerId}
    (h : holdingGroup? body = some group) : isGroupReferenceError body = true := by
  unfold holdingGroup? Marker.subject? at h
  split at h
  . assumption
  . contradiction

def judgeAttempt (layer : LayerId) (answer : Response) : Dialogue Call Answer Removal := do
  if !answer.isInternalError then
    return .direct answer.status
  else if !isGroupReferenceError answer.body then
    .log (.deletionFailed layer answer.status)
    abortDeletion (.deletionFailed layer.text answer.status answer.body) answer.body
  else
    match holdingGroup? answer.body with
    | none =>
      .log (.groupUnidentified layer)
      abortDeletion (.unidentifiedGroup layer.text answer.body) answer.body
    | some group => removeAfterGroup layer group

theorem removeLayer_eq (layer : LayerId) : removeLayer layer = (do
    let answer ← .consult (.deleteLayer layer)
    .report (.deleteAttempted layer answer.status)
    judgeAttempt layer answer) :=
  rfl

theorem removeLayer_admits_iff_judgeAttempt {layer : LayerId} {result : Except Failure Removal} :
    (removeLayer layer).Admits entries result ↔
      (∃ fault, entries = [.exchange (.deleteLayer layer) (.error fault)] ∧
        result = .error (.transport fault)) ∨
      ∃ reply later, entries = attemptEntries layer reply ++ later ∧
        (judgeAttempt layer reply).Admits later result := by
  rw [removeLayer_eq]
  simp only [bind_eq, admits_consult_bind, report_bind, admits_note]
  constructor
  . rintro (⟨fault, rfl, rfl⟩ | ⟨reply, _, rfl, later, rfl, h⟩)
    . exact .inl ⟨fault, rfl, rfl⟩
    . exact .inr ⟨reply, later, rfl, h⟩
  . rintro (⟨fault, rfl, rfl⟩ | ⟨reply, later, rfl, h⟩)
    . exact .inl ⟨fault, rfl, rfl⟩
    . exact .inr ⟨reply, _, rfl, later, rfl, h⟩

theorem judgeAttempt_of_refusal (layer : LayerId) (refusal : Refusal) :
    judgeAttempt layer refusal.reply = removeAfterGroup layer refusal.group := by
  unfold judgeAttempt
  rw [refusal.refused, marked_of_holdingGroup? refusal.named, refusal.named]
  rfl

theorem course_of_removeAfterGroup {layer : LayerId} {refusal : Refusal}
    {result : Except Failure Removal}
    (h : (removeAfterGroup layer refusal.group).Admits entries result) :
    (∃ deletion : Deletion, attemptEntries layer refusal.reply ++ entries = deletion.entries layer ∧
      result = .ok deletion.removal) ∨
      ∃ failed : Failed, attemptEntries layer refusal.reply ++ entries = failed.entries layer ∧
        result = .error (failed.failure layer) := by
  rw [removeAfterGroup_admits] at h
  rcases h with ⟨_, rfl, ⟨fault, rfl, rfl⟩ | ⟨groupReply, _, rfl, h⟩⟩
  . exact .inr ⟨.groupUnanswered refusal fault, rfl, rfl⟩
  . rw [retryLayer_admits] at h
    rcases h with ⟨fault, rfl, rfl⟩ | ⟨retry, ⟨refused, rfl, rfl⟩ | ⟨accepted, rfl, rfl⟩⟩
    . exact .inr ⟨.retryUnanswered refusal groupReply fault, rfl, rfl⟩
    . exact .inr ⟨.retryRefused refusal groupReply retry refused, rfl, rfl⟩
    . exact .inl ⟨.afterGroup refusal groupReply retry accepted, rfl, rfl⟩

theorem course_of_removeLayer {layer : LayerId} {result : Except Failure Removal}
    (h : (removeLayer layer).Admits entries result) :
    (∃ deletion : Deletion, entries = deletion.entries layer ∧ result = .ok deletion.removal) ∨
      ∃ failed : Failed, entries = failed.entries layer ∧
        result = .error (failed.failure layer) := by
  rw [removeLayer_admits_iff_judgeAttempt] at h
  rcases h with ⟨fault, rfl, rfl⟩ | ⟨reply, later, rfl, h⟩
  . exact .inr ⟨.unanswered fault, rfl, rfl⟩
  . unfold judgeAttempt at h
    cases refused : reply.isInternalError with
    | false =>
      rw [refused] at h
      rcases h with ⟨rfl, rfl⟩
      exact .inl ⟨.direct reply refused, rfl, rfl⟩
    | true =>
      cases marked : isGroupReferenceError reply.body with
      | false =>
        rw [refused, marked] at h
        rcases h with ⟨_, rfl, h⟩
        rcases abortDeletion_admits.1 h with ⟨rfl, rfl⟩
        exact .inr ⟨.unmarked reply refused marked, rfl, rfl⟩
      | true =>
        cases named : holdingGroup? reply.body with
        | none =>
          rw [refused, marked, named] at h
          rcases h with ⟨_, rfl, h⟩
          rcases abortDeletion_admits.1 h with ⟨rfl, rfl⟩
          exact .inr ⟨.unidentified reply refused marked named, rfl, rfl⟩
        | some group =>
          rw [refused, marked, named] at h
          exact @course_of_removeAfterGroup _ layer ⟨reply, group, refused, named⟩ _ h

theorem removeLayer_admits_deletion (layer : LayerId) (deletion : Deletion) :
    (removeLayer layer).Admits (deletion.entries layer) (.ok deletion.removal) := by
  apply removeLayer_admits_iff_judgeAttempt.2
  cases deletion with
  | direct reply accepted =>
    refine .inr ⟨reply, [], rfl, ?_⟩
    unfold judgeAttempt
    rw [accepted]
    exact ⟨rfl, rfl⟩
  | afterGroup refusal groupReply retry accepted =>
    refine .inr ⟨refusal.reply, _, rfl, ?_⟩
    rw [judgeAttempt_of_refusal]
    apply removeAfterGroup_admits.2
    refine ⟨_, rfl, .inr ⟨groupReply, _, rfl, ?_⟩⟩
    apply retryLayer_admits.2
    exact .inr ⟨retry, .inr ⟨accepted, rfl, rfl⟩⟩

theorem removeLayer_admits_failed (layer : LayerId) (failed : Failed) :
    (removeLayer layer).Admits (failed.entries layer) (.error (failed.failure layer)) := by
  apply removeLayer_admits_iff_judgeAttempt.2
  cases failed with
  | unanswered fault => exact .inl ⟨fault, rfl, rfl⟩
  | unmarked reply refused unmarked =>
    refine .inr ⟨reply, _, rfl, ?_⟩
    unfold judgeAttempt
    rw [refused, unmarked]
    exact ⟨_, rfl, abortDeletion_admits.2 ⟨rfl, rfl⟩⟩
  | unidentified reply refused marked unnamed =>
    refine .inr ⟨reply, _, rfl, ?_⟩
    unfold judgeAttempt
    rw [refused, marked, unnamed]
    exact ⟨_, rfl, abortDeletion_admits.2 ⟨rfl, rfl⟩⟩
  | groupUnanswered refusal fault =>
    refine .inr ⟨refusal.reply, _, rfl, ?_⟩
    rw [judgeAttempt_of_refusal]
    exact removeAfterGroup_admits.2 ⟨_, rfl, .inl ⟨fault, rfl, rfl⟩⟩
  | retryUnanswered refusal groupReply fault =>
    refine .inr ⟨refusal.reply, _, rfl, ?_⟩
    rw [judgeAttempt_of_refusal]
    apply removeAfterGroup_admits.2
    refine ⟨_, rfl, .inr ⟨groupReply, _, rfl, ?_⟩⟩
    exact retryLayer_admits.2 (.inl ⟨fault, rfl, rfl⟩)
  | retryRefused refusal groupReply retry refused =>
    refine .inr ⟨refusal.reply, _, rfl, ?_⟩
    rw [judgeAttempt_of_refusal]
    apply removeAfterGroup_admits.2
    refine ⟨_, rfl, .inr ⟨groupReply, _, rfl, ?_⟩⟩
    exact retryLayer_admits.2 (.inr ⟨retry, .inl ⟨refused, rfl, rfl⟩⟩)

theorem confirmGone_admits {layer : LayerId} {result : Except Failure Unit} :
    (confirmGone layer).Admits entries result ↔
      (∃ found, found.isNotFound = true ∧ entries = confirmEntries layer found ∧ result = .ok ()) ∨
        ∃ doubt : Doubt, entries = doubt.entries layer ∧ result = .error (doubt.failure layer) := by
  unfold confirmGone
  simp only [bind_eq, admits_consult_bind]
  constructor
  . rintro (⟨fault, rfl, rfl⟩ | ⟨found, _, rfl, h⟩)
    . exact .inr ⟨.unanswered fault, rfl, rfl⟩
    . cases there : found.isNotFound with
      | true =>
        rw [there] at h
        rcases h with ⟨_, rfl, rfl, rfl⟩
        exact .inl ⟨found, there, rfl, rfl⟩
      | false =>
        cases success : found.isSuccess with
        | true =>
          rw [there, success] at h
          rcases h with ⟨_, rfl, rfl, rfl⟩
          exact .inr ⟨.present found there success, rfl, rfl⟩
        | false =>
          rw [there, success] at h
          rcases h with ⟨_, rfl, _, rfl, rfl, rfl⟩
          exact .inr ⟨.unclear found there success, rfl, rfl⟩
  . rintro (⟨found, gone, rfl, rfl⟩ | ⟨doubt, rfl, rfl⟩)
    . refine .inr ⟨found, _, rfl, ?_⟩
      rw [gone]
      exact ⟨_, rfl, rfl, rfl⟩
    . cases doubt with
      | unanswered fault => exact .inl ⟨fault, rfl, rfl⟩
      | present found there success =>
        refine .inr ⟨found, _, rfl, ?_⟩
        rw [there, success]
        exact ⟨_, rfl, rfl, rfl⟩
      | unclear found there failure =>
        refine .inr ⟨found, _, rfl, ?_⟩
        rw [there, failure]
        exact ⟨_, rfl, _, rfl, rfl, rfl⟩

variable {policy : Policy}

theorem removeNext_eq (policy : Policy) (layer : LayerId) (summary : Summary) :
    Cleanup.removeNext policy layer summary =
      .note (.log (.iterationStarted (summary.iterations + 1) layer))
        ((removeLayer layer).bind fun removal =>
          if policy.verifyDeletion then
            (confirmGone layer).bind fun _ =>
              .done ({ summary with iterations := summary.iterations + 1 }.record layer removal)
          else
            .done ({ summary with iterations := summary.iterations + 1 }.record layer removal)) :=
  rfl

theorem course_of_removeNext {report : Report} {summary : Summary}
    {result : Except Failure Summary}
    (h : (Cleanup.removeNext policy report.layer summary).Admits entries result) :
    (∃ c : Culling policy, result = .ok (c.enter summary) ∧
      probeEntries report.document ++ entries = c.entries (summary.iterations + 1)) ∨
    ∃ (ending : Ending) (failure : Failure), result = .error failure ∧
      ending.result policy summary = .error failure ∧
      probeEntries report.document ++ entries = ending.entries summary ∧
      (summary.iterations < policy.maxIterations → ending.Fits policy summary.iterations) := by
  rw [removeNext_eq] at h
  rcases h with ⟨_, rfl, h⟩
  rcases cases_of_admits_bind h with ⟨failure, rfl, hr⟩ | ⟨_, removal, later, rfl, hr, hrest⟩
  . rcases course_of_removeLayer hr with ⟨_, _, hok⟩ | ⟨failed, rfl, hf⟩
    . contradiction
    . cases hf
      exact .inr ⟨.undeleted report failed, _, rfl, rfl, rfl, id⟩
  . rcases course_of_removeLayer hr with ⟨deletion, rfl, hok⟩ | ⟨_, _, hf⟩
    . cases hok
      cases verify : policy.verifyDeletion with
      | false =>
        rw [verify] at hrest
        rcases hrest with ⟨rfl, rfl⟩
        exact .inl ⟨⟨report, deletion, none, verify.symm, by simp⟩, rfl, rfl⟩
      | true =>
        rw [verify, if_pos rfl] at hrest
        rcases cases_of_admits_bind hrest with ⟨failure, rfl, hc⟩ | ⟨_, _, _, rfl, hc, hdone⟩
        . rcases confirmGone_admits.1 hc with ⟨_, _, _, hok⟩ | ⟨doubt, rfl, hd⟩
          . contradiction
          . cases hd
            exact .inr ⟨.unconfirmed report deletion doubt, _, rfl, rfl, rfl,
              fun less => ⟨less, verify⟩⟩
        . rcases confirmGone_admits.1 hc with ⟨found, gone, rfl, _⟩ | ⟨_, _, hd⟩
          . rcases hdone with ⟨rfl, rfl⟩
            exact .inl ⟨⟨report, deletion, some found, verify.symm, by simp [gone]⟩, rfl,
              by simp [Culling.entries, Culling.layer]⟩
          . contradiction
    . contradiction

theorem removeNext_admits_culling (c : Culling policy) (summary : Summary) :
    ∃ later, c.entries (summary.iterations + 1) = probeEntries c.report.document ++ later ∧
      (Cleanup.removeNext policy c.layer summary).Admits later (.ok (c.enter summary)) := by
  refine ⟨_, rfl, ?_⟩
  rw [removeNext_eq]
  refine ⟨_, rfl, ?_⟩
  apply admits_bind_ok (removeLayer_admits_deletion c.layer c.deletion)
  have hasked := c.asked
  cases hc : c.confirmation with
  | none =>
    rw [hc] at hasked
    rw [← hasked]
    exact ⟨rfl, rfl⟩
  | some found =>
    rw [hc] at hasked
    rw [← hasked]
    have gone : found.isNotFound = true := by
      apply c.confirmed
      rw [hc]
      rfl
    have hconfirm : (confirmGone c.layer).Admits (confirmEntries c.layer found) (.ok ()) :=
      confirmGone_admits.2 (.inl ⟨found, gone, rfl, rfl⟩)
    exact admits_bind_ok hconfirm ⟨rfl, rfl⟩

-- The budget that is left is tested where the counter is compared with the limit.
theorem cull_eq {budget : Nat} {summary : Summary}
    (hcount : summary.iterations + budget = policy.maxIterations) :
    Cleanup.cull policy budget summary =
      Cleanup.probe.bind fun
        | none => Cleanup.finish summary
        | some layer =>
          if summary.iterations ≥ policy.maxIterations then
            .note (.log (.limitReached layer summary.iterations))
              (.fail (.iterationLimit policy.maxIterations))
          else
            (Cleanup.removeNext policy layer summary).bind (Cleanup.cull policy (budget - 1)) := by
  cases budget with
  | zero =>
    have hreached : summary.iterations ≥ policy.maxIterations := by omega
    rw [Cleanup.cull, bind_eq]
    congr
    funext found
    cases found with
    | none => rfl
    | some layer => exact (if_pos hreached).symm
  | succ budget =>
    have hbelow : ¬summary.iterations ≥ policy.maxIterations := by omega
    rw [Cleanup.cull, bind_eq]
    congr
    funext found
    cases found with
    | none => rfl
    | some layer => exact (if_neg hbelow).symm

theorem probe_bind_admits {α : Type} {f : Option LayerId → Dialogue Call Answer α}
    {result : Except Failure α} :
    (Cleanup.probe.bind f).Admits entries result ↔
      (∃ fault, entries = [.exchange .capabilities (.error fault)] ∧
        result = .error (.transport fault)) ∨
      ∃ document later, entries = probeEntries document ++ later ∧
        (f (badLayer? document.body)).Admits later result := by
  constructor
  . intro h
    rcases cases_of_admits_bind h with ⟨_, rfl, hp⟩ | ⟨_, _, later, rfl, hp, h⟩
    . rcases probe_admits.1 hp with ⟨fault, rfl, hf⟩ | ⟨_, _, hok⟩
      . cases hf
        exact .inl ⟨fault, rfl, rfl⟩
      . contradiction
    . rcases probe_admits.1 hp with ⟨_, _, hf⟩ | ⟨document, rfl, hok⟩
      . contradiction
      . cases hok
        exact .inr ⟨document, later, rfl, h⟩
  . rintro (⟨fault, rfl, rfl⟩ | ⟨document, later, rfl, h⟩)
    . exact admits_bind_error (probe_admits.2 (.inl ⟨fault, rfl, rfl⟩))
    . exact admits_bind_ok (probe_admits.2 (.inr ⟨document, rfl, rfl⟩)) h

theorem course_of_probe (policy : Policy) {summary : Summary} {result : Except Failure Summary}
    {f : Option LayerId → Dialogue Call Answer Summary} (hf : f none = Cleanup.finish summary)
    (h : (Cleanup.probe.bind f).Admits entries result) :
    (∃ ending : Ending, (∀ number ≤ policy.maxIterations, ending.Fits policy number) ∧
      entries = ending.entries summary ∧ result = ending.result policy summary) ∨
    ∃ (report : Report) (later : Entries), entries = probeEntries report.document ++ later ∧
      (f (some report.layer)).Admits later result := by
  rw [probe_bind_admits] at h
  rcases h with ⟨fault, rfl, rfl⟩ | ⟨document, later, rfl, h⟩
  . exact .inl ⟨.unanswered fault, fun _ => id, rfl, rfl⟩
  . cases named : badLayer? document.body with
    | none =>
      rw [named, hf] at h
      rcases h with ⟨_, rfl, _, rfl, rfl, rfl⟩
      exact .inl ⟨.clean document named, fun _ => id, rfl, rfl⟩
    | some layer =>
      rw [named] at h
      exact .inr ⟨⟨document, layer, named⟩, later, rfl, h⟩

-- The induction is on the budget; what stays is that rounds done and rounds left make the limit.
theorem course_of_cull {budget : Nat} {summary : Summary} {result : Except Failure Summary}
    (hcount : summary.iterations + budget = policy.maxIterations)
    (h : (Cleanup.cull policy budget summary).Admits entries result) :
    ∃ (cs : List (Culling policy)) (ending : Ending),
      ending.Fits policy (summary.iterations + cs.length) ∧
      entries = cullEntries cs summary ++ ending.entries (tally cs summary) ∧
      result = ending.result policy (tally cs summary) := by
  have hle : summary.iterations ≤ policy.maxIterations := by omega
  induction budget generalizing summary entries with
  | zero =>
    rw [cull_eq hcount] at h
    rcases course_of_probe policy rfl h with ⟨ending, hfits, rfl, rfl⟩ | ⟨report, _, rfl, hl⟩
    . exact ⟨[], ending, hfits _ hle, rfl, rfl⟩
    . have hreached : summary.iterations ≥ policy.maxIterations := by omega
      simp only [if_pos hreached] at hl
      rcases hl with ⟨_, rfl, rfl, rfl⟩
      exact ⟨[], .limit report, hcount, rfl, rfl⟩
  | succ budget ih =>
    rw [cull_eq hcount] at h
    rcases course_of_probe policy rfl h with ⟨ending, hfits, rfl, rfl⟩ | ⟨report, _, rfl, hl⟩
    . exact ⟨[], ending, hfits _ hle, rfl, rfl⟩
    . have hbelow : ¬summary.iterations ≥ policy.maxIterations := by omega
      simp only [if_neg hbelow, Nat.add_sub_cancel] at hl
      rcases cases_of_admits_bind hl with ⟨_, rfl, hn⟩ | ⟨_, _, later, rfl, hn, hrest⟩
      . rcases course_of_removeNext hn with ⟨_, hok, _⟩ | ⟨ending, _, hf, hr, he, hfits⟩
        . contradiction
        . rw [hf, ← hr]
          exact ⟨[], ending, hfits (by omega), he, rfl⟩
      . rcases course_of_removeNext hn with ⟨c, hok, hc⟩ | ⟨_, _, hf, _⟩
        . cases hok
          have hnext : (c.enter summary).iterations = summary.iterations + 1 := rfl
          rcases ih (by omega) hrest (by omega) with ⟨cs, ending, hfits, rfl, rfl⟩
          rw [hnext, Nat.add_right_comm] at hfits
          refine ⟨c :: cs, ending, hfits, ?_, rfl⟩
          rw [cullEntries, ← hc]
          simp only [List.append_assoc]
          rfl
        . contradiction

theorem cull_admits_ending {budget : Nat} {summary : Summary} {ending : Ending}
    (hcount : summary.iterations + budget = policy.maxIterations)
    (hfits : ending.Fits policy summary.iterations) :
    (Cleanup.cull policy budget summary).Admits (ending.entries summary)
      (ending.result policy summary) := by
  rw [cull_eq hcount, probe_bind_admits]
  cases ending with
  | unanswered fault => exact .inl ⟨fault, rfl, rfl⟩
  | clean document clean =>
    refine .inr ⟨document, _, rfl, ?_⟩
    rw [clean]
    exact ⟨_, rfl, _, rfl, rfl, rfl⟩
  | limit report =>
    refine .inr ⟨report.document, _, rfl, ?_⟩
    rw [report.named]
    simp only [if_pos (Nat.le_of_eq hfits.symm)]
    exact ⟨_, rfl, rfl, rfl⟩
  | undeleted report failed =>
    refine .inr ⟨report.document, _, rfl, ?_⟩
    rw [report.named]
    simp only [if_neg (Nat.not_le_of_lt hfits)]
    apply admits_bind_error
    rw [removeNext_eq]
    exact ⟨_, rfl, admits_bind_error (removeLayer_admits_failed report.layer failed)⟩
  | unconfirmed report deletion doubt =>
    refine .inr ⟨report.document, _, rfl, ?_⟩
    rw [report.named]
    simp only [if_neg (Nat.not_le_of_lt hfits.1)]
    apply admits_bind_error
    rw [removeNext_eq]
    refine ⟨_, rfl, admits_bind_ok (removeLayer_admits_deletion report.layer deletion) ?_⟩
    rw [hfits.2, if_pos rfl]
    exact admits_bind_error (confirmGone_admits.2 (.inr ⟨doubt, rfl, rfl⟩))

theorem cull_admits (cs : List (Culling policy)) {budget : Nat} {summary : Summary} {ending : Ending}
    (hcount : summary.iterations + budget = policy.maxIterations)
    (hfits : ending.Fits policy (summary.iterations + cs.length)) :
    (Cleanup.cull policy budget summary).Admits
      (cullEntries cs summary ++ ending.entries (tally cs summary))
      (ending.result policy (tally cs summary)) := by
  induction cs generalizing budget summary with
  | nil => exact cull_admits_ending hcount hfits
  | cons c cs ih =>
    have hle := hfits.le
    have hbelow : ¬summary.iterations ≥ policy.maxIterations := by
      rw [List.length_cons] at hle
      omega
    have hnext : (c.enter summary).iterations = summary.iterations + 1 := rfl
    rcases removeNext_admits_culling c summary with ⟨later, hc, hn⟩
    rw [cull_eq hcount, probe_bind_admits]
    refine .inr ⟨c.report.document, later ++ (cullEntries cs (c.enter summary) ++
      ending.entries (tally (c :: cs) summary)), ?_, ?_⟩
    . rw [cullEntries, hc]
      simp only [List.append_assoc]
    . rw [c.report.named]
      simp only [if_neg hbelow]
      apply admits_bind_ok hn
      apply ih
      . omega
      . rw [hnext, Nat.add_right_comm]
        exact hfits

theorem run_eq (hdry : policy.dryRun = false) :
    Cleanup.run policy =
      .note (.progress .started)
        (.note (.log (.cleanupStarted policy.maxIterations policy.verifyDeletion policy.dryRun))
          (Cleanup.cull policy policy.maxIterations {})) := by
  unfold Cleanup.run
  rw [hdry]
  rfl

theorem run_eq_of_dryRun (hdry : policy.dryRun = true) :
    Cleanup.run policy =
      .note (.progress .started)
        (.note (.log (.cleanupStarted policy.maxIterations policy.verifyDeletion policy.dryRun))
          (Cleanup.probe.bind fun layer =>
            .note (.progress (.candidate layer))
              (.done { pendingLayer := layer, finished := true }))) := by
  unfold Cleanup.run
  rw [hdry]
  rfl

/-- Every cleanup that is no dry run takes a course. -/
theorem run_course (hdry : policy.dryRun = false) {σ : Type} (respond : Counterpart Call Answer σ)
    (state : σ) :
    ∃ course : Course policy,
      ((Cleanup.run policy).run respond state).1 = ⟨course.entries, course.result⟩ := by
  have h := admits_run respond (Cleanup.run policy) state
  generalize ((Cleanup.run policy).run respond state).1 = transcript at h
  rcases transcript with ⟨entries, result⟩
  rw [run_eq hdry] at h
  rcases h with ⟨_, he, _, rfl, h⟩
  rcases course_of_cull (by simp) h with ⟨cs, ending, hfits, rfl, hr⟩
  refine ⟨⟨cs, ending, by simpa using hfits⟩, ?_⟩
  rw [Dialogue.Transcript.mk.injEq]
  refine ⟨he.trans ?_, hr⟩
  simp [Course.entries, Course.summary, startEntries]

/-- And every course is taken, if the answers are those of the course. -/
theorem run_admits (course : Course policy) (hdry : policy.dryRun = false) :
    (Cleanup.run policy).Admits course.entries course.result := by
  rw [run_eq hdry]
  refine ⟨_, rfl, _, rfl, ?_⟩
  apply cull_admits
  . exact Nat.zero_add _
  . rw [Nat.zero_add]
    exact course.fits

theorem run_eq_of_replies (course : Course policy) (hdry : policy.dryRun = false) {σ : Type}
    {respond : Counterpart Call Answer σ} {first last : σ}
    (h : Replies respond (course.rounds.flatMap Round.exchanges) first last) :
    (Cleanup.run policy).run respond first = (⟨course.entries, course.result⟩, last) := by
  apply run_eq_of_admits (course.run_admits hdry)
  rw [exchanges_entries]
  exact h

end Course

end LayerCull
