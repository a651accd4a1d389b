import LayerCull.Proofs.FailStop

/-!
This module contains the proof that the progress of a cleanup tells its exchanges and its result, and
nothing else: `Exchange.told` says what is told on an answer and `closing` what is told at the end,
and `run_narrated` states of every cleanup that is no dry run that just this is told, each part of it
before the next call.
-/

namespace LayerCull

open Dialogue

instance (before : List Exchange) : Decidable (FirstAttempt before) :=
  inferInstanceAs
    (Decidable (∀ x ∈ before.reverse.takeWhile (!·.isProbe), x.isLayerDeletion = false))

/-- What is told on the answer to a call that comes after the exchanges `before`. -/
def Exchange.told (before : List Exchange) : Exchange → List Progress
  | (_, .error _) | (.capabilities, .ok _) => []
  | (.deleteLayer layer, .ok reply) =>
    if FirstAttempt before then
      [.deleteAttempted layer reply.status]
    else
      [.deleteRetried layer reply.status]
  | (.deleteGroup group, .ok reply) =>
    .groupDeleted group reply.status ::
      if reply.status = 500 then [.serverErrorBody reply.body] else []
  | (.lookup layer, .ok found) => if found.status = 404 then [.verified layer] else []

/-- What is told when the cleanup is over. -/
def closing : Except Failure Summary → List Progress
  | .ok _ => [.finished]
  | .error (.deletionFailed _ _ body) | .error (.unidentifiedGroup _ body) =>
    [.serverErrorBody body, .deletionAborted]
  | .error (.unverified _ _ body) => [.serverErrorBody body]
  | .error _ => []

/-- Every exchange with the ones before it. -/
def placed : List Exchange → List Exchange → List (List Exchange × Exchange)
  | _, [] => []
  | before, x :: after => (before, x) :: placed (before ++ [x]) after

def notes (events : List Progress) : Entries :=
  events.map fun event => .note (.progress event)

/-- The exchanges, each followed by what is told on it. -/
def narrated (before calls : List Exchange) : Entries :=
  (placed before calls).flatMap fun (before, x) => .exchange x.1 x.2 :: notes (x.told before)

/-- The operator is told of the exchanges, of each one before the next, and then of the end. -/
structure Narrated (transcript : Transcript Call Answer Summary) : Prop where
  entries : withoutLog transcript.entries =
    notes [.started] ++ narrated [] (exchanges transcript.entries) ++
      notes (closing transcript.result)
  events : progress transcript.entries =
    [.started] ++
      ((placed [] (exchanges transcript.entries)).flatMap fun (before, x) => x.told before) ++
        closing transcript.result
  finished : .finished ∈ progress transcript.entries ↔ ∃ summary, transcript.result = .ok summary
  aborted : .deletionAborted ∈ progress transcript.entries ↔
    ∃ layer body, (∃ status, transcript.result = .error (.deletionFailed layer status body)) ∨
      transcript.result = .error (.unidentifiedGroup layer body)

section Placed

variable (before xs ys : List Exchange)

theorem placed_append : placed before (xs ++ ys) = placed before xs ++ placed (before ++ xs) ys := by
  induction xs generalizing before with
  | nil =>
    rw [List.append_nil]
    rfl
  | cons x xs ih => simp [placed, ih]

theorem narrated_append :
    narrated before (xs ++ ys) = narrated before xs ++ narrated (before ++ xs) ys := by
  rw [narrated, placed_append, List.flatMap_append]
  rfl

theorem narrated_singleton (x : Exchange) :
    narrated before [x] = .exchange x.1 x.2 :: notes (x.told before) :=
  List.append_nil _

theorem progress_notes (events : List Progress) : progress (notes events) = events := by
  rw [progress, notes, List.filterMap_map]
  exact List.filterMap_some

theorem progress_narrated :
    progress (narrated before xs) =
      (placed before xs).flatMap fun (before, x) => x.told before := by
  rw [narrated, progress, List.filterMap_flatMap]
  congr
  funext p
  exact progress_notes (p.2.told p.1)

end Placed

theorem ne_of_mem_told {before : List Exchange} {x : Exchange} {event : Progress}
    (h : event ∈ x.told before) : event ≠ .finished ∧ event ≠ .deletionAborted := by
  rcases x with ⟨call, fault | reply⟩
  . cases call <;> contradiction
  . cases call with
    | capabilities => contradiction
    | deleteLayer layer =>
      rw [Exchange.told] at h
      split at h <;> simp_all
    | deleteGroup group =>
      rcases List.mem_cons.1 h with rfl | h
      . simp
      . split at h <;> simp_all
    | lookup layer =>
      rw [Exchange.told] at h
      split at h <;> simp_all

theorem mem_closing_iff {result : Except Failure Summary} :
    (.finished ∈ closing result ↔ ∃ summary, result = .ok summary) ∧
      (.deletionAborted ∈ closing result ↔
        ∃ layer body, (∃ status, result = .error (.deletionFailed layer status body)) ∨
          result = .error (.unidentifiedGroup layer body)) := by
  rcases result with failure | summary
  . cases failure <;> simp [closing]
  . simp [closing]

/-- The entries tell of these exchanges, and of nothing else but, at last, the given events. -/
def Tells (before calls : List Exchange) (last : List Progress) (entries : Entries) : Prop :=
  withoutLog entries = narrated before calls ++ notes last

theorem Tells.append {before ys : List Exchange} (xs : List Exchange) {last : List Progress}
    {front back : Entries} (hfront : Tells before xs [] front)
    (hback : Tells (before ++ xs) ys last back) : Tells before (xs ++ ys) last (front ++ back) := by
  rw [Tells, withoutLog_append, narrated_append, hfront, hback]
  simp [notes]

theorem Tells.log {before calls : List Exchange} {last : List Progress} {entries : Entries}
    (event : Log.Event) (h : Tells before calls last entries) :
    Tells before calls last (.note (.log event) :: entries) :=
  h

theorem narrated_of_tells {entries : Entries} {result : Except Failure Summary}
    (h : Tells [] (exchanges entries) (closing result) entries) :
    Narrated ⟨.note (.progress .started) :: entries, result⟩ := by
  have hevents : progress (.note (.progress .started) :: entries) =
      [.started] ++ ((placed [] (exchanges entries)).flatMap fun (before, x) => x.told before) ++
        closing result := by
    rw [← progress_narrated, ← progress_notes (closing result), List.append_assoc, ← progress_append,
      ← h, progress_withoutLog]
    rfl
  -- The exchanges tell of no end, so that an end that is told is that of the closing.
  have hlast : ∀ event, event ≠ .started → (∀ before x, event ∉ Exchange.told before x) →
      (event ∈ progress (.note (.progress .started) :: entries) ↔ event ∈ closing result) := by
    intro event hstarted htold
    rw [hevents]
    simp [hstarted, htold]
  constructor
  case entries => exact congrArg (.note (.progress .started) :: ·) h
  case events => exact hevents
  case finished =>
    rw [hlast _ (by simp) fun before x hx => (ne_of_mem_told hx).1 rfl]
    exact mem_closing_iff.1
  case aborted =>
    rw [hlast _ (by simp) fun before x hx => (ne_of_mem_told hx).2 rfl]
    exact mem_closing_iff.2

namespace Course

variable {policy : Policy}

theorem probe_tells (before : List Exchange) (document : Response) :
    Tells before [(.capabilities, .ok document)] [] (probeEntries document) :=
  rfl

theorem group_tells (before : List Exchange) (group : LayerId) (reply : Response) :
    Tells before [(.deleteGroup group, .ok reply)] [] (groupEntries group reply) := by
  rw [Tells, narrated_singleton, Exchange.told, groupEntries]
  cases refused : reply.isInternalError with
  | false =>
    rw [if_neg (status_ne_of_accepted refused)]
    rfl
  | true =>
    rw [if_pos (status_eq_of_refused refused)]
    rfl

theorem confirm_tells (before : List Exchange) (layer : LayerId) {found : Response}
    (gone : found.isNotFound = true) :
    Tells before [(.lookup layer, .ok found)] [] (confirmEntries layer found) := by
  rw [Tells, narrated_singleton, Exchange.told, if_pos (status_eq_of_gone gone)]
  rfl

theorem Doubt.tells (before : List Exchange) (layer : LayerId) (doubt : Doubt) :
    Tells before [(.lookup layer, doubt.answer)] (closing (.error (doubt.failure layer)))
      (doubt.entries layer) := by
  cases doubt with
  | unanswered fault => rfl
  | present found there success | unclear found there unsuccessful =>
    rw [Tells, narrated_singleton, Doubt.answer, Exchange.told, if_neg (status_ne_of_there there)]
    rfl

section Round

variable (earlier : List Exchange) (document : Answer) (layer : LayerId)

theorem attempt_tells (reply : Response) :
    Tells (earlier ++ [(.capabilities, document)]) [(.deleteLayer layer, .ok reply)] []
      (attemptEntries layer reply) := by
  rw [Tells, narrated_singleton, Exchange.told, if_pos (firstAttempt_probe earlier document)]
  rfl

theorem refusal_tells (refusal : Refusal) :
    Tells (earlier ++ [(.capabilities, document)]) [(.deleteLayer layer, .ok refusal.reply)] []
      (refusalEntries layer refusal) :=
  (attempt_tells earlier document layer refusal.reply).append [_] rfl

theorem fallback_tells (refusal : Refusal) (groupReply : Response) :
    Tells (earlier ++ [(.capabilities, document)])
      [(.deleteLayer layer, .ok refusal.reply), (.deleteGroup refusal.group, .ok groupReply)] []
      (refusalEntries layer refusal ++ groupEntries refusal.group groupReply) := by
  apply (refusal_tells earlier document layer refusal).append [_]
  apply group_tells

theorem retry_tells (group : LayerId) (refusal groupAnswer : Answer) (retry : Response) :
    Tells
      (earlier ++ [(.capabilities, document)] ++
        [(.deleteLayer layer, refusal), (.deleteGroup group, groupAnswer)])
      [(.deleteLayer layer, .ok retry)] [] (retryEntries layer retry) := by
  rw [Tells, narrated_singleton, Exchange.told, List.append_assoc, if_neg]
  . rfl
  . apply not_firstAttempt_retry

theorem Deletion.tells (deletion : Deletion) :
    Tells (earlier ++ [(.capabilities, document)]) (deletion.calls layer) []
      (deletion.entries layer) := by
  cases deletion with
  | direct reply accepted => apply attempt_tells
  | afterGroup refusal groupReply retry accepted =>
    apply (fallback_tells earlier document layer refusal groupReply).append [_, _]
    apply retry_tells

theorem Failed.tells (failed : Failed) :
    Tells (earlier ++ [(.capabilities, document)]) (failed.calls layer)
      (closing (.error (failed.failure layer))) (failed.entries layer) := by
  cases failed with
  | unanswered fault => rfl
  | unmarked reply | unidentified reply =>
    exact (attempt_tells earlier document layer reply).append [_] rfl
  | groupUnanswered refusal fault =>
    exact (refusal_tells earlier document layer refusal).append [_] rfl
  | retryUnanswered refusal groupReply fault =>
    exact (fallback_tells earlier document layer refusal groupReply).append [_, _] rfl
  | retryRefused refusal groupReply retry =>
    apply (fallback_tells earlier document layer refusal groupReply).append [_, _]
    apply Tells.append [_]
    . apply retry_tells
    . rfl

end Round

theorem Culling.tells (earlier : List Exchange) (number : Nat) (c : Culling policy) :
    Tells earlier c.round.exchanges [] (c.entries number) := by
  apply (probe_tells earlier c.report.document).append [_]
  apply Tells.log
  apply (c.deletion.tells earlier (.ok c.report.document) c.layer).append
  cases hc : c.confirmation with
  | none => rfl
  | some found => exact confirm_tells _ c.layer (c.confirmed found hc)

theorem Ending.tells (earlier : List Exchange) (summary : Summary) (ending : Ending) :
    Tells earlier ending.round.exchanges (closing (ending.result policy summary))
      (ending.entries summary) := by
  cases ending with
  | unanswered fault => rfl
  | clean document unnamed =>
    apply (probe_tells earlier document).append [_]
    rfl
  | limit report =>
    apply (probe_tells earlier report.document).append [_]
    rfl
  | undeleted report failed =>
    apply (probe_tells earlier report.document).append [_]
    apply Tells.log
    apply failed.tells
  | unconfirmed report deletion doubt =>
    apply (probe_tells earlier report.document).append [_]
    apply Tells.log
    apply (deletion.tells earlier (.ok report.document) report.layer).append
    apply doubt.tells

theorem cullings_tell (cs : List (Culling policy)) (earlier : List Exchange) (summary : Summary) :
    Tells earlier (cs.flatMap (·.round.exchanges)) [] (cullEntries cs summary) := by
  induction cs generalizing earlier summary with
  | nil => rfl
  | cons c cs ih =>
    apply (c.tells earlier (summary.iterations + 1)).append
    apply ih

theorem entries_narrated (course : Course policy) : Narrated ⟨course.entries, course.result⟩ := by
  have hentries : course.entries = .note (.progress .started) ::
      .note (.log (.cleanupStarted policy.maxIterations policy.verifyDeletion policy.dryRun)) ::
        (cullEntries course.cullings {} ++ course.ending.entries course.summary) :=
    rfl
  rw [hentries]
  apply narrated_of_tells
  apply Tells.log
  rw [exchanges_cons_note, exchanges_append, exchanges_cullEntries, exchanges_ending]
  apply (cullings_tell course.cullings [] {}).append
  apply course.ending.tells

end Course

theorem Cleanup.run_narrated (limit : Nat) (verify : Bool) {σ : Type}
    (respond : Counterpart Call Answer σ) (state : σ) :
    Narrated ((Cleanup.run ⟨limit, verify, false⟩).run respond state).1 := by
  have hcourse := @Course.run_course ⟨limit, verify, false⟩ rfl _ respond state
  rcases hcourse with ⟨course, hrun⟩
  rw [hrun]
  exact course.entries_narrated

end LayerCull
