import LayerCull.Proofs.Rounds

/-!
This module contains the courses that a cleanup can take. A course is what the server answered,
sorted by what the answers led to; entries, rounds and result are functions of the course.
-/

namespace LayerCull

open Dialogue

abbrev Entries := List (Entry Call Answer)

namespace Course

structure Report where
  document : Response
  layer : LayerId
  named : badLayer? document.body = some layer

structure Refusal where
  reply : Response
  group : LayerId
  refused : reply.isInternalError = true
  named : holdingGroup? reply.body = some group

inductive Deletion where
  | direct (reply : Response) (accepted : reply.isInternalError = false)
  | afterGroup (refusal : Refusal) (groupReply retry : Response)
      (accepted : retry.isInternalError = false)

inductive Failed where
  | unanswered (fault : Fault)
  | unmarked (reply : Response) (refused : reply.isInternalError = true)
      (unmarked : isGroupReferenceError reply.body = false)
  | unidentified (reply : Response) (refused : reply.isInternalError = true)
      (marked : isGroupReferenceError reply.body = true)
      (unnamed : holdingGroup? reply.body = none)
  | groupUnanswered (refusal : Refusal) (fault : Fault)
  | retryUnanswered (refusal : Refusal) (groupReply : Response) (fault : Fault)
  | retryRefused (refusal : Refusal) (groupReply retry : Response)
      (refused : retry.isInternalError = true)

inductive Doubt where
  | unanswered (fault : Fault)
  | present (found : Response) (there : found.isNotFound = false) (success : found.isSuccess = true)
  | unclear (found : Response) (there : found.isNotFound = false)
      (failure : found.isSuccess = false)

theorem status_eq_of_refused {reply : Response} (h : reply.isInternalError = true) :
    reply.status = 500 :=
  Response.isInternalError_iff.1 h

theorem Refusal.status_eq (refusal : Refusal) : refusal.reply.status = 500 :=
  status_eq_of_refused refusal.refused

theorem status_ne_of_accepted {reply : Response} (h : reply.isInternalError = false) :
    reply.status ≠ 500 :=
  Response.isInternalError_eq_false_iff.1 h

theorem status_eq_of_gone {found : Response} (h : found.isNotFound = true) : found.status = 404 := by
  simpa [Response.isNotFound] using h

theorem status_ne_of_there {found : Response} (h : found.isNotFound = false) :
    found.status ≠ 404 := by
  simpa [Response.isNotFound] using h

def probeEntries (document : Response) : Entries :=
  [.exchange .capabilities (.ok document),
    .note (.log (.capabilitiesReceived document.status document.body.utf8ByteSize)),
    .note (.log (Cleanup.probe.finding document.body (badLayer? document.body)))]

def abortEntries (body : String) : Entries :=
  [.note (.progress (.serverErrorBody body)), .note (.progress .deletionAborted)]

def attemptEntries (layer : LayerId) (reply : Response) : Entries :=
  [.exchange (.deleteLayer layer) (.ok reply),
    .note (.progress (.deleteAttempted layer reply.status))]

def refusalEntries (layer : LayerId) (refusal : Refusal) : Entries :=
  attemptEntries layer refusal.reply ++ [.note (.log (.groupHoldsLayer layer refusal.group))]

def groupEntries (group : LayerId) (reply : Response) : Entries :=
  .exchange (.deleteGroup group) (.ok reply) ::
    .note (.progress (.groupDeleted group reply.status)) ::
      if reply.isInternalError then
        [.note (.log (.groupDeletionFailed group reply.status)),
          .note (.progress (.serverErrorBody reply.body))]
      else
        []

def retryEntries (layer : LayerId) (reply : Response) : Entries :=
  [.exchange (.deleteLayer layer) (.ok reply),
    .note (.progress (.deleteRetried layer reply.status))]

def confirmEntries (layer : LayerId) (found : Response) : Entries :=
  [.exchange (.lookup layer) (.ok found), .note (.progress (.verified layer))]

namespace Deletion

def removal : Deletion → Removal
  | .direct reply _ => .direct reply.status
  | .afterGroup refusal groupReply retry _ =>
    .afterGroup refusal.group groupReply.status retry.status

def entries (layer : LayerId) : Deletion → Entries
  | .direct reply _ => attemptEntries layer reply
  | .afterGroup refusal groupReply retry _ =>
    refusalEntries layer refusal ++ groupEntries refusal.group groupReply ++
      retryEntries layer retry

def calls (layer : LayerId) : Deletion → List Exchange
  | .direct reply _ => [(.deleteLayer layer, .ok reply)]
  | .afterGroup refusal groupReply retry _ =>
    [(.deleteLayer layer, .ok refusal.reply), (.deleteGroup refusal.group, .ok groupReply),
      (.deleteLayer layer, .ok retry)]

end Deletion

namespace Failed

def failure (layer : LayerId) : Failed → Failure
  | .unanswered fault | .groupUnanswered _ fault | .retryUnanswered _ _ fault => .transport fault
  | .unmarked reply _ _ | .retryRefused _ _ reply _ =>
    .deletionFailed layer.text reply.status reply.body
  | .unidentified reply _ _ _ => .unidentifiedGroup layer.text reply.body

def entries (layer : LayerId) : Failed → Entries
  | .unanswered fault => [.exchange (.deleteLayer layer) (.error fault)]
  | .unmarked reply _ _ =>
    attemptEntries layer reply ++ .note (.log (.deletionFailed layer reply.status)) ::
      abortEntries reply.body
  | .unidentified reply _ _ _ =>
    attemptEntries layer reply ++ .note (.log (.groupUnidentified layer)) :: abortEntries reply.body
  | .groupUnanswered refusal fault =>
    refusalEntries layer refusal ++ [.exchange (.deleteGroup refusal.group) (.error fault)]
  | .retryUnanswered refusal groupReply fault =>
    refusalEntries layer refusal ++ groupEntries refusal.group groupReply ++
      [.exchange (.deleteLayer layer) (.error fault)]
  | .retryRefused refusal groupReply retry _ =>
    refusalEntries layer refusal ++ groupEntries refusal.group groupReply ++
      (retryEntries layer retry ++ .note (.log (.retryFailed layer retry.status)) ::
        abortEntries retry.body)

def calls (layer : LayerId) : Failed → List Exchange
  | .unanswered fault => [(.deleteLayer layer, .error fault)]
  | .unmarked reply _ _ | .unidentified reply _ _ _ => [(.deleteLayer layer, .ok reply)]
  | .groupUnanswered refusal fault =>
    [(.deleteLayer layer, .ok refusal.reply), (.deleteGroup refusal.group, .error fault)]
  | .retryUnanswered refusal groupReply fault =>
    [(.deleteLayer layer, .ok refusal.reply), (.deleteGroup refusal.group, .ok groupReply),
      (.deleteLayer layer, .error fault)]
  | .retryRefused refusal groupReply retry _ =>
    [(.deleteLayer layer, .ok refusal.reply), (.deleteGroup refusal.group, .ok groupReply),
      (.deleteLayer layer, .ok retry)]

end Failed

namespace Doubt

def failure (layer : LayerId) : Doubt → Failure
  | .unanswered fault => .transport fault
  | .present found _ _ => .stillPresent layer.text found.status
  | .unclear found _ _ => .unverified layer.text found.status found.body

def answer : Doubt → Answer
  | .unanswered fault => .error fault
  | .present found _ _ | .unclear found _ _ => .ok found

def entries (layer : LayerId) : Doubt → Entries
  | .unanswered fault => [.exchange (.lookup layer) (.error fault)]
  | .present found _ _ =>
    [.exchange (.lookup layer) (.ok found), .note (.log (.layerStillPresent layer found.status))]
  | .unclear found _ _ =>
    [.exchange (.lookup layer) (.ok found), .note (.log (.lookupFailed layer found.status)),
      .note (.progress (.serverErrorBody found.body))]

end Doubt

/-- A round that came through: the reported layer was deleted and, where the policy asks for it,
confirmed to be gone. -/
structure Culling (policy : Policy) where
  report : Report
  deletion : Deletion
  confirmation : Option Response
  asked : confirmation.isSome = policy.verifyDeletion
  confirmed : ∀ found ∈ confirmation, found.isNotFound = true

namespace Culling

variable {policy : Policy}

def layer (c : Culling policy) : LayerId :=
  c.report.layer

def entries (number : Nat) (c : Culling policy) : Entries :=
  probeEntries c.report.document ++ .note (.log (.iterationStarted number c.layer)) ::
    (c.deletion.entries c.layer ++ c.confirmation.toList.flatMap (confirmEntries c.layer))

def calls (c : Culling policy) : List Exchange :=
  c.deletion.calls c.layer ++ c.confirmation.toList.map fun found => (.lookup c.layer, .ok found)

def round (c : Culling policy) : Round :=
  ⟨.ok c.report.document, c.calls⟩

def enter (summary : Summary) (c : Culling policy) : Summary :=
  { summary with iterations := summary.iterations + 1 }.record c.layer c.deletion.removal

end Culling

/-- How a cleanup ends, after the rounds that came through. -/
inductive Ending where
  | unanswered (fault : Fault)
  | clean (document : Response) (unnamed : badLayer? document.body = none)
  | limit (report : Report)
  | undeleted (report : Report) (failed : Failed)
  | unconfirmed (report : Report) (deletion : Deletion) (doubt : Doubt)

namespace Ending

/-- The cleanup may end so after this number of rounds. -/
def Fits (policy : Policy) (number : Nat) : Ending → Prop
  | .unanswered _ | .clean .. => number ≤ policy.maxIterations
  | .limit _ => number = policy.maxIterations
  | .undeleted .. => number < policy.maxIterations
  | .unconfirmed .. => number < policy.maxIterations ∧ policy.verifyDeletion = true

def entries (summary : Summary) : Ending → Entries
  | .unanswered fault => [.exchange .capabilities (.error fault)]
  | .clean document _ =>
    probeEntries document ++ [.note (.progress .finished),
      .note (.log (.cleanupFinished summary.culledLayers.length summary.removedGroups.length))]
  | .limit report =>
    probeEntries report.document ++ [.note (.log (.limitReached report.layer summary.iterations))]
  | .undeleted report failed =>
    probeEntries report.document ++
      .note (.log (.iterationStarted (summary.iterations + 1) report.layer)) ::
        failed.entries report.layer
  | .unconfirmed report deletion doubt =>
    probeEntries report.document ++
      .note (.log (.iterationStarted (summary.iterations + 1) report.layer)) ::
        (deletion.entries report.layer ++ doubt.entries report.layer)

def round : Ending → Round
  | .unanswered fault => ⟨.error fault, []⟩
  | .clean document _ => ⟨.ok document, []⟩
  | .limit report => ⟨.ok report.document, []⟩
  | .undeleted report failed => ⟨.ok report.document, failed.calls report.layer⟩
  | .unconfirmed report deletion doubt =>
    ⟨.ok report.document, deletion.calls report.layer ++ [(.lookup report.layer, doubt.answer)]⟩

def result (policy : Policy) (summary : Summary) : Ending → Except Failure Summary
  | .unanswered fault => .error (.transport fault)
  | .clean .. => .ok summary.finish
  | .limit _ => .error (.iterationLimit policy.maxIterations)
  | .undeleted report failed => .error (failed.failure report.layer)
  | .unconfirmed report _ doubt => .error (doubt.failure report.layer)

theorem Fits.le {policy : Policy} {number : Nat} {ending : Ending}
    (hfits : ending.Fits policy number) : number ≤ policy.maxIterations := by
  cases ending with
  | unanswered | clean => exact hfits
  | limit => exact Nat.le_of_eq hfits
  | undeleted => exact Nat.le_of_lt hfits
  | unconfirmed => exact Nat.le_of_lt hfits.1

end Ending

end Course

open Course

/-- The rounds of a cleanup that is no dry run, and its end. -/
structure Course (policy : Policy) where
  cullings : List (Culling policy)
  ending : Ending
  fits : ending.Fits policy cullings.length

namespace Course

variable {policy : Policy}

def tally (cs : List (Culling policy)) (summary : Summary) : Summary :=
  cs.foldl Culling.enter summary

def cullEntries : List (Culling policy) → Summary → Entries
  | [], _ => []
  | c :: cs, summary => c.entries (summary.iterations + 1) ++ cullEntries cs (c.enter summary)

def startEntries (policy : Policy) : Entries :=
  [.note (.progress .started),
    .note (.log (.cleanupStarted policy.maxIterations policy.verifyDeletion policy.dryRun))]

def summary (course : Course policy) : Summary :=
  tally course.cullings {}

def entries (course : Course policy) : Entries :=
  startEntries policy ++ cullEntries course.cullings {} ++ course.ending.entries course.summary

def result (course : Course policy) : Except Failure Summary :=
  course.ending.result policy course.summary

def rounds (course : Course policy) : List Round :=
  course.cullings.map Culling.round ++ [course.ending.round]

section Summary

theorem tally_eq (cs : List (Culling policy)) (summary : Summary) :
    tally cs summary = {
      iterations := summary.iterations + cs.length
      culledLayers := summary.culledLayers ++ cs.map Culling.layer
      removedGroups := summary.removedGroups ++ cs.flatMap (·.deletion.removal.group?.toList)
      pendingLayer := summary.pendingLayer
      finished := summary.finished } := by
  induction cs generalizing summary with
  | nil => simp [tally]
  | cons c cs ih =>
    rw [tally, List.foldl_cons, ← tally, ih]
    simp [Culling.enter, Summary.record, Nat.add_assoc, Nat.add_comm]

theorem summary_eq (course : Course policy) :
    course.summary = {
      iterations := course.cullings.length
      culledLayers := course.cullings.map Culling.layer
      removedGroups := course.cullings.flatMap (·.deletion.removal.group?.toList)
      pendingLayer := none
      finished := false } := by
  rw [summary, tally_eq, Nat.zero_add]
  rfl

theorem result_eq_ok_iff {course : Course policy} {summary : Summary} :
    course.result = .ok summary ↔
      (∃ document clean, course.ending = .clean document clean) ∧
        summary = course.summary.finish := by
  unfold Course.result
  cases course.ending with
  | clean document clean => simp [Ending.result, eq_comm, clean]
  | unanswered | limit | undeleted | unconfirmed => simp [Ending.result]

end Summary

section Exchanges

theorem exchanges_groupEntries (group : LayerId) (reply : Response) :
    exchanges (groupEntries group reply) = [(.deleteGroup group, .ok reply)] := by
  unfold groupEntries
  split <;> rfl

theorem exchanges_deletion (layer : LayerId) (deletion : Deletion) :
    exchanges (deletion.entries layer) = deletion.calls layer := by
  cases deletion with
  | direct reply accepted => rfl
  | afterGroup refusal groupReply retry accepted =>
    rw [Deletion.entries, exchanges_append, exchanges_append, exchanges_groupEntries]
    rfl

theorem exchanges_failed (layer : LayerId) (failed : Failed) :
    exchanges (failed.entries layer) = failed.calls layer := by
  cases failed with
  | unanswered | unmarked | unidentified | groupUnanswered => rfl
  | retryUnanswered | retryRefused =>
    rw [Failed.entries, exchanges_append, exchanges_append, exchanges_groupEntries]
    rfl

theorem exchanges_doubt (layer : LayerId) (doubt : Doubt) :
    exchanges (doubt.entries layer) = [(.lookup layer, doubt.answer)] := by
  cases doubt <;> rfl

theorem exchanges_culling (number : Nat) (c : Culling policy) :
    exchanges (c.entries number) = c.round.exchanges := by
  have hconfirm : exchanges (c.confirmation.toList.flatMap (confirmEntries c.layer)) =
      c.confirmation.toList.map fun found => (.lookup c.layer, .ok found) := by
    cases c.confirmation <;> rfl
  rw [Culling.entries, exchanges_append, exchanges_cons_note, exchanges_append, exchanges_deletion,
    hconfirm]
  rfl

theorem exchanges_ending (summary : Summary) (ending : Ending) :
    exchanges (ending.entries summary) = ending.round.exchanges := by
  cases ending with
  | unanswered | clean | limit => rfl
  | undeleted report failed =>
    rw [Ending.entries, exchanges_append, exchanges_cons_note, exchanges_failed]
    rfl
  | unconfirmed report deletion doubt =>
    rw [Ending.entries, exchanges_append, exchanges_cons_note, exchanges_append, exchanges_deletion,
      exchanges_doubt]
    rfl

theorem exchanges_cullEntries (cs : List (Culling policy)) (summary : Summary) :
    exchanges (cullEntries cs summary) = cs.flatMap (·.round.exchanges) := by
  induction cs generalizing summary with
  | nil => rfl
  | cons c cs ih =>
    rw [cullEntries, exchanges_append, exchanges_culling, ih]
    rfl

theorem exchanges_entries (course : Course policy) :
    exchanges course.entries = course.rounds.flatMap Round.exchanges := by
  rw [entries, exchanges_append, exchanges_append, exchanges_cullEntries, exchanges_ending]
  simp [startEntries, rounds, List.flatMap_map]

theorem flatMap_exchanges_rounds (course : Course policy) :
    course.rounds.flatMap Round.exchanges =
      course.cullings.flatMap (·.round.exchanges) ++ course.ending.round.exchanges := by
  rw [rounds, List.flatMap_append, List.flatMap_map, List.flatMap_singleton]

theorem getLast?_exchanges (course : Course policy) :
    (exchanges course.entries).getLast? = course.ending.round.exchanges.getLast? := by
  rw [exchanges_entries, flatMap_exchanges_rounds, List.getLast?_append, Round.exchanges,
    List.getLast?_cons]
  rfl

end Exchanges

section Rounds

theorem isProbe_deletion {layer : LayerId} {deletion : Deletion} :
    ∀ x ∈ deletion.calls layer, x.isProbe = false := by
  cases deletion <;> simp [Deletion.calls, Exchange.isProbe, Exchange.document?]

theorem Culling.isProbe_calls (c : Culling policy) : ∀ x ∈ c.calls, x.isProbe = false := by
  intro x hx
  rw [Culling.calls, List.mem_append, List.mem_map] at hx
  rcases hx with hx | ⟨_, _, rfl⟩
  . exact isProbe_deletion x hx
  . rfl

theorem countP_isProbe_cullings (cs : List (Culling policy)) :
    (cs.flatMap (·.round.exchanges)).countP Exchange.isProbe = cs.length := by
  have hcount := @countP_isProbe_flatMap_exchanges (cs.map Culling.round) (by
    intro r hr
    rcases List.mem_map.1 hr with ⟨c, _, rfl⟩
    exact c.isProbe_calls)
  rw [List.flatMap_map, List.length_map] at hcount
  exact hcount

theorem isProbe_of_mem_rounds (course : Course policy) :
    ∀ r ∈ course.rounds, ∀ x ∈ r.calls, x.isProbe = false := by
  intro r hr
  rw [rounds, List.mem_append, List.mem_map, List.mem_singleton] at hr
  rcases hr with ⟨c, _, rfl⟩ | rfl
  . exact c.isProbe_calls
  . cases course.ending with
    | unanswered | clean | limit => simp [Ending.round]
    | undeleted report failed =>
      cases failed <;> simp [Ending.round, Failed.calls, Exchange.isProbe, Exchange.document?]
    | unconfirmed report deletion doubt =>
      intro x hx
      rw [Ending.round, List.mem_append, List.mem_singleton] at hx
      rcases hx with hx | rfl
      . exact isProbe_deletion x hx
      . rfl

theorem rounds_exchanges_entries (course : Course policy) :
    LayerCull.rounds (exchanges course.entries) = course.rounds := by
  rw [exchanges_entries]
  apply rounds_flatMap_exchanges
  apply isProbe_of_mem_rounds

end Rounds

section Completed

variable (c : Culling policy)

theorem Culling.layer?_round : c.round.layer? = some c.layer :=
  c.report.named

theorem Culling.layerDeletions_round :
    c.round.layerDeletions = (c.deletion.calls c.layer).filterMap Exchange.layerDeletion? := by
  rw [Round.layerDeletions, round, calls, List.filterMap_append, List.filterMap_map]
  cases c.confirmation <;> exact List.append_nil _

theorem Culling.groupDeletions_round :
    c.round.groupDeletions = (c.deletion.calls c.layer).filterMap Exchange.groupDeletion? := by
  rw [Round.groupDeletions, round, calls, List.filterMap_append, List.filterMap_map]
  cases c.confirmation <;> exact List.append_nil _

theorem Culling.lookups_round :
    c.round.lookups = c.confirmation.toList.map fun found => (c.layer, .ok found) := by
  rw [Round.lookups, round, calls, List.filterMap_append]
  cases c.deletion <;> cases c.confirmation <;> rfl

theorem Culling.completed : c.round.Completed policy.verifyDeletion := by
  have hlast : ∃ reply : Response, c.round.layerDeletions.getLast? = some (c.layer, .ok reply) ∧
      reply.isInternalError = false := by
    rw [c.layerDeletions_round]
    cases c.deletion with
    | direct reply accepted => exact ⟨reply, rfl, accepted⟩
    | afterGroup refusal groupReply retry accepted => exact ⟨retry, rfl, accepted⟩
  rcases hlast with ⟨reply, hreply, accepted⟩
  have hasked := c.asked
  have hconfirmed := c.confirmed
  refine ⟨c.layer, reply, c.layer?_round, hreply, status_ne_of_accepted accepted, ?_, ?_⟩
  . intro verify
    rw [verify, Option.isSome_iff_exists] at hasked
    rcases hasked with ⟨found, hfound⟩
    have hgone := hconfirmed found hfound
    refine ⟨found, ?_, by simpa [Response.isNotFound] using hgone⟩
    rw [c.lookups_round, hfound]
    rfl
  . intro verify
    rw [verify, Option.isSome_eq_false_iff, Option.isNone_iff_eq_none] at hasked
    rw [c.lookups_round, hasked]
    rfl

end Completed

end Course

end LayerCull
