import LayerCull.Proofs.Authority

/-!
This module contains the proof that a cleanup stops at the first call that fails, and that the failure
tells what that call brought: `Causes` says which exchange leads to which failure, and
`run_failStop` states of every cleanup that it fails exactly when its last exchange is such a cause.
-/

namespace LayerCull

open Dialogue

/-- The server says that a layer group holds the layer. -/
def Response.SaysHeld (r : Response) : Prop :=
  Marker.groupReference.phrase.toList <:+: r.body.toList

def Response.NamesNoGroup (r : Response) : Prop :=
  r.SaysHeld ∧ LayerId.AbsentFrom r.body

def Response.Succeeds (r : Response) : Prop :=
  200 ≤ r.status ∧ r.status ≤ 299

/-- No layer deletion was tried since the last capabilities call. -/
def FirstAttempt (before : List Exchange) : Prop :=
  ∀ x ∈ before.reverse.takeWhile (!·.isProbe), x.isLayerDeletion = false

/-- The exchange, coming after the exchanges `before`, is why the cleanup fails. -/
def Causes (policy : Policy) (before : List Exchange) (failure : Failure) : Exchange → Prop
  | (_, .error fault) => failure = .transport fault
  | (.capabilities, .ok document) =>
    policy.dryRun = false ∧ (badLayer? document.body).isSome ∧
      before.countP Exchange.isProbe = policy.maxIterations ∧
      failure = .iterationLimit policy.maxIterations
  | (.deleteLayer layer, .ok reply) =>
    reply.status = 500 ∧
      (FirstAttempt before ∧ reply.NamesNoGroup ∧
          failure = .unidentifiedGroup layer.text reply.body ∨
        (FirstAttempt before → ¬reply.SaysHeld) ∧
          failure = .deletionFailed layer.text 500 reply.body)
  | (.deleteGroup _, .ok _) => False
  | (.lookup layer, .ok found) =>
    found.Succeeds ∧ failure = .stillPresent layer.text found.status ∨
      found.status ≠ 404 ∧ ¬found.Succeeds ∧
        failure = .unverified layer.text found.status found.body

/-- The cleanup fails exactly when its last exchange causes the failure, and nothing follows a cause.
The other fields read the failure off the last exchange. -/
structure FailStop (policy : Policy) (transcript : Transcript Call Answer Summary) : Prop where
  failed : ∀ failure, transcript.result = .error failure ↔
    ∃ before x, exchanges transcript.entries = before ++ [x] ∧ Causes policy before failure x
  stopped : ∀ before x after failure, exchanges transcript.entries = before ++ x :: after →
    Causes policy before failure x → after = []
  unanswered : ∀ before call answer failure fault,
    exchanges transcript.entries = before ++ [(call, answer)] →
    transcript.result = .error failure → (answer = .error fault ↔ failure = .transport fault)
  refused : ∀ before layer reply failure,
    exchanges transcript.entries = before ++ [(.deleteLayer layer, .ok reply)] →
    transcript.result = .error failure → reply.status = 500 ∧
      (failure = .unidentifiedGroup layer.text reply.body ↔
        FirstAttempt before ∧ reply.NamesNoGroup) ∧
      (failure = .deletionFailed layer.text 500 reply.body ↔
        FirstAttempt before ∧ ¬reply.SaysHeld ∨ ¬FirstAttempt before)
  unconfirmed : ∀ before layer found failure,
    exchanges transcript.entries = before ++ [(.lookup layer, .ok found)] →
    transcript.result = .error failure →
      (failure = .stillPresent layer.text found.status ↔ found.Succeeds) ∧
      (failure = .unverified layer.text found.status found.body ↔
        found.status ≠ 404 ∧ ¬found.Succeeds)
  limitReached : ∀ before document failure,
    exchanges transcript.entries = before ++ [(.capabilities, .ok document)] →
    transcript.result = .error failure → failure = .iterationLimit policy.maxIterations

theorem Response.saysHeld_iff {r : Response} : isGroupReferenceError r.body = true ↔ r.SaysHeld :=
  Marker.isIn_iff

theorem Response.namesNoGroup_iff {r : Response} :
    isGroupReferenceError r.body = true ∧ holdingGroup? r.body = none ↔ r.NamesNoGroup := by
  rw [NamesNoGroup, saysHeld_iff, and_congr_right_iff]
  intro held
  rw [holdingGroup?, Marker.subject?, if_pos (Marker.isIn_iff.2 held), LayerId.first?_eq_none_iff]

theorem Response.succeeds_iff {r : Response} : r.isSuccess = true ↔ r.Succeeds := by
  unfold isSuccess Succeeds
  simp only [Bool.and_eq_true, decide_eq_true_eq]
  omega

section FirstAttempt

variable (earlier : List Exchange) {calls : List Exchange} (document : Answer)

theorem firstAttempt_append_iff (h : ∀ x ∈ calls, x.isProbe = false) :
    FirstAttempt (earlier ++ (.capabilities, document) :: calls) ↔
      ∀ x ∈ calls, x.isLayerDeletion = false := by
  have hcalls : ∀ x ∈ calls.reverse, (!x.isProbe) = true := by
    intro x hx
    rw [h x (List.mem_reverse.1 hx)]
    rfl
  unfold FirstAttempt
  rw [List.reverse_append, List.reverse_cons, List.append_assoc,
    List.takeWhile_append_of_pos hcalls, List.singleton_append, List.takeWhile_cons_of_neg,
    List.append_nil]
  . simp only [List.mem_reverse]
  . simp [Exchange.isProbe, Exchange.document?]

theorem firstAttempt_probe : FirstAttempt (earlier ++ [(.capabilities, document)]) := by
  apply (firstAttempt_append_iff earlier document (by simp)).2
  simp

theorem not_firstAttempt_retry (layer group : LayerId) (refusal groupAnswer : Answer) :
    ¬FirstAttempt (earlier ++ [(.capabilities, document), (.deleteLayer layer, refusal),
      (.deleteGroup group, groupAnswer)]) := by
  rw [firstAttempt_append_iff earlier document (by simp [Exchange.isProbe, Exchange.document?])]
  simp [Exchange.isLayerDeletion, Exchange.layerDeletion?]

end FirstAttempt

namespace Causes

variable {policy : Policy} {before : List Exchange} {failure : Failure}

theorem unanswered_iff {call : Call} {answer : Answer} {fault : Fault}
    (h : Causes policy before failure (call, answer)) :
    answer = .error fault ↔ failure = .transport fault := by
  cases answer with
  | error fault' =>
    rw [show failure = .transport fault' from h]
    simp
  | ok reply =>
    simp only [reduceCtorEq, false_iff]
    rintro rfl
    cases call <;> simp [Causes] at h

theorem refused {layer : LayerId} {reply : Response}
    (h : Causes policy before failure (.deleteLayer layer, .ok reply)) :
    reply.status = 500 ∧
      (failure = .unidentifiedGroup layer.text reply.body ↔
        FirstAttempt before ∧ reply.NamesNoGroup) ∧
      (failure = .deletionFailed layer.text 500 reply.body ↔
        FirstAttempt before ∧ ¬reply.SaysHeld ∨ ¬FirstAttempt before) := by
  rcases h with ⟨hstatus, ⟨hfirst, hnone, rfl⟩ | ⟨hunmarked, rfl⟩⟩
  . have hmarked : reply.SaysHeld := hnone.1
    exact ⟨hstatus, by simp [hfirst, hnone], by simp [hfirst, hmarked]⟩
  . refine ⟨hstatus, ?_, ?_⟩
    . simp only [reduceCtorEq, false_iff, not_and]
      intro hfirst hnone
      exact hunmarked hfirst hnone.1
    . simp only [true_iff]
      by_cases hfirst : FirstAttempt before
      . exact .inl ⟨hfirst, hunmarked hfirst⟩
      . exact .inr hfirst

theorem unconfirmed {layer : LayerId} {found : Response}
    (h : Causes policy before failure (.lookup layer, .ok found)) :
    (failure = .stillPresent layer.text found.status ↔ found.Succeeds) ∧
      (failure = .unverified layer.text found.status found.body ↔
        found.status ≠ 404 ∧ ¬found.Succeeds) := by
  rcases h with ⟨hsuccess, rfl⟩ | ⟨hthere, hsuccess, rfl⟩
  . simp [hsuccess]
  . simp [hsuccess, hthere]

end Causes

/-- No failure comes of the exchange. -/
def Harmless (policy : Policy) (before : List Exchange) (x : Exchange) : Prop :=
  ∀ failure, ¬Causes policy before failure x

abbrev AllHarmless (policy : Policy) : List Exchange → List Exchange → Prop :=
  EveryPlace fun before x _ => Harmless policy before x

/-- The last of the calls causes the failure, if there is one, and the others cause none. -/
def StopsAtLast (policy : Policy) (earlier calls : List Exchange) (result : Except Failure Summary) :
    Prop :=
  ∃ front last, calls = front ++ [last] ∧ AllHarmless policy earlier front ∧
    ∀ failure, result = .error failure ↔ Causes policy (earlier ++ front) failure last

theorem StopsAtLast.append {policy : Policy} {earlier ys : List Exchange} (xs : List Exchange)
    {result : Except Failure Summary} (hxs : AllHarmless policy earlier xs)
    (hys : StopsAtLast policy (earlier ++ xs) ys result) :
    StopsAtLast policy earlier (xs ++ ys) result := by
  rcases hys with ⟨front, last, rfl, hfront, hlast⟩
  refine ⟨xs ++ front, last, by rw [List.append_assoc], ?_, ?_⟩
  . apply EveryPlace.append
    . exact hxs
    . exact hfront
  . rw [← List.append_assoc]
    exact hlast

theorem stopsAtLast_singleton {policy : Policy} {earlier : List Exchange} {last : Exchange}
    {result : Except Failure Summary}
    (h : ∀ failure, result = .error failure ↔ Causes policy earlier failure last) :
    StopsAtLast policy earlier [last] result := by
  refine ⟨[], last, rfl, trivial, ?_⟩
  rw [List.append_nil]
  exact h

theorem stopsAtLast_error {policy : Policy} {earlier : List Exchange} {last : Exchange}
    {cause : Failure} (h : ∀ failure, Causes policy earlier failure last ↔ failure = cause) :
    StopsAtLast policy earlier [last] (.error cause) := by
  apply stopsAtLast_singleton
  intro failure
  rw [h, Except.error.injEq, eq_comm]

theorem stopsAtLast_unanswered (policy : Policy) (earlier : List Exchange) (call : Call)
    (fault : Fault) : StopsAtLast policy earlier [(call, .error fault)] (.error (.transport fault)) :=
  stopsAtLast_error fun _ => Iff.rfl

theorem StopsAtLast.failStop {policy : Policy} {transcript : Transcript Call Answer Summary}
    (h : StopsAtLast policy [] (exchanges transcript.entries) transcript.result) :
    FailStop policy transcript := by
  rcases h with ⟨front, last, hexchanges, hfront, hlast⟩
  rw [List.nil_append] at hlast
  have hcaused : ∀ before x failure, exchanges transcript.entries = before ++ [x] →
      transcript.result = .error failure → Causes policy before failure x := by
    intro before x failure hx hresult
    rw [hexchanges] at hx
    rcases List.append_inj' hx rfl with ⟨rfl, hsingle⟩
    rw [← (List.cons.inj hsingle).1]
    exact (hlast failure).1 hresult
  constructor
  case failed =>
    intro failure
    constructor
    . intro hresult
      exact ⟨front, last, hexchanges, hcaused front last failure hexchanges hresult⟩
    . rintro ⟨before, x, hx, hcauses⟩
      rw [hexchanges] at hx
      rcases List.append_inj' hx rfl with ⟨rfl, hsingle⟩
      rw [← (List.cons.inj hsingle).1] at hcauses
      exact (hlast failure).2 hcauses
  case stopped =>
    intro before x after failure hx hcauses
    rcases List.eq_nil_or_concat after with rfl | ⟨more, y, rfl⟩
    . rfl
    . -- The cause would stand in the harmless part.
      rw [hexchanges, List.concat_eq_append, ← List.cons_append, ← List.append_assoc] at hx
      rw [(List.append_inj' hx rfl).1] at hfront
      exact absurd hcauses (hfront.apply failure)
  case unanswered =>
    intro before call answer failure fault hx hresult
    exact (hcaused before _ failure hx hresult).unanswered_iff
  case refused =>
    intro before layer reply failure hx hresult
    exact (hcaused before _ failure hx hresult).refused
  case unconfirmed =>
    intro before layer found failure hx hresult
    exact (hcaused before _ failure hx hresult).unconfirmed
  case limitReached =>
    intro before document failure hx hresult
    exact (hcaused before _ failure hx hresult).2.2.2

namespace Course

variable {policy : Policy} {earlier : List Exchange}

section Round

variable (earlier) (report : Report)

theorem probe_harmless (h : earlier.countP Exchange.isProbe < policy.maxIterations) :
    Harmless policy earlier (.capabilities, .ok report.document) := by
  rintro failure ⟨_, _, hcount, _⟩
  omega

theorem accepted_harmless {before : List Exchange} {layer : LayerId} {reply : Response}
    (accepted : reply.isInternalError = false) :
    Harmless policy before (.deleteLayer layer, .ok reply) := by
  rintro failure ⟨hstatus, _⟩
  exact status_ne_of_accepted accepted hstatus

theorem Refusal.saysHeld (refusal : Refusal) : refusal.reply.SaysHeld :=
  Response.saysHeld_iff.1 (marked_of_holdingGroup? refusal.named)

theorem refusal_harmless (refusal : Refusal) :
    Harmless policy (earlier ++ [(.capabilities, .ok report.document)])
      (.deleteLayer report.layer, .ok refusal.reply) := by
  rintro failure ⟨_, ⟨_, hnone, _⟩ | ⟨hunmarked, _⟩⟩
  . have hfirst := (Marker.subject?_eq_some_iff.1 refusal.named).2
    rw [← LayerId.first?_eq_some_iff, LayerId.first?_eq_none_iff.2 hnone.2] at hfirst
    contradiction
  . exact hunmarked (firstAttempt_probe _ _) refusal.saysHeld

theorem confirmed_harmless {before : List Exchange} {layer : LayerId} {found : Response}
    (gone : found.isNotFound = true) : Harmless policy before (.lookup layer, .ok found) := by
  have hstatus : found.status = 404 := by
    simpa [Response.isNotFound] using gone
  rintro failure (⟨hsuccess, _⟩ | ⟨hthere, _⟩)
  . have := hsuccess.2
    omega
  . exact hthere hstatus

theorem fallback_harmless (refusal : Refusal) (groupReply : Response) :
    AllHarmless policy (earlier ++ [(.capabilities, .ok report.document)])
      [(.deleteLayer report.layer, .ok refusal.reply), (.deleteGroup refusal.group, .ok groupReply)] :=
  ⟨refusal_harmless earlier report refusal, fun _ => id, trivial⟩

theorem Deletion.harmless (deletion : Deletion) :
    AllHarmless policy (earlier ++ [(.capabilities, .ok report.document)])
      (deletion.calls report.layer) := by
  cases deletion with
  | direct reply accepted => exact ⟨accepted_harmless accepted, trivial⟩
  | afterGroup refusal groupReply retry accepted =>
    exact ⟨refusal_harmless earlier report refusal, fun _ => id, accepted_harmless accepted, trivial⟩

theorem Failed.stopsAtLast (failed : Failed) :
    StopsAtLast policy (earlier ++ [(.capabilities, .ok report.document)])
      (failed.calls report.layer) (.error (failed.failure report.layer)) := by
  cases failed with
  | unanswered fault => apply stopsAtLast_unanswered
  | unmarked reply refused unmarked =>
    have hstatus := status_eq_of_refused refused
    have hunmarked : ¬reply.SaysHeld := by
      rw [← Response.saysHeld_iff]
      exact Bool.eq_false_iff.1 unmarked
    apply stopsAtLast_error
    simp [Causes, Failed.failure, hstatus, Response.NamesNoGroup, hunmarked]
  | unidentified reply refused marked unnamed =>
    have hstatus := status_eq_of_refused refused
    have hnone : reply.NamesNoGroup := Response.namesNoGroup_iff.1 ⟨marked, unnamed⟩
    have hmarked : reply.SaysHeld := hnone.1
    apply stopsAtLast_error
    simp [Causes, Failed.failure, hstatus, firstAttempt_probe, hnone, hmarked]
  | groupUnanswered refusal fault =>
    apply StopsAtLast.append [_]
    . exact ⟨refusal_harmless earlier report refusal, trivial⟩
    . apply stopsAtLast_unanswered
  | retryUnanswered refusal groupReply fault =>
    apply StopsAtLast.append [_, _] (fallback_harmless earlier report refusal groupReply)
    apply stopsAtLast_unanswered
  | retryRefused refusal groupReply retry refused =>
    have hstatus := status_eq_of_refused refused
    have hretry := not_firstAttempt_retry earlier (.ok report.document) report.layer refusal.group
      (.ok refusal.reply) (.ok groupReply)
    apply StopsAtLast.append [_, _] (fallback_harmless earlier report refusal groupReply)
    apply stopsAtLast_error
    simp [Causes, Failed.failure, hstatus, hretry]

theorem Doubt.stopsAtLast (before : List Exchange) (layer : LayerId) (doubt : Doubt) :
    StopsAtLast policy before [(.lookup layer, doubt.answer)] (.error (doubt.failure layer)) := by
  cases doubt with
  | unanswered fault => apply stopsAtLast_unanswered
  | present found there success =>
    have hsuccess : found.Succeeds := Response.succeeds_iff.1 success
    apply stopsAtLast_error
    simp [Causes, Doubt.answer, Doubt.failure, hsuccess]
  | unclear found there unsuccessful =>
    have hsuccess : ¬found.Succeeds := by
      rw [← Response.succeeds_iff, unsuccessful]
      simp
    have hthere : found.status ≠ 404 := by
      simpa [Response.isNotFound] using there
    apply stopsAtLast_error
    simp [Causes, Doubt.answer, Doubt.failure, hsuccess, hthere]

end Round

theorem Culling.harmless (c : Culling policy)
    (h : earlier.countP Exchange.isProbe < policy.maxIterations) :
    AllHarmless policy earlier c.round.exchanges := by
  refine ⟨probe_harmless earlier c.report h, ?_⟩
  apply EveryPlace.append
  . exact c.deletion.harmless earlier c.report
  . cases hc : c.confirmation with
    | none => trivial
    | some found => exact ⟨confirmed_harmless (c.confirmed found hc), trivial⟩

theorem cullings_harmless (cs : List (Culling policy))
    (h : earlier.countP Exchange.isProbe + cs.length ≤ policy.maxIterations) :
    AllHarmless policy earlier (cs.flatMap (·.round.exchanges)) := by
  induction cs generalizing earlier with
  | nil => trivial
  | cons c cs ih =>
    rw [List.length_cons] at h
    rw [List.flatMap_cons]
    apply EveryPlace.append
    . apply c.harmless
      omega
    . apply ih
      have hprobes := countP_isProbe_cullings [c]
      rw [List.flatMap_singleton, List.length_singleton] at hprobes
      rw [List.countP_append, hprobes]
      omega

theorem Ending.stopsAtLast {ending : Ending} (summary : Summary) (hdry : policy.dryRun = false)
    (hfits : ending.Fits policy (earlier.countP Exchange.isProbe)) :
    StopsAtLast policy earlier ending.round.exchanges (ending.result policy summary) := by
  cases ending with
  | unanswered fault => apply stopsAtLast_unanswered
  | clean document unnamed =>
    apply stopsAtLast_singleton
    intro failure
    constructor
    . intro hresult
      contradiction
    . rintro ⟨_, hnamed, _⟩
      rw [unnamed] at hnamed
      contradiction
  | limit report =>
    apply stopsAtLast_error
    intro failure
    constructor
    . rintro ⟨_, _, _, hfailure⟩
      exact hfailure
    . intro hfailure
      refine ⟨hdry, ?_, hfits, hfailure⟩
      rw [report.named]
      rfl
  | undeleted report failed =>
    apply StopsAtLast.append [_]
    . exact ⟨probe_harmless earlier report hfits, trivial⟩
    . exact failed.stopsAtLast earlier report
  | unconfirmed report deletion doubt =>
    apply StopsAtLast.append [_]
    . exact ⟨probe_harmless earlier report hfits.1, trivial⟩
    . apply StopsAtLast.append _ (deletion.harmless earlier report)
      apply doubt.stopsAtLast

theorem entries_stopsAtLast (course : Course policy) (hdry : policy.dryRun = false) :
    StopsAtLast policy [] (exchanges course.entries) course.result := by
  rw [exchanges_entries, rounds, List.flatMap_append, List.flatMap_map, List.flatMap_singleton]
  apply StopsAtLast.append
  . apply cullings_harmless
    rw [List.countP_nil, Nat.zero_add]
    exact course.fits.le
  . apply Ending.stopsAtLast course.summary hdry
    rw [List.nil_append, countP_isProbe_cullings]
    exact course.fits

end Course

theorem Cleanup.dryRun_stopsAtLast {policy : Policy} (hdry : policy.dryRun = true) {σ : Type}
    (respond : Counterpart Call Answer σ) (state : σ) :
    StopsAtLast policy [] (exchanges ((Cleanup.run policy).run respond state).1.entries)
      ((Cleanup.run policy).run respond state).1.result := by
  have h := admits_run respond (Cleanup.run policy) state
  generalize ((Cleanup.run policy).run respond state).1 = transcript at h
  rw [Course.run_eq_of_dryRun hdry] at h
  rcases h with ⟨_, he, _, rfl, h⟩
  rw [he, exchanges_cons_note, exchanges_cons_note]
  rcases Course.probe_bind_admits.1 h with ⟨fault, rfl, hresult⟩ |
    ⟨document, _, rfl, _, rfl, rfl, hresult⟩
  . rw [hresult]
    apply stopsAtLast_unanswered
  . apply stopsAtLast_singleton
    intro failure
    rw [hresult]
    constructor
    . intro hfailure
      contradiction
    . rintro ⟨hreal, _⟩
      rw [hdry] at hreal
      contradiction

/-- Whoever answers, a cleanup stops at the first call that fails and says what that call brought. -/
theorem Cleanup.run_failStop (policy : Policy) {σ : Type} (respond : Counterpart Call Answer σ)
    (state : σ) : FailStop policy ((Cleanup.run policy).run respond state).1 := by
  apply StopsAtLast.failStop
  cases hdry : policy.dryRun with
  | false =>
    rcases Course.run_course hdry respond state with ⟨course, hrun⟩
    rw [hrun]
    exact course.entries_stopsAtLast hdry
  | true => exact Cleanup.dryRun_stopsAtLast hdry respond state

end LayerCull
