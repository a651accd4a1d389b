import LayerCull.Proofs.Course.Admits

/-!
This module contains the proof that a cleanup deletes only what the server has asked for. `Authorised`
says what must have come before a call, and what must follow it; `run_authorised` states it of every
call of every cleanup.
-/

namespace LayerCull

open Dialogue

namespace Exchange

def isDocument : Exchange → Bool
  | (.capabilities, .ok _) => true
  | _ => false

end Exchange

/-- The last capabilities call was answered by a document that reports the layer. -/
def Reported (before : List Exchange) (layer : LayerId) : Prop :=
  ∃ (earlier : List Exchange) (document : Response) (calls : List Exchange),
    before = earlier ++ (.capabilities, .ok document) :: calls ∧
    (∀ x ∈ calls, x.isProbe = false) ∧ Marker.metadataFailure.Names document.body layer

/-- Nothing is deleted until the next capabilities document is there. -/
def Quiet (after : List Exchange) : Prop :=
  ∀ x ∈ after.takeWhile (!·.isDocument), x.isDeletion = false

/-- The call may be made after the exchanges `before`, and those `after` it are in order. -/
def Authorised (policy : Policy) (before : List Exchange) (x : Exchange) (after : List Exchange) :
    Prop :=
  match x with
  | (.capabilities, _) => True
  | (.deleteLayer layer, _) => Reported before layer
  | (.deleteGroup group, answer) =>
    ∃ earlier layer refusal, before = earlier ++ [(.deleteLayer layer, .ok refusal)] ∧
      refusal.status = 500 ∧ Marker.groupReference.Names refusal.body group ∧
      ∀ reply, answer = .ok reply →
        ∃ retry later, after = (.deleteLayer layer, retry) :: later ∧ Quiet later
  | (.lookup layer, _) =>
    policy.verifyDeletion = true ∧
      ∃ earlier reply, before = earlier ++ [(.deleteLayer layer, .ok reply)] ∧ reply.status ≠ 500

/-- The relation holds between every place of the list, what is before it, and what is after it. -/
def EveryPlace (P : List Exchange → Exchange → List Exchange → Prop) :
    List Exchange → List Exchange → Prop
  | _, [] => True
  | before, x :: after => P before x after ∧ EveryPlace P (before ++ [x]) after

namespace EveryPlace

variable {P : List Exchange → Exchange → List Exchange → Prop} {front xs ys : List Exchange}

theorem append (hxs : EveryPlace (fun before x after => P before x (after ++ ys)) front xs)
    (hys : EveryPlace P (front ++ xs) ys) : EveryPlace P front (xs ++ ys) := by
  induction xs generalizing front with
  | nil =>
    rw [List.append_nil] at hys
    exact hys
  | cons x xs ih =>
    refine ⟨hxs.1, ih hxs.2 ?_⟩
    rw [List.append_assoc]
    exact hys

theorem apply {before after : List Exchange} {x : Exchange}
    (h : EveryPlace P front (before ++ x :: after)) : P (front ++ before) x after := by
  induction before generalizing front with
  | nil =>
    rw [List.append_nil]
    exact h.1
  | cons y before ih =>
    have := ih h.2
    rw [List.append_assoc] at this
    exact this

end EveryPlace

section Quiet

variable {rest : List Exchange}

theorem quiet_nil : Quiet [] := by
  intro x hx
  contradiction

theorem quiet_document (document : Response) : Quiet ((.capabilities, .ok document) :: rest) := by
  unfold Quiet
  rw [List.takeWhile_cons_of_neg]
  . intro x hx
    contradiction
  . simp [Exchange.isDocument]

theorem quiet_cons {x : Exchange} (hx : x.isDeletion = false) (h : Quiet rest) :
    Quiet (x :: rest) := by
  unfold Quiet at *
  rw [List.takeWhile_cons]
  split
  . simp only [List.forall_mem_cons]
    exact ⟨hx, h⟩
  . intro y hy
    contradiction

end Quiet

namespace Course

variable {policy : Policy}

theorem reported_append (earlier : List Exchange) (report : Report) {calls : List Exchange}
    (h : ∀ x ∈ calls, x.isProbe = false) :
    Reported (earlier ++ (.capabilities, .ok report.document) :: calls) report.layer :=
  ⟨earlier, report.document, calls, rfl, h, Marker.subject?_eq_some_iff.1 report.named⟩

def AuthorisedAfter (policy : Policy) (earlier : List Exchange) (report : Report)
    (calls rest : List Exchange) : Prop :=
  EveryPlace (fun before x after => Authorised policy before x (after ++ rest))
    (earlier ++ [(.capabilities, .ok report.document)]) calls

section Round

variable (earlier : List Exchange) (report : Report) {rest : List Exchange}

theorem attempt_authorised (answer : Answer) :
    AuthorisedAfter policy earlier report [(.deleteLayer report.layer, answer)] rest := by
  refine ⟨?_, trivial⟩
  apply reported_append
  simp

theorem fallback_authorised (refusal : Refusal) (groupReply : Response) (retry : Answer)
    (hrest : Quiet rest) :
    AuthorisedAfter policy earlier report
      [(.deleteLayer report.layer, .ok refusal.reply), (.deleteGroup refusal.group, .ok groupReply),
        (.deleteLayer report.layer, retry)] rest := by
  refine ⟨?_, ?_, ?_, trivial⟩
  . apply reported_append
    simp
  . refine ⟨_, report.layer, refusal.reply, rfl, refusal.status_eq,
      Marker.subject?_eq_some_iff.1 refusal.named, ?_⟩
    intro reply _
    exact ⟨retry, rest, rfl, hrest⟩
  . simp only [List.append_assoc]
    apply reported_append
    simp [Exchange.isProbe, Exchange.document?]

theorem Deletion.authorised (deletion : Deletion) (hrest : Quiet rest) :
    AuthorisedAfter policy earlier report (deletion.calls report.layer) rest := by
  cases deletion with
  | direct reply accepted => apply attempt_authorised
  | afterGroup refusal groupReply retry accepted =>
    apply fallback_authorised
    exact hrest

theorem Failed.authorised (failed : Failed) (hrest : Quiet rest) :
    AuthorisedAfter policy earlier report (failed.calls report.layer) rest := by
  cases failed with
  | unanswered | unmarked | unidentified => apply attempt_authorised
  | groupUnanswered refusal fault =>
    refine ⟨?_, ?_, trivial⟩
    . apply reported_append
      simp
    . refine ⟨_, report.layer, refusal.reply, rfl, refusal.status_eq,
        Marker.subject?_eq_some_iff.1 refusal.named, ?_⟩
      intro reply hreply
      contradiction
  | retryUnanswered | retryRefused =>
    apply fallback_authorised
    exact hrest

theorem Deletion.exists_last (layer : LayerId) (deletion : Deletion) :
    ∃ calls reply, deletion.calls layer = calls ++ [(.deleteLayer layer, .ok reply)] ∧
      reply.status ≠ 500 := by
  cases deletion with
  | direct reply accepted => exact ⟨[], reply, rfl, status_ne_of_accepted accepted⟩
  | afterGroup refusal groupReply retry accepted =>
    exact ⟨[_, _], retry, rfl, status_ne_of_accepted accepted⟩

theorem lookup_authorised (deletion : Deletion) (answer : Answer)
    (verify : policy.verifyDeletion = true) (hrest : Quiet rest) :
    AuthorisedAfter policy earlier report
      (deletion.calls report.layer ++ [(.lookup report.layer, answer)]) rest := by
  have hquiet : Quiet ((.lookup report.layer, answer) :: rest) := quiet_cons rfl hrest
  apply EveryPlace.append
  . simp only [List.append_assoc]
    exact deletion.authorised earlier report hquiet
  . refine ⟨⟨verify, ?_⟩, trivial⟩
    rcases deletion.exists_last report.layer with ⟨calls, reply, hcalls, hstatus⟩
    rw [hcalls, ← List.append_assoc]
    exact ⟨_, reply, rfl, hstatus⟩

theorem round_authorised {calls : List Exchange}
    (h : AuthorisedAfter policy earlier report calls rest) :
    EveryPlace (fun before x after => Authorised policy before x (after ++ rest)) earlier
      (Round.exchanges ⟨.ok report.document, calls⟩) :=
  ⟨trivial, h⟩

theorem Culling.authorised (c : Culling policy) (hrest : Quiet rest) :
    EveryPlace (fun before x after => Authorised policy before x (after ++ rest)) earlier
      c.round.exchanges := by
  apply round_authorised earlier c.report
  rw [Culling.calls]
  cases hc : c.confirmation with
  | none =>
    rw [Option.toList_none, List.map_nil, List.append_nil]
    exact c.deletion.authorised earlier c.report hrest
  | some found =>
    have verify : policy.verifyDeletion = true := by
      rw [← c.asked, hc]
      rfl
    exact lookup_authorised earlier c.report c.deletion (.ok found) verify hrest

theorem Ending.authorised (ending : Ending) {number : Nat} (hfits : ending.Fits policy number) :
    EveryPlace (Authorised policy) earlier ending.round.exchanges := by
  cases ending with
  | unanswered | clean | limit => exact ⟨trivial, trivial⟩
  | undeleted report failed =>
    have h : AuthorisedAfter policy earlier report _ [] :=
      failed.authorised earlier report quiet_nil
    simp only [AuthorisedAfter, List.append_nil] at h
    exact ⟨trivial, h⟩
  | unconfirmed report deletion doubt =>
    have h := lookup_authorised earlier report deletion doubt.answer hfits.2 quiet_nil
    simp only [AuthorisedAfter, List.append_nil] at h
    exact ⟨trivial, h⟩

end Round

-- What follows a round that came through begins with the next capabilities call.
theorem quiet_rest (cs : List (Culling policy)) (ending : Ending) :
    Quiet (cs.flatMap (·.round.exchanges) ++ ending.round.exchanges) := by
  cases cs with
  | nil =>
    cases ending with
    | unanswered fault => exact quiet_cons rfl quiet_nil
    | clean | limit | undeleted | unconfirmed => apply quiet_document
  | cons c cs => apply quiet_document

theorem rounds_authorised (cs : List (Culling policy)) {ending : Ending} {number : Nat}
    (hfits : ending.Fits policy number) (earlier : List Exchange) :
    EveryPlace (Authorised policy) earlier
      (cs.flatMap (·.round.exchanges) ++ ending.round.exchanges) := by
  induction cs generalizing earlier with
  | nil => exact ending.authorised earlier hfits
  | cons c cs ih =>
    rw [List.flatMap_cons, List.append_assoc]
    apply EveryPlace.append
    . exact c.authorised earlier (quiet_rest cs ending)
    . apply ih

theorem entries_authorised (course : Course policy) :
    EveryPlace (Authorised policy) [] (exchanges course.entries) := by
  rw [exchanges_entries, rounds, List.flatMap_append, List.flatMap_map, List.flatMap_singleton]
  exact rounds_authorised course.cullings course.fits []

end Course

theorem Cleanup.exchanges_of_dryRun {policy : Policy} (hdry : policy.dryRun = true) {σ : Type}
    (respond : Counterpart Call Answer σ) (state : σ) :
    ∃ answer, exchanges ((Cleanup.run policy).run respond state).1.entries =
      [(.capabilities, answer)] := by
  have h := admits_run respond (Cleanup.run policy) state
  generalize ((Cleanup.run policy).run respond state).1 = transcript at h
  rw [Course.run_eq_of_dryRun hdry] at h
  rcases h with ⟨_, he, _, rfl, h⟩
  rw [he, exchanges_cons_note, exchanges_cons_note]
  rcases Course.probe_bind_admits.1 h with ⟨fault, rfl, _⟩ | ⟨document, _, rfl, _, rfl, rfl, _⟩
  . exact ⟨.error fault, rfl⟩
  . exact ⟨.ok document, rfl⟩

theorem Cleanup.run_everyPlace_authorised (policy : Policy) {σ : Type}
    (respond : Counterpart Call Answer σ) (state : σ) :
    EveryPlace (Authorised policy) []
      (exchanges ((Cleanup.run policy).run respond state).1.entries) := by
  cases hdry : policy.dryRun with
  | false =>
    rcases Course.run_course hdry respond state with ⟨course, hrun⟩
    rw [hrun]
    exact course.entries_authorised
  | true =>
    rcases Cleanup.exchanges_of_dryRun hdry respond state with ⟨answer, hrun⟩
    rw [hrun]
    exact ⟨trivial, trivial⟩

/-- Every call of a cleanup, whoever answers, is authorised and is about an identifier. -/
theorem Cleanup.run_authorised (policy : Policy) {σ : Type} (respond : Counterpart Call Answer σ)
    (state : σ) {before after : List Exchange} {call : Call} {answer : Answer}
    (h : exchanges ((Cleanup.run policy).run respond state).1.entries =
      before ++ (call, answer) :: after) :
    Authorised policy before (call, answer) after ∧
      ∀ id ∈ call.subject?, Uuid.Grouped id.text.toList := by
  constructor
  . have hall := Cleanup.run_everyPlace_authorised policy respond state
    rw [h] at hall
    exact hall.apply
  . intro id _
    exact Uuid.shaped_iff_grouped.1 id.shaped

open Script in
theorem Cleanup.run_authorised_heldLayer :
    Authorised ⟨1, true, false⟩
      [(.capabilities, .ok ⟨200, Marker.metadataFailure.saying sampleLayer⟩),
        (.deleteLayer sampleLayer, .ok ⟨500, Marker.groupReference.saying sampleGroup⟩)]
      (.deleteGroup sampleGroup, .ok ⟨200, ""⟩)
      [(.deleteLayer sampleLayer, .ok ⟨200, ""⟩), (.lookup sampleLayer, absent),
        (.capabilities, cleanDocument)] ∧
      ∀ id ∈ (Call.deleteGroup sampleGroup).subject?, Uuid.Grouped id.text.toList := by
  apply Cleanup.run_authorised ⟨1, true, false⟩ respond heldLayer
  decide +kernel

end LayerCull
