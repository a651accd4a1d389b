import LayerCull.Proofs.Course.Opening

/-!
This module contains the proof that the look-ups of a cleanup change nothing else: `withoutLookups`
leaves them out of a transcript, `Observes` compares what is left with a run that makes none, and
`run_observes` states it of every server that ignores look-ups.
-/

namespace LayerCull

open Dialogue

def Call.isLookup : Call → Bool
  | .lookup _ => true
  | _ => false

/-- What is answered to the other calls does not depend on the look-ups before them. -/
def IgnoresLookups {σ : Type} (respond : Counterpart Call Answer σ) (state : σ) : Prop :=
  ∀ (before : List Call) (call : Call), call.isLookup = false →
    (respond call (after respond before state)).1 =
      (respond call (after respond (before.filter (!·.isLookup)) state)).1

/-- What the look-up of a layer writes if it gets the answer. -/
def lookupEntries (layer : LayerId) (answer : Answer) : Entries :=
  ((confirmGone layer).run (fun _ _ => (answer, ())) ()).1.entries

/-- Leaves out the look-ups, and the notes that they make. -/
def withoutLookups : Entries → Entries
  | [] => []
  | .exchange (.lookup layer) answer :: rest =>
    withoutLookups (rest.drop (lookupEntries layer answer).tail.length)
  | entry :: rest => entry :: withoutLookups rest
termination_by entries => entries.length
decreasing_by
  . rw [List.length_drop, List.length_cons]
    omega
  . exact Nat.lt_succ_self _

def EndsAtLookup (transcript : Transcript Call Answer Summary) : Prop :=
  ∃ layer answer, (exchanges transcript.entries).getLast? = some (.lookup layer, answer)

/-- Every look-up finds no layer. -/
def AllConfirmed (transcript : Transcript Call Answer Summary) : Prop :=
  ∀ layer answer, (.lookup layer, answer) ∈ exchanges transcript.entries →
    ∃ found, answer = .ok found ∧ found.status = 404

/-- The run ends at a look-up if and only if its result is a failure of that look-up. -/
def StoppedByLookup (transcript : Transcript Call Answer Summary) : Prop :=
  EndsAtLookup transcript ↔
    (∃ layer status, transcript.result = .error (.stillPresent layer status)) ∨
    (∃ layer status body, transcript.result = .error (.unverified layer status body)) ∨
    ∃ layer fault, transcript.result = .error (.transport fault) ∧
      (exchanges transcript.entries).getLast? = some (.lookup layer, .error fault)

/-- But for the look-ups, the runs do the same and end in the same way. -/
structure SameButLookups (verifying plain : Transcript Call Answer Summary) : Prop where
  calls : (exchanges verifying.entries).filter (!·.1.isLookup) = exchanges plain.entries
  events : progress (withoutLookups verifying.entries) = progress plain.entries
  entries : withoutLog (withoutLookups verifying.entries) = withoutLog plain.entries
  result : verifying.result = plain.result

/-- The run that looks every layer up does what the other one does, until a look-up stops it. -/
structure Observes (verifying plain : Transcript Call Answer Summary) : Prop where
  calls : (exchanges verifying.entries).filter (!·.1.isLookup) <+: exchanges plain.entries
  events : progress (withoutLookups verifying.entries) <+: progress plain.entries
  entries : withoutLog (withoutLookups verifying.entries) <+: withoutLog plain.entries
  same : ¬EndsAtLookup verifying → SameButLookups verifying plain
  confirmed : AllConfirmed verifying → SameButLookups verifying plain
  stopped : StoppedByLookup verifying

theorem SameButLookups.of_entries {verifying plain : Transcript Call Answer Summary}
    (hcalls : (exchanges verifying.entries).filter (!·.1.isLookup) = exchanges plain.entries)
    (hentries : withoutLog (withoutLookups verifying.entries) = withoutLog plain.entries)
    (hresult : verifying.result = plain.result) : SameButLookups verifying plain where
  calls := hcalls
  events := by rw [← progress_withoutLog, hentries, progress_withoutLog]
  entries := hentries
  result := hresult

theorem Observes.of_same {verifying plain : Transcript Call Answer Summary}
    (h : SameButLookups verifying plain) (hstopped : StoppedByLookup verifying) :
    Observes verifying plain where
  calls := h.calls ▸ List.prefix_refl _
  events := h.events ▸ List.prefix_refl _
  entries := h.entries ▸ List.prefix_refl _
  same _ := h
  confirmed _ := h
  stopped := hstopped

theorem Observes.of_stopped {verifying plain : Transcript Call Answer Summary}
    (hcalls : (exchanges verifying.entries).filter (!·.1.isLookup) <+: exchanges plain.entries)
    (hentries : withoutLog (withoutLookups verifying.entries) <+: withoutLog plain.entries)
    (hends : EndsAtLookup verifying) (hconfirmed : ¬AllConfirmed verifying)
    (hstopped : StoppedByLookup verifying) : Observes verifying plain where
  calls := hcalls
  events := by
    rw [← progress_withoutLog, ← progress_withoutLog plain.entries]
    exact hentries.filterMap _
  entries := hentries
  same h := absurd hends h
  confirmed h := absurd h hconfirmed
  stopped := hstopped

section Replies

variable {σ : Type} {respond : Counterpart Call Answer σ} {state : σ}

theorem exists_replies_of_ignoresLookups (h : IgnoresLookups respond state) (before : List Call)
    {xs : List Exchange} {last : σ} (hr : Replies respond xs (after respond before state) last) :
    ∃ last', Replies respond (xs.filter (!·.1.isLookup))
      (after respond (before.filter (!·.isLookup)) state) last' := by
  -- A look-up may move the server on: the two states are those after the calls so far, with the
  -- look-ups and without them.
  induction xs generalizing before with
  | nil => exact ⟨_, rfl⟩
  | cons x xs ih =>
    rcases x with ⟨call, answer⟩
    rcases hr with ⟨next, hnext, hr⟩
    have hafter : next = after respond (before ++ [call]) state := by
      rw [after_concat, hnext]
    rw [hafter] at hr
    rcases ih _ hr with ⟨last', hrest⟩
    refine ⟨last', ?_⟩
    rw [List.filter_append] at hrest
    cases hlookup : call.isLookup with
    | true =>
      rw [List.filter_cons_of_neg (by simp [hlookup])]
      rw [List.filter_cons_of_neg (by simp [hlookup]), List.filter_nil, List.append_nil] at hrest
      exact hrest
    | false =>
      rw [List.filter_cons_of_pos (by simp [hlookup])]
      rw [List.filter_cons_of_pos (by simp [hlookup]), List.filter_nil, after_concat] at hrest
      have hanswer := h before call hlookup
      rw [hnext] at hanswer
      refine ⟨_, ?_, hrest⟩
      exact Prod.ext hanswer.symm rfl

end Replies

section Without

theorem withoutLookups_cons {entry : Entry Call Answer}
    (h : ∀ layer answer, entry ≠ .exchange (.lookup layer) answer) (rest : Entries) :
    withoutLookups (entry :: rest) = entry :: withoutLookups rest := by
  rw [withoutLookups]
  exact h

theorem withoutLookups_append_of_no_lookup {front : Entries}
    (h : ∀ x ∈ exchanges front, x.1.isLookup = false) (rest : Entries) :
    withoutLookups (front ++ rest) = front ++ withoutLookups rest := by
  induction front with
  | nil => rfl
  | cons entry front ih =>
    rw [List.cons_append, withoutLookups_cons, ih]
    . rfl
    . intro x hx
      apply h
      cases entry with
      | note n => exact hx
      | exchange call answer => exact List.mem_cons_of_mem _ hx
    . rintro layer answer rfl
      exact absurd (h _ List.mem_cons_self) (by simp [Call.isLookup])

theorem filter_eq_self_of_no_lookup {xs : List Exchange} (hxs : ∀ x ∈ xs, x.1.isLookup = false) :
    xs.filter (!·.1.isLookup) = xs := by
  rw [List.filter_eq_self]
  intro x hx
  rw [hxs x hx]
  rfl

theorem withoutLookups_lookupEntries_append (layer : LayerId) (answer : Answer) (rest : Entries) :
    withoutLookups (lookupEntries layer answer ++ rest) = withoutLookups rest := by
  have hhead : lookupEntries layer answer =
      .exchange (.lookup layer) answer :: (lookupEntries layer answer).tail :=
    rfl
  rw [hhead, List.cons_append, withoutLookups, List.drop_left]

theorem lookupEntries_eq_of_admits {layer : LayerId} {answer : Answer} {entries : Entries}
    {result : Except Failure Unit} (hd : (confirmGone layer).Admits entries result)
    (h : exchanges entries = [(.lookup layer, answer)]) : lookupEntries layer answer = entries := by
  have hreplies : Replies (fun _ _ => (answer, ())) (exchanges entries) () () := by
    rw [h]
    exact ⟨(), rfl, rfl⟩
  rw [lookupEntries, run_eq_of_admits hd hreplies]

end Without

namespace Course

variable {policy other : Policy}

theorem confirmEntries_eq (layer : LayerId) {found : Response} (gone : found.isNotFound = true) :
    confirmEntries layer found = lookupEntries layer (.ok found) :=
  (lookupEntries_eq_of_admits (confirmGone_admits.2 (.inl ⟨found, gone, rfl, rfl⟩)) rfl).symm

theorem Doubt.entries_eq (layer : LayerId) (doubt : Doubt) :
    doubt.entries layer = lookupEntries layer doubt.answer :=
  (lookupEntries_eq_of_admits (confirmGone_admits.2 (.inr ⟨doubt, rfl, rfl⟩))
    (exchanges_doubt layer doubt)).symm

theorem Doubt.status_ne {doubt : Doubt} {found : Response} (h : doubt.answer = .ok found) :
    found.status ≠ 404 := by
  cases doubt with
  | unanswered fault => contradiction
  | present found there | unclear found there =>
    cases h
    exact status_ne_of_there there

theorem isLookup_deletion {layer : LayerId} {deletion : Deletion} :
    ∀ x ∈ deletion.calls layer, x.1.isLookup = false := by
  cases deletion <;> simp [Deletion.calls, Call.isLookup]

theorem isLookup_failed {layer : LayerId} {failed : Failed} :
    ∀ x ∈ failed.calls layer, x.1.isLookup = false := by
  cases failed <;> simp [Failed.calls, Call.isLookup]

/-- The round of a cleanup that does not look its layers up. -/
def Culling.unasked (h : other.verifyDeletion = false) (report : Report) (deletion : Deletion) :
    Culling other :=
  ⟨report, deletion, none, h.symm, by simp⟩

/-- The same round, in a cleanup that does not look its layers up. -/
def Culling.plain (h : other.verifyDeletion = false) (c : Culling policy) : Culling other :=
  .unasked h c.report c.deletion

section Plain

variable (h : other.verifyDeletion = false)

theorem Culling.exchanges_unasked (report : Report) (deletion : Deletion) :
    (Culling.unasked h report deletion).round.exchanges =
      (.capabilities, .ok report.document) :: deletion.calls report.layer :=
  congrArg (_ :: ·) (List.append_nil _)

theorem Culling.entries_unasked (report : Report) (deletion : Deletion) (number : Nat) :
    (Culling.unasked h report deletion).entries number =
      probeEntries report.document ++ .note (.log (.iterationStarted number report.layer)) ::
        deletion.entries report.layer := by
  rw [Culling.entries, Culling.layer]
  simp [Culling.unasked]

theorem withoutLookups_unasked (report : Report) (deletion : Deletion) (number : Nat)
    (rest : Entries) :
    withoutLookups ((Culling.unasked h report deletion).entries number ++ rest) =
      (Culling.unasked h report deletion).entries number ++ withoutLookups rest := by
  apply withoutLookups_append_of_no_lookup
  rw [exchanges_culling, Culling.exchanges_unasked]
  intro x hx
  rcases List.mem_cons.1 hx with rfl | hx
  . rfl
  . exact isLookup_deletion x hx

theorem withoutLookups_culling (c : Culling policy) (number : Nat) (rest : Entries) :
    withoutLookups (c.entries number ++ rest) =
      (c.plain h).entries number ++ withoutLookups rest := by
  have hentries : c.entries number ++ rest = (c.plain h).entries number ++
      (c.confirmation.toList.flatMap (confirmEntries c.layer) ++ rest) := by
    rw [Culling.plain, Culling.entries_unasked, Culling.entries]
    simp [Culling.layer]
  rw [hentries, Culling.plain, withoutLookups_unasked]
  cases hc : c.confirmation with
  | none => rfl
  | some found =>
    have gone := c.confirmed found hc
    rw [Option.toList_some, List.flatMap_singleton, confirmEntries_eq c.layer gone,
      withoutLookups_lookupEntries_append]

theorem withoutLookups_cullEntries (cs : List (Culling policy)) (summary : Summary)
    (rest : Entries) :
    withoutLookups (cullEntries cs summary ++ rest) =
      cullEntries (cs.map (Culling.plain h)) summary ++ withoutLookups rest := by
  induction cs generalizing summary with
  | nil => rfl
  | cons c cs ih =>
    rw [cullEntries, List.append_assoc, withoutLookups_culling h, ih, List.map_cons, cullEntries,
      List.append_assoc]
    rfl

theorem tally_plain (cs : List (Culling policy)) (summary : Summary) :
    tally (cs.map (Culling.plain h)) summary = tally cs summary := by
  rw [tally, List.foldl_map]
  rfl

theorem filter_culling (c : Culling policy) :
    c.round.exchanges.filter (!·.1.isLookup) = (c.plain h).round.exchanges := by
  have hconfirm : (c.confirmation.toList.map fun found =>
      ((.lookup c.layer, .ok found) : Exchange)).filter (!·.1.isLookup) = [] := by
    rw [List.filter_eq_nil_iff]
    simp [Call.isLookup]
  have hcalls : c.calls.filter (!·.1.isLookup) = c.deletion.calls c.layer := by
    rw [Culling.calls, List.filter_append, filter_eq_self_of_no_lookup isLookup_deletion, hconfirm,
      List.append_nil]
  rw [Culling.plain, Culling.exchanges_unasked]
  exact congrArg (_ :: ·) hcalls

theorem filter_cullings (cs : List (Culling policy)) :
    (cs.flatMap (·.round.exchanges)).filter (!·.1.isLookup) =
      (cs.map (Culling.plain h)).flatMap (·.round.exchanges) := by
  rw [List.filter_flatMap, List.flatMap_map]
  congr
  funext c
  exact filter_culling h c

end Plain

theorem Ending.isLookup_exchanges {ending : Ending}
    (hending : ∀ report deletion doubt, ending ≠ .unconfirmed report deletion doubt) :
    ∀ x ∈ ending.round.exchanges, x.1.isLookup = false := by
  cases ending with
  | unanswered | clean | limit => simp [Ending.round, Round.exchanges, Call.isLookup]
  | undeleted report failed =>
    intro x hx
    rcases List.mem_cons.1 hx with rfl | hx
    . rfl
    . exact isLookup_failed x hx
  | unconfirmed report deletion doubt => exact absurd rfl (hending report deletion doubt)

theorem Ending.fits_plain {ending : Ending} {number : Nat}
    (hlimit : policy.maxIterations = other.maxIterations) (hfits : ending.Fits policy number)
    (hending : ∀ report deletion doubt, ending ≠ .unconfirmed report deletion doubt) :
    ending.Fits other number := by
  cases ending with
  | unanswered | clean | limit | undeleted => simpa [Fits, hlimit] using hfits
  | unconfirmed report deletion doubt => exact absurd rfl (hending report deletion doubt)

theorem Ending.result_plain (hlimit : policy.maxIterations = other.maxIterations)
    (summary : Summary) (ending : Ending) :
    ending.result other summary = ending.result policy summary := by
  cases ending with
  | limit report => rw [result, result, hlimit]
  | unanswered | clean | undeleted | unconfirmed => rfl

theorem Ending.getLast?_unconfirmed (report : Report) (deletion : Deletion) (doubt : Doubt) :
    (Ending.unconfirmed report deletion doubt).round.exchanges.getLast? =
      some (.lookup report.layer, doubt.answer) := by
  rw [round, Round.exchanges, ← List.cons_append]
  exact List.getLast?_concat

theorem endsAtLookup_iff {course : Course policy} :
    EndsAtLookup ⟨course.entries, course.result⟩ ↔
      ∃ report deletion doubt, course.ending = .unconfirmed report deletion doubt := by
  constructor
  . rintro ⟨layer, answer, hlast⟩
    rw [getLast?_exchanges] at hlast
    have hmem := List.mem_of_getLast? hlast
    apply Classical.byContradiction
    intro hending
    have hlookup := Ending.isLookup_exchanges (by simpa using hending) _ hmem
    exact absurd hlookup (by simp [Call.isLookup])
  . rintro ⟨report, deletion, doubt, hending⟩
    refine ⟨report.layer, doubt.answer, ?_⟩
    rw [getLast?_exchanges, hending, Ending.getLast?_unconfirmed]

-- Only a look-up fails in these ways.
theorem Ending.exists_of_doubted {ending : Ending} {summary : Summary} {failure : Failure}
    (hresult : ending.result policy summary = .error failure)
    (hfailure : (∃ layer status, failure = .stillPresent layer status) ∨
      ∃ layer status body, failure = .unverified layer status body) :
    ∃ report deletion doubt, ending = .unconfirmed report deletion doubt := by
  rcases hfailure with ⟨layer, status, rfl⟩ | ⟨layer, status, body, rfl⟩
  all_goals
    cases ending with
    | unanswered | clean | limit => simp [result] at hresult
    | undeleted report failed => cases failed <;> simp [result, Failed.failure] at hresult
    | unconfirmed report deletion doubt => exact ⟨report, deletion, doubt, rfl⟩

theorem stoppedByLookup (course : Course policy) :
    StoppedByLookup ⟨course.entries, course.result⟩ := by
  constructor
  . intro hends
    rcases endsAtLookup_iff.1 hends with ⟨report, deletion, doubt, hending⟩
    rw [getLast?_exchanges, Course.result, hending, Ending.getLast?_unconfirmed]
    cases doubt with
    | present found there success => exact .inl ⟨report.layer.text, found.status, rfl⟩
    | unclear found there failure =>
      exact .inr (.inl ⟨report.layer.text, found.status, found.body, rfl⟩)
    | unanswered fault => exact .inr (.inr ⟨report.layer, fault, rfl, rfl⟩)
  . intro hresult
    rcases hresult with ⟨layer, status, hresult⟩ | ⟨layer, status, body, hresult⟩ |
      ⟨layer, fault, _, hlast⟩
    . exact endsAtLookup_iff.2 (Ending.exists_of_doubted hresult (.inl ⟨layer, status, rfl⟩))
    . exact endsAtLookup_iff.2 (Ending.exists_of_doubted hresult (.inr ⟨layer, status, body, rfl⟩))
    . exact ⟨layer, .error fault, hlast⟩

section Entries

variable (course : Course policy) (h : other.verifyDeletion = false)

theorem withoutLookups_entries :
    withoutLookups course.entries =
      startEntries policy ++ (cullEntries (course.cullings.map (Culling.plain h)) {} ++
        withoutLookups (course.ending.entries course.summary)) := by
  rw [entries, List.append_assoc, withoutLookups_append_of_no_lookup, withoutLookups_cullEntries h]
  exact List.forall_mem_nil _

theorem filter_exchanges :
    (exchanges course.entries).filter (!·.1.isLookup) =
      (course.cullings.map (Culling.plain h)).flatMap (·.round.exchanges) ++
        course.ending.round.exchanges.filter (!·.1.isLookup) := by
  rw [exchanges_entries, flatMap_exchanges_rounds, List.filter_append, filter_cullings h]

end Entries

section Passed

variable (course : Course policy) (h : other.verifyDeletion = false)
  (hlimit : policy.maxIterations = other.maxIterations)
  (hending : ∀ report deletion doubt, course.ending ≠ .unconfirmed report deletion doubt)

def plain : Course other where
  cullings := course.cullings.map (Culling.plain h)
  ending := course.ending
  fits := by
    rw [List.length_map]
    exact Ending.fits_plain hlimit course.fits hending

theorem summary_plain : (course.plain h hlimit hending).summary = course.summary :=
  tally_plain h course.cullings {}

theorem result_plain : (course.plain h hlimit hending).result = course.result := by
  rw [Course.result, summary_plain]
  exact Ending.result_plain hlimit course.summary course.ending

theorem exchanges_plain :
    exchanges (course.plain h hlimit hending).entries =
      (exchanges course.entries).filter (!·.1.isLookup) := by
  rw [course.filter_exchanges h, filter_eq_self_of_no_lookup (Ending.isLookup_exchanges hending),
    exchanges_entries, flatMap_exchanges_rounds]
  rfl

theorem withoutLog_plain :
    withoutLog (course.plain h hlimit hending).entries =
      withoutLog (withoutLookups course.entries) := by
  have hnone := Ending.isLookup_exchanges hending
  rw [← exchanges_ending course.summary] at hnone
  have hrest := withoutLookups_append_of_no_lookup hnone []
  rw [List.append_nil, withoutLookups, List.append_nil] at hrest
  rw [course.withoutLookups_entries h, hrest, entries, summary_plain, List.append_assoc]
  rfl

include h hlimit hending in
theorem run_plain_of_passed (hdry : other.dryRun = false) {σ : Type}
    {respond : Counterpart Call Answer σ} {first last : σ}
    (hr : Replies respond ((exchanges course.entries).filter (!·.1.isLookup)) first last) :
    SameButLookups ⟨course.entries, course.result⟩ ((Cleanup.run other).run respond first).1 := by
  rw [← course.exchanges_plain h hlimit hending, exchanges_entries] at hr
  rw [run_eq_of_replies (course.plain h hlimit hending) hdry hr]
  apply SameButLookups.of_entries
  . exact (course.exchanges_plain h hlimit hending).symm
  . exact (course.withoutLog_plain h hlimit hending).symm
  . exact (course.result_plain h hlimit hending).symm

end Passed

section Stopped

variable (course : Course policy) (h : other.verifyDeletion = false) {report : Report}
  {deletion : Deletion} {doubt : Doubt} (hending : course.ending = .unconfirmed report deletion doubt)

include hending in
theorem filter_exchanges_of_stopped :
    (exchanges course.entries).filter (!·.1.isLookup) =
      (course.cullings.map (Culling.plain h) ++ [Culling.unasked h report deletion]).flatMap
        (·.round.exchanges) := by
  have hlast : course.ending.round.exchanges.filter (!·.1.isLookup) =
      (Culling.unasked h report deletion).round.exchanges := by
    rw [hending, Ending.round, Round.exchanges, List.filter_cons_of_pos rfl, List.filter_append,
      filter_eq_self_of_no_lookup isLookup_deletion, Culling.exchanges_unasked]
    exact congrArg (_ :: ·) (List.append_nil _)
  rw [course.filter_exchanges h, hlast, List.flatMap_append, List.flatMap_singleton]

include hending in
theorem withoutLookups_entries_of_stopped :
    withoutLookups course.entries =
      startEntries policy ++
        cullEntries (course.cullings.map (Culling.plain h) ++ [Culling.unasked h report deletion])
          {} := by
  have hlast : course.ending.entries course.summary =
      (Culling.unasked h report deletion).entries (course.summary.iterations + 1) ++
        (lookupEntries report.layer doubt.answer ++ []) := by
    rw [hending, Ending.entries, Culling.entries_unasked, ← doubt.entries_eq]
    simp
  rw [course.withoutLookups_entries h, hlast, withoutLookups_unasked,
    withoutLookups_lookupEntries_append, withoutLookups, List.append_nil, cullEntries_append,
    tally_plain, cullEntries, cullEntries, List.append_nil]
  rfl

include hending in
theorem not_allConfirmed : ¬AllConfirmed ⟨course.entries, course.result⟩ := by
  intro hconfirmed
  have hlast : (.lookup report.layer, doubt.answer) ∈ exchanges course.entries := by
    apply List.mem_of_getLast?
    rw [getLast?_exchanges, hending, Ending.getLast?_unconfirmed]
  rcases hconfirmed _ _ hlast with ⟨found, hanswer, hstatus⟩
  exact doubt.status_ne hanswer hstatus

include hending in
theorem run_plain_of_stopped (hdry : other.dryRun = false)
    (hlimit : policy.maxIterations = other.maxIterations) {σ : Type}
    {respond : Counterpart Call Answer σ} {first last : σ}
    (hr : Replies respond ((exchanges course.entries).filter (!·.1.isLookup)) first last) :
    ∃ later, ((Cleanup.run other).run respond first).1.entries =
      startEntries other ++
        cullEntries (course.cullings.map (Culling.plain h) ++ [Culling.unasked h report deletion])
          {} ++ later := by
  -- Without its look-up, the last round is one that came through.
  have hfits := course.fits
  rw [hending] at hfits
  have hlength : (course.cullings.map (Culling.plain h) ++
      [Culling.unasked h report deletion]).length ≤ other.maxIterations := by
    rw [List.length_append, List.length_map, ← hlimit]
    exact hfits.1
  rw [course.filter_exchanges_of_stopped h hending] at hr
  rw [run_eq_of_opening _ hdry hlength hr]
  exact ⟨_, rfl⟩

include h hending in
theorem run_observes_of_stopped (hdry : other.dryRun = false)
    (hlimit : policy.maxIterations = other.maxIterations) {σ : Type}
    {respond : Counterpart Call Answer σ} {first last : σ}
    (hr : Replies respond ((exchanges course.entries).filter (!·.1.isLookup)) first last) :
    Observes ⟨course.entries, course.result⟩ ((Cleanup.run other).run respond first).1 := by
  rcases course.run_plain_of_stopped h hending hdry hlimit hr with ⟨later, hlater⟩
  apply Observes.of_stopped
  . rw [course.filter_exchanges_of_stopped h hending, hlater, exchanges_append, exchanges_append,
      exchanges_cullEntries]
    exact List.prefix_append _ _
  . rw [course.withoutLookups_entries_of_stopped h hending, hlater, withoutLog_append _ later]
    exact List.prefix_append _ _
  . exact endsAtLookup_iff.2 ⟨report, deletion, doubt, hending⟩
  . exact course.not_allConfirmed hending
  . exact course.stoppedByLookup

end Stopped

theorem run_observes_of_ignoresLookups (hdry : policy.dryRun = false) (hother : other.dryRun = false)
    (h : other.verifyDeletion = false) (hlimit : policy.maxIterations = other.maxIterations)
    {σ : Type} {respond : Counterpart Call Answer σ} {state : σ}
    (hignores : IgnoresLookups respond state) :
    Observes ((Cleanup.run policy).run respond state).1
      ((Cleanup.run other).run respond state).1 := by
  rcases run_course hdry respond state with ⟨course, hrun⟩
  have hreplies := replies_run respond (Cleanup.run policy) state
  rw [hrun] at hreplies
  rcases exists_replies_of_ignoresLookups hignores [] hreplies with ⟨last, hr⟩
  rw [hrun]
  by_cases hending : ∃ report deletion doubt, course.ending = .unconfirmed report deletion doubt
  . rcases hending with ⟨report, deletion, doubt, hending⟩
    exact course.run_observes_of_stopped h hending hother hlimit hr
  . apply Observes.of_same _ course.stoppedByLookup
    apply course.run_plain_of_passed h hlimit _ hother hr
    simpa using hending

end Course

/-- A server that ignores look-ups sees the same cleanup with and without them. -/
theorem Cleanup.run_observes (limit : Nat) {σ : Type} {respond : Counterpart Call Answer σ}
    {state : σ} (h : IgnoresLookups respond state) :
    Observes ((Cleanup.run ⟨limit, true, false⟩).run respond state).1
      ((Cleanup.run ⟨limit, false, false⟩).run respond state).1 :=
  @Course.run_observes_of_ignoresLookups ⟨limit, true, false⟩ ⟨limit, false, false⟩ rfl rfl rfl rfl
    _ _ _ h

namespace Script

theorem exists_lookups_after (before : List Call) (script : Script) (lookups : List Answer) :
    ∃ lookups', after respond (before.filter (!·.isLookup)) { script with lookups } =
      { after respond before script with lookups := lookups' } := by
  induction before generalizing script lookups with
  | nil => exact ⟨lookups, rfl⟩
  | cons call before ih =>
    cases call with
    | capabilities => exact ih (respond .capabilities script).2 lookups
    | deleteLayer layer => exact ih (respond (.deleteLayer layer) script).2 lookups
    | deleteGroup group => exact ih (respond (.deleteGroup group) script).2 lookups
    | lookup layer => exact ih (respond (.lookup layer) script).2 lookups

/-- The answers to each kind of call are prepared for themselves. -/
theorem respond_ignoresLookups (script : Script) : IgnoresLookups respond script := by
  intro before call hcall
  rcases exists_lookups_after before script script.lookups with ⟨lookups, hlookups⟩
  rw [show { script with lookups := script.lookups } = script from rfl] at hlookups
  rw [hlookups]
  cases call with
  | capabilities | deleteLayer | deleteGroup => rfl
  | lookup => contradiction

/-- The layer can be deleted, and is there all the same. -/
def persistingLayer : Script :=
  { heldLayer with lookups := [.ok ⟨200, "{}"⟩] }

end Script

open Script in
theorem Cleanup.run_observes_persistingLayer :
    IgnoresLookups respond persistingLayer ∧
      ((Cleanup.run ⟨2, true, false⟩).run respond persistingLayer).1.result =
        .error (.stillPresent sampleLayer.text 200) ∧
      Observes ((Cleanup.run ⟨2, true, false⟩).run respond persistingLayer).1
        ((Cleanup.run ⟨2, false, false⟩).run respond persistingLayer).1 :=
  ⟨respond_ignoresLookups persistingLayer, by decide +kernel,
    Cleanup.run_observes 2 (respond_ignoresLookups persistingLayer)⟩

end LayerCull
