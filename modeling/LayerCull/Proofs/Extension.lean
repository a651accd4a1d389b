import LayerCull.Proofs.Course.Opening
import LayerCull.Proofs.Limit

/-!
This module contains the proof that a higher limit does not change what a cleanup does below the lower
one: `Extends` compares the two runs, and `run_extends` states it of every pair of limits.
-/

namespace LayerCull

open Dialogue

/-- The runs make the same calls, tell the same, and end in the same way. -/
structure SameButLog (short long : Transcript Call Answer Summary) : Prop where
  calls : exchanges long.entries = exchanges short.entries
  events : progress long.entries = progress short.entries
  entries : withoutLog long.entries = withoutLog short.entries
  result : long.result = short.result

/-- The run with the higher limit does what the one with the lower limit does. It goes on where the
limit has stopped that one, with the deletion of the layer that was reported last. -/
structure Extends (limit higher : Nat) (short long : Transcript Call Answer Summary) : Prop where
  same : (∀ k, short.result ≠ .error (.iterationLimit k)) → SameButLog short long
  calls : exchanges short.entries <+: exchanges long.entries
  events : progress short.entries <+: progress long.entries
  entries : withoutLog short.entries <+: withoutLog long.entries
  next : limit < higher → ∀ k, short.result = .error (.iterationLimit k) →
    ∃ before document layer answer later,
      exchanges short.entries = before ++ [(.capabilities, .ok document)] ∧
        badLayer? document.body = some layer ∧
        withoutLog long.entries =
          withoutLog short.entries ++ .exchange (.deleteLayer layer) answer :: later

section Extends

variable {limit higher : Nat} {short long : Transcript Call Answer Summary}

theorem SameButLog.of_entries (hentries : withoutLog long.entries = withoutLog short.entries)
    (hresult : long.result = short.result) : SameButLog short long where
  calls := by rw [← exchanges_withoutLog, hentries, exchanges_withoutLog]
  events := by rw [← progress_withoutLog, hentries, progress_withoutLog]
  entries := hentries
  result := hresult

theorem Extends.refl (limit : Nat) (transcript : Transcript Call Answer Summary) :
    Extends limit limit transcript transcript where
  same _ := ⟨rfl, rfl, rfl, rfl⟩
  calls := List.prefix_refl _
  events := List.prefix_refl _
  entries := List.prefix_refl _
  next hlt := absurd hlt (Nat.lt_irrefl limit)

theorem Extends.of_same (hresult : ∀ k, short.result ≠ .error (.iterationLimit k))
    (h : SameButLog short long) : Extends limit higher short long where
  same _ := h
  calls := h.calls ▸ List.prefix_refl _
  events := h.events ▸ List.prefix_refl _
  entries := h.entries ▸ List.prefix_refl _
  next _ k hk := absurd hk (hresult k)

theorem Extends.of_next {k : Nat} {before : List Exchange} {report : Course.Report}
    {answer : Answer} {later : Entries} (hresult : short.result = .error (.iterationLimit k))
    (hlast : exchanges short.entries = before ++ [(.capabilities, .ok report.document)])
    (hnext : withoutLog long.entries =
      withoutLog short.entries ++ .exchange (.deleteLayer report.layer) answer :: later) :
    Extends limit higher short long where
  same h := absurd hresult (h k)
  calls := by
    rw [← exchanges_withoutLog long.entries, hnext, exchanges_append, exchanges_withoutLog]
    exact List.prefix_append _ _
  events := by
    rw [← progress_withoutLog long.entries, hnext, progress_append, progress_withoutLog]
    exact List.prefix_append _ _
  entries := ⟨_, hnext.symm⟩
  next _ _ _ := ⟨before, report.document, report.layer, answer, later, hlast, report.named, hnext⟩

end Extends

namespace Course

variable {policy other : Policy}

/-- The same round, in a cleanup with another limit. -/
def Culling.under (h : policy.verifyDeletion = other.verifyDeletion) (c : Culling policy) :
    Culling other :=
  ⟨c.report, c.deletion, c.confirmation, c.asked.trans h, c.confirmed⟩

section Under

variable (h : policy.verifyDeletion = other.verifyDeletion) (cs : List (Culling policy))
  (summary : Summary)

theorem cullEntries_under : cullEntries (cs.map (Culling.under h)) summary = cullEntries cs summary := by
  induction cs generalizing summary with
  | nil => rfl
  | cons c cs ih => exact congrArg (c.entries (summary.iterations + 1) ++ ·) (ih (c.enter summary))

theorem tally_under : tally (cs.map (Culling.under h)) summary = tally cs summary := by
  rw [tally, List.foldl_map]
  rfl

theorem exchanges_under :
    (cs.map (Culling.under h)).flatMap (·.round.exchanges) = cs.flatMap (·.round.exchanges) := by
  rw [List.flatMap_map]
  rfl

end Under

theorem Ending.fits_of_le {ending : Ending} {number : Nat}
    (hverify : policy.verifyDeletion = other.verifyDeletion)
    (hle : policy.maxIterations ≤ other.maxIterations) (hfits : ending.Fits policy number)
    (hlimit : ∀ report, ending ≠ .limit report) : ending.Fits other number := by
  cases ending with
  | unanswered | clean => exact Nat.le_trans hfits hle
  | limit report => exact absurd rfl (hlimit report)
  | undeleted => exact Nat.lt_of_lt_of_le hfits hle
  | unconfirmed => exact ⟨Nat.lt_of_lt_of_le hfits.1 hle, hverify ▸ hfits.2⟩

theorem Ending.result_eq (summary : Summary) {ending : Ending}
    (hlimit : ∀ report, ending ≠ .limit report) :
    ending.result other summary = ending.result policy summary := by
  cases ending with
  | limit report => exact absurd rfl (hlimit report)
  | unanswered | clean | undeleted | unconfirmed => rfl

theorem iterations_summary (course : Course policy) :
    course.summary.iterations = course.cullings.length := by
  rw [summary_eq]

section Other

variable {σ : Type} {respond : Counterpart Call Answer σ} {first middle last : σ}
  (course : Course policy)

theorem run_other (hdry : other.dryRun = false)
    (hverify : policy.verifyDeletion = other.verifyDeletion)
    (hle : policy.maxIterations ≤ other.maxIterations)
    (hr : Replies respond (course.cullings.flatMap (·.round.exchanges)) first middle) :
    ((Cleanup.run other).run respond first).1 =
      let rest := ((Cleanup.cull other (other.maxIterations - course.cullings.length)
        course.summary).run respond middle).1
      ⟨startEntries other ++ cullEntries course.cullings {} ++ rest.entries, rest.result⟩ := by
  have hlength : (course.cullings.map (Culling.under hverify)).length ≤ other.maxIterations := by
    rw [List.length_map]
    exact Nat.le_trans course.fits.le hle
  rw [← exchanges_under hverify] at hr
  rw [run_eq_of_opening _ hdry hlength hr, cullEntries_under, tally_under, List.length_map]
  rfl

theorem run_other_of_not_limit (hdry : other.dryRun = false)
    (hverify : policy.verifyDeletion = other.verifyDeletion)
    (hle : policy.maxIterations ≤ other.maxIterations)
    (hr : Replies respond
      (course.cullings.flatMap (·.round.exchanges) ++ course.ending.round.exchanges) first last)
    (hlimit : ∀ report, course.ending ≠ .limit report) :
    SameButLog ⟨course.entries, course.result⟩ ((Cleanup.run other).run respond first).1 := by
  rcases exists_of_replies_append hr with ⟨middle, hopening, hending⟩
  rw [← exchanges_ending course.summary] at hending
  have hfits : course.ending.Fits other course.summary.iterations := by
    rw [course.iterations_summary]
    exact Ending.fits_of_le hverify hle course.fits hlimit
  have hcount : course.summary.iterations + (other.maxIterations - course.cullings.length) =
      other.maxIterations := by
    have hlength := course.fits.le
    rw [course.iterations_summary]
    omega
  have hrest := run_eq_of_admits (cull_admits_ending hcount hfits) hending
  rw [course.run_other hdry hverify hle hopening, hrest]
  exact .of_entries rfl (Ending.result_eq course.summary hlimit)

theorem run_other_of_limit {report : Report} (hdry : other.dryRun = false)
    (hverify : policy.verifyDeletion = other.verifyDeletion)
    (hlt : policy.maxIterations < other.maxIterations)
    (hr : Replies respond
      (course.cullings.flatMap (·.round.exchanges) ++ course.ending.round.exchanges) first last)
    (hlimit : course.ending = .limit report) :
    ∃ answer later, withoutLog ((Cleanup.run other).run respond first).1.entries =
      withoutLog course.entries ++ .exchange (.deleteLayer report.layer) answer :: later := by
  rcases exists_of_replies_append hr with ⟨middle, hopening, hending⟩
  rw [hlimit] at hending
  have hleft : other.maxIterations - course.cullings.length ≠ 0 := by
    have hlength := course.fits.le
    omega
  rcases Nat.exists_eq_add_one_of_ne_zero hleft with ⟨budget, hbudget⟩
  have hrest := run_of_leads (cull_leads_removal other report budget course.summary) hending
  rcases exists_entries_removeNext report.layer course.summary (Cleanup.cull other budget) respond last
    with ⟨answer, later, hremoval⟩
  refine ⟨answer, withoutLog later, ?_⟩
  rw [course.run_other hdry hverify (Nat.le_of_lt hlt) hopening, hbudget, hrest, hremoval, entries,
    hlimit]
  simp only [Ending.entries, withoutLog_append, withoutLog_cons_log, List.append_assoc]
  rfl

end Other

end Course

theorem Course.run_extends_of_lt {policy other : Policy} (hdry : policy.dryRun = false)
    (hother : other.dryRun = false) (hverify : policy.verifyDeletion = other.verifyDeletion)
    (hlt : policy.maxIterations < other.maxIterations) {σ : Type}
    (respond : Counterpart Call Answer σ) (state : σ) :
    Extends policy.maxIterations other.maxIterations ((Cleanup.run policy).run respond state).1
      ((Cleanup.run other).run respond state).1 := by
  rcases exists_course hdry respond state with ⟨course, last, hrun, hr⟩
  rw [hrun]
  -- Every other ending fits under the higher limit too.
  by_cases hlimit : ∃ report, course.ending = .limit report
  . rcases hlimit with ⟨report, hlimit⟩
    rcases course.run_other_of_limit hother hverify hlt hr hlimit with ⟨answer, later, hnext⟩
    apply Extends.of_next
    . exact result_eq_iterationLimit_iff.2 ⟨rfl, report, hlimit⟩
    . rw [exchanges_entries, flatMap_exchanges_rounds, hlimit]
      rfl
    . exact hnext
  . apply Extends.of_same
    . intro k hk
      exact hlimit (result_eq_iterationLimit_iff.1 hk).2
    . apply course.run_other_of_not_limit hother hverify (Nat.le_of_lt hlt) hr
      intro report hreport
      exact hlimit ⟨report, hreport⟩

/-- Whoever answers, a higher limit only makes a cleanup go on where the lower one stops it. -/
theorem Cleanup.run_extends {limit higher : Nat} (h : limit ≤ higher) (verify : Bool) {σ : Type}
    (respond : Counterpart Call Answer σ) (state : σ) :
    Extends limit higher ((Cleanup.run ⟨limit, verify, false⟩).run respond state).1
      ((Cleanup.run ⟨higher, verify, false⟩).run respond state).1 := by
  rcases Nat.eq_or_lt_of_le h with rfl | hlt
  . apply Extends.refl
  . exact @Course.run_extends_of_lt ⟨limit, verify, false⟩ ⟨higher, verify, false⟩ rfl rfl rfl hlt _
      respond state

open Script in
theorem Cleanup.run_extends_heldLayer :
    0 ≤ 1 ∧
      ((Cleanup.run ⟨0, true, false⟩).run respond heldLayer).1.result =
        .error (.iterationLimit 0) ∧
      Extends 0 1 ((Cleanup.run ⟨0, true, false⟩).run respond heldLayer).1
        ((Cleanup.run ⟨1, true, false⟩).run respond heldLayer).1 :=
  ⟨Nat.zero_le 1, by decide +kernel, Cleanup.run_extends (Nat.zero_le 1) true respond heldLayer⟩

end LayerCull
