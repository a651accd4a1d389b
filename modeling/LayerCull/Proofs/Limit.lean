import LayerCull.Proofs.Course.Admits

/-!
This module contains the proof that a cleanup keeps to its limit, whoever answers: `Limited` says what
the limit bounds and when it is the limit that ends the cleanup, and `run_limited` states it of
every cleanup that is no dry run.
-/

namespace LayerCull

open Dialogue

/-- The rounds that the limit allows came through, and then came the round `last`. -/
def Exhausted (limit : Nat) (verify : Bool) (rs : List Round) (last : Round) : Prop :=
  ∃ done later, rs = done ++ last :: later ∧ done.length = limit ∧
    ∀ r ∈ done, r.Completed verify

def started? : Entry Call Answer → Option Nat
  | .note (.log (.iterationStarted number _)) => some number
  | _ => none

/-- The numbers that the rounds get in the log. -/
def startedNumbers (entries : Entries) : List Nat :=
  entries.filterMap started?

structure Limited (limit : Nat) (verify : Bool) (transcript : Transcript Call Answer Summary) :
    Prop where
  probes : (exchanges transcript.entries).countP Exchange.isProbe ≤ limit + 1
  deletingRounds : (rounds (exchanges transcript.entries)).countP Round.deletes ≤ limit
  layerDeletions : (exchanges transcript.entries).countP Exchange.isLayerDeletion ≤ 2 * limit
  groupDeletions : (exchanges transcript.entries).countP Exchange.isGroupDeletion ≤ limit
  lookups : (exchanges transcript.entries).countP Exchange.isLookup ≤ if verify then limit else 0
  started : ∃ number ≤ limit, startedNumbers transcript.entries = List.range' 1 number
  iterations : ∀ summary, transcript.result = .ok summary → summary.iterations ≤ limit
  limitReached : ∀ k, transcript.result = .error (.iterationLimit k) ↔
    k = limit ∧ ∃ last, Exhausted limit verify (rounds (exchanges transcript.entries)) last ∧
      last.layer?.isSome
  exhausted : ∀ last, Exhausted limit verify (rounds (exchanges transcript.entries)) last →
    last.calls = [] ∧ (rounds (exchanges transcript.entries)).getLast? = some last
  clean : ∀ last document, Exhausted limit verify (rounds (exchanges transcript.entries)) last →
    last.document = .ok document → badLayer? document.body = none →
    ∃ summary, transcript.result = .ok summary

theorem countP_exchanges_le {p : Exchange → Bool} {b : Nat} {rs : List Round}
    (hprobe : ∀ answer, p (.capabilities, answer) = false)
    (h : ∀ r ∈ rs, r.calls.countP p ≤ b * r.deletes.toNat) :
    (rs.flatMap Round.exchanges).countP p ≤ b * rs.countP Round.deletes := by
  induction rs with
  | nil => simp
  | cons r rs ih =>
    have hr := h r (by simp)
    have hrs := ih fun r' hr' => h r' (by simp [hr'])
    have hround : r.exchanges.countP p = r.calls.countP p := by
      rw [Round.exchanges, List.countP_cons, hprobe]
      rfl
    rw [List.flatMap_cons, List.countP_append, hround, List.countP_cons, Nat.mul_add, Nat.add_comm]
    apply Nat.add_le_add hrs
    cases hd : r.deletes <;> simpa [hd] using hr

structure Moderate (calls : List Exchange) : Prop where
  deletes : calls.any Exchange.isDeletion = true
  layerDeletions : calls.countP Exchange.isLayerDeletion ≤ 2
  groupDeletions : calls.countP Exchange.isGroupDeletion ≤ 1
  lookups : calls.countP Exchange.isLookup = 0

structure Round.Moderate (verify : Bool) (r : Round) : Prop where
  layerDeletions : r.calls.countP Exchange.isLayerDeletion ≤ 2 * r.deletes.toNat
  groupDeletions : r.calls.countP Exchange.isGroupDeletion ≤ 1 * r.deletes.toNat
  lookups : r.calls.countP Exchange.isLookup ≤ verify.toNat * r.deletes.toNat

theorem Round.moderate_nil (verify : Bool) (document : Answer) :
    Round.Moderate verify ⟨document, []⟩ := by
  constructor <;> simp

theorem Moderate.round {calls : List Exchange} (h : Moderate calls) (document : Answer)
    (layer : LayerId) (answers : List Answer) {verify : Bool}
    (hlength : answers.length ≤ verify.toNat) :
    Round.Moderate verify ⟨document, calls ++ answers.map fun answer => (.lookup layer, answer)⟩ := by
  have hdeletes : Round.deletes
      ⟨document, calls ++ answers.map fun answer => (.lookup layer, answer)⟩ = true := by
    rw [Round.deletes, List.any_append, h.deletes]
    rfl
  have hlayer : (answers.map fun answer => (Call.lookup layer, answer)).countP
      Exchange.isLayerDeletion = 0 := by
    simp [List.countP_eq_zero, Exchange.isLayerDeletion, Exchange.layerDeletion?]
  have hgroup : (answers.map fun answer => (Call.lookup layer, answer)).countP
      Exchange.isGroupDeletion = 0 := by
    simp [List.countP_eq_zero, Exchange.isGroupDeletion, Exchange.groupDeletion?]
  have hlookup : (answers.map fun answer => (Call.lookup layer, answer)).countP
      Exchange.isLookup ≤ verify.toNat := by
    apply Nat.le_trans List.countP_le_length
    rw [List.length_map]
    exact hlength
  constructor
  . rw [hdeletes, List.countP_append, hlayer]
    exact h.layerDeletions
  . rw [hdeletes, List.countP_append, hgroup]
    exact h.groupDeletions
  . rw [hdeletes, List.countP_append, h.lookups, Nat.zero_add, Bool.toNat_true, Nat.mul_one]
    exact hlookup

namespace Course

variable {policy : Policy}

theorem Deletion.moderate (deletion : Deletion) (layer : LayerId) :
    Moderate (deletion.calls layer) := by
  cases deletion <;> constructor <;> simp [calls, List.countP_cons, Exchange.isDeletion,
    Exchange.isLayerDeletion, Exchange.layerDeletion?, Exchange.isGroupDeletion,
    Exchange.groupDeletion?, Exchange.isLookup, Exchange.lookup?]

theorem Failed.moderate (failed : Failed) (layer : LayerId) : Moderate (failed.calls layer) := by
  cases failed <;> constructor <;> simp [calls, List.countP_cons, Exchange.isDeletion,
    Exchange.isLayerDeletion, Exchange.layerDeletion?, Exchange.isGroupDeletion,
    Exchange.groupDeletion?, Exchange.isLookup, Exchange.lookup?]

theorem Culling.moderate (c : Culling policy) :
    Round.Moderate policy.verifyDeletion c.round := by
  have hlength : (c.confirmation.toList.map .ok : List Answer).length ≤
      policy.verifyDeletion.toNat := by
    rw [← c.asked]
    cases c.confirmation <;> simp
  have hround := (c.deletion.moderate c.layer).round (.ok c.report.document) c.layer _ hlength
  rw [List.map_map] at hround
  exact hround

theorem Ending.moderate {ending : Ending} {number : Nat} (hfits : ending.Fits policy number) :
    Round.Moderate policy.verifyDeletion ending.round := by
  cases ending with
  | unanswered | clean | limit => apply Round.moderate_nil
  | undeleted report failed =>
    have hround := (failed.moderate report.layer).round (.ok report.document) report.layer []
      (Nat.zero_le policy.verifyDeletion.toNat)
    rw [List.map_nil, List.append_nil] at hround
    exact hround
  | unconfirmed report deletion doubt =>
    apply (deletion.moderate report.layer).round (.ok report.document) report.layer [doubt.answer]
    rw [hfits.2]
    exact Nat.le_refl 1

theorem rounds_moderate (course : Course policy) :
    ∀ r ∈ course.rounds, Round.Moderate policy.verifyDeletion r := by
  intro r hr
  rw [rounds, List.mem_append, List.mem_map, List.mem_singleton] at hr
  rcases hr with ⟨c, _, rfl⟩ | rfl
  . exact c.moderate
  . exact Ending.moderate course.fits

theorem Ending.countP_deletes_le {ending : Ending} {number : Nat}
    (hfits : ending.Fits policy number) :
    number + [ending.round].countP Round.deletes ≤ policy.maxIterations := by
  have hone : [ending.round].countP Round.deletes ≤ 1 := List.countP_le_length
  cases ending with
  | unanswered | clean => exact hfits
  | limit => exact Nat.le_of_eq hfits
  | undeleted | unconfirmed =>
    simp only [Fits] at hfits
    omega

theorem countP_deletes_le (course : Course policy) :
    course.rounds.countP Round.deletes ≤ policy.maxIterations := by
  have hcullings : (course.cullings.map Culling.round).countP Round.deletes ≤
      course.cullings.length := by
    have hle := @List.countP_le_length _ Round.deletes (course.cullings.map Culling.round)
    rw [List.length_map] at hle
    exact hle
  have hending := Ending.countP_deletes_le course.fits
  rw [rounds, List.countP_append]
  omega

section Started

theorem startedNumbers_append (xs ys : Entries) :
    startedNumbers (xs ++ ys) = startedNumbers xs ++ startedNumbers ys :=
  List.filterMap_append

theorem startedNumbers_cons_started (number : Nat) (layer : LayerId) (entries : Entries) :
    startedNumbers (.note (.log (.iterationStarted number layer)) :: entries) =
      number :: startedNumbers entries :=
  rfl

theorem startedNumbers_probeEntries (document : Response) :
    startedNumbers (probeEntries document) = [] := by
  unfold probeEntries Cleanup.probe.finding
  split
  . rfl
  . split <;> rfl

theorem startedNumbers_groupEntries (group : LayerId) (reply : Response) :
    startedNumbers (groupEntries group reply) = [] := by
  unfold groupEntries
  split <;> rfl

theorem startedNumbers_deletion (layer : LayerId) (deletion : Deletion) :
    startedNumbers (deletion.entries layer) = [] := by
  cases deletion with
  | direct => rfl
  | afterGroup refusal groupReply retry accepted =>
    rw [Deletion.entries, startedNumbers_append, startedNumbers_append, startedNumbers_groupEntries]
    rfl

theorem startedNumbers_failed (layer : LayerId) (failed : Failed) :
    startedNumbers (failed.entries layer) = [] := by
  cases failed with
  | unanswered | unmarked | unidentified | groupUnanswered => rfl
  | retryUnanswered | retryRefused =>
    rw [Failed.entries, startedNumbers_append, startedNumbers_append, startedNumbers_groupEntries]
    rfl

theorem startedNumbers_doubt (layer : LayerId) (doubt : Doubt) :
    startedNumbers (doubt.entries layer) = [] := by
  cases doubt <;> rfl

theorem startedNumbers_cullEntries (cs : List (Culling policy)) (summary : Summary) :
    startedNumbers (cullEntries cs summary) = List.range' (summary.iterations + 1) cs.length := by
  induction cs generalizing summary with
  | nil => rfl
  | cons c cs ih =>
    have hconfirm : startedNumbers (c.confirmation.toList.flatMap (confirmEntries c.layer)) = [] := by
      cases c.confirmation <;> rfl
    have hc : startedNumbers (c.entries (summary.iterations + 1)) = [summary.iterations + 1] := by
      rw [Culling.entries, startedNumbers_append, startedNumbers_probeEntries, List.nil_append,
        startedNumbers_cons_started, startedNumbers_append, startedNumbers_deletion, hconfirm]
      rfl
    rw [cullEntries, startedNumbers_append, hc, ih, List.length_cons, List.range'_succ]
    rfl

theorem startedNumbers_ending (summary : Summary) {ending : Ending}
    (hfits : ending.Fits policy summary.iterations) :
    ∃ number, summary.iterations + number ≤ policy.maxIterations ∧
      startedNumbers (ending.entries summary) =
        List.range' (summary.iterations + 1) number := by
  cases ending with
  | unanswered => exact ⟨0, hfits, rfl⟩
  | clean document clean =>
    refine ⟨0, hfits, ?_⟩
    rw [Ending.entries, startedNumbers_append, startedNumbers_probeEntries]
    rfl
  | limit report =>
    refine ⟨0, Nat.le_of_eq hfits, ?_⟩
    rw [Ending.entries, startedNumbers_append, startedNumbers_probeEntries]
    rfl
  | undeleted report failed =>
    refine ⟨1, hfits, ?_⟩
    rw [Ending.entries, startedNumbers_append, startedNumbers_probeEntries, List.nil_append,
      startedNumbers_cons_started, startedNumbers_failed]
    rfl
  | unconfirmed report deletion doubt =>
    refine ⟨1, hfits.1, ?_⟩
    rw [Ending.entries, startedNumbers_append, startedNumbers_probeEntries, List.nil_append,
      startedNumbers_cons_started, startedNumbers_append, startedNumbers_deletion,
      startedNumbers_doubt]
    rfl

theorem startedNumbers_entries (course : Course policy) :
    ∃ number ≤ policy.maxIterations, startedNumbers course.entries = List.range' 1 number := by
  have hiterations : course.summary.iterations = course.cullings.length := by
    rw [summary_eq]
  rcases startedNumbers_ending course.summary (hiterations ▸ course.fits) with
    ⟨number, hle, hending⟩
  refine ⟨course.cullings.length + number, by omega, ?_⟩
  rw [entries, startedNumbers_append, startedNumbers_append, startedNumbers_cullEntries, hending,
    hiterations, Nat.add_comm course.cullings.length 1, ← List.range'_append_1]
  rfl

end Started

section Exhausted

theorem length_cullings_le (course : Course policy) :
    course.cullings.length ≤ policy.maxIterations :=
  course.fits.le

theorem exhausted_iff {course : Course policy} {last : Round} :
    Exhausted policy.maxIterations policy.verifyDeletion course.rounds last ↔
      last = course.ending.round ∧ course.cullings.length = policy.maxIterations := by
  constructor
  . rintro ⟨done, later, hrounds, hdone, _⟩
    have hle := course.length_cullings_le
    have hlength := congrArg List.length hrounds
    simp only [rounds, List.length_append, List.length_map, List.length_cons, List.length_nil]
      at hlength
    have hlater : later = [] := by
      apply List.eq_nil_of_length_eq_zero
      omega
    rw [hlater] at hrounds
    have hlast := (List.append_inj' hrounds rfl).2
    exact ⟨(List.cons.inj hlast).1.symm, by omega⟩
  . rintro ⟨rfl, hlength⟩
    refine ⟨course.cullings.map Culling.round, [], rfl, ?_, ?_⟩
    . rw [List.length_map]
      exact hlength
    . intro r hr
      rw [List.mem_map] at hr
      rcases hr with ⟨c, _, rfl⟩
      exact c.completed

theorem result_eq_iterationLimit_iff {course : Course policy} {k : Nat} :
    course.result = .error (.iterationLimit k) ↔
      k = policy.maxIterations ∧ ∃ report, course.ending = .limit report := by
  unfold Course.result
  cases course.ending with
  | unanswered => simp [Ending.result]
  | clean => simp [Ending.result]
  | limit report => simp [Ending.result, eq_comm]
  | undeleted report failed => cases failed <;> simp [Ending.result, Failed.failure]
  | unconfirmed report deletion doubt => cases doubt <;> simp [Ending.result, Doubt.failure]

-- The endings that make further calls fit only below the limit.
theorem ending_of_spent {course : Course policy}
    (h : course.cullings.length = policy.maxIterations) :
    (∃ fault, course.ending = .unanswered fault) ∨
      (∃ document clean, course.ending = .clean document clean) ∨
        ∃ report, course.ending = .limit report := by
  have hfits := course.fits
  cases hending : course.ending with
  | unanswered fault => exact .inl ⟨fault, rfl⟩
  | clean document clean => exact .inr (.inl ⟨document, clean, rfl⟩)
  | limit report => exact .inr (.inr ⟨report, rfl⟩)
  | undeleted | unconfirmed =>
    rw [hending] at hfits
    simp only [Ending.Fits] at hfits
    omega

theorem limit_iff_exhausted (course : Course policy) :
    (∃ report, course.ending = .limit report) ↔
      ∃ last, Exhausted policy.maxIterations policy.verifyDeletion course.rounds last ∧
        last.layer?.isSome := by
  constructor
  . rintro ⟨report, hlimit⟩
    have hfits := course.fits
    rw [hlimit] at hfits
    refine ⟨course.ending.round, exhausted_iff.2 ⟨rfl, hfits⟩, ?_⟩
    rw [hlimit, Option.isSome_iff_exists]
    exact ⟨report.layer, report.named⟩
  . rintro ⟨last, hlast, hlayer⟩
    rcases exhausted_iff.1 hlast with ⟨rfl, hspent⟩
    rcases ending_of_spent hspent with ⟨fault, hending⟩ | ⟨document, clean, hending⟩ | hlimit
    . rw [hending] at hlayer
      contradiction
    . rw [hending, Option.isSome_iff_exists] at hlayer
      rcases hlayer with ⟨layer, hlayer⟩
      exact absurd (clean.symm.trans hlayer) (by simp)
    . exact hlimit

theorem last_of_exhausted {course : Course policy} {last : Round}
    (h : Exhausted policy.maxIterations policy.verifyDeletion course.rounds last) :
    last.calls = [] ∧ course.rounds.getLast? = some last := by
  rcases exhausted_iff.1 h with ⟨rfl, hspent⟩
  constructor
  . rcases ending_of_spent hspent with ⟨fault, hending⟩ | ⟨document, clean, hending⟩ |
      ⟨report, hending⟩
    all_goals
      rw [hending]
      rfl
  . exact List.getLast?_concat

theorem result_of_exhausted {course : Course policy} {last : Round} {document : Response}
    (h : Exhausted policy.maxIterations policy.verifyDeletion course.rounds last)
    (hdocument : last.document = .ok document) (hclean : badLayer? document.body = none) :
    course.result = .ok course.summary.finish := by
  rcases exhausted_iff.1 h with ⟨rfl, hspent⟩
  rcases ending_of_spent hspent with ⟨fault, hending⟩ | ⟨document', clean, hending⟩ |
    ⟨report, hending⟩
  . rw [hending] at hdocument
    contradiction
  . exact result_eq_ok_iff.2 ⟨⟨document', clean, hending⟩, rfl⟩
  . rw [hending] at hdocument
    cases hdocument
    exact absurd (hclean.symm.trans report.named) (by simp)

end Exhausted

theorem limited (course : Course policy) :
    Limited policy.maxIterations policy.verifyDeletion ⟨course.entries, course.result⟩ := by
  have hmoderate := course.rounds_moderate
  have hdeletes := course.countP_deletes_le
  constructor
  case probes =>
    rw [exchanges_entries, countP_isProbe_flatMap_exchanges course.isProbe_of_mem_rounds, rounds,
      List.length_append, List.length_map]
    exact Nat.succ_le_succ course.length_cullings_le
  case deletingRounds =>
    rw [rounds_exchanges_entries]
    exact hdeletes
  case layerDeletions =>
    rw [exchanges_entries]
    apply Nat.le_trans (countP_exchanges_le (fun _ => rfl) fun r hr => (hmoderate r hr).layerDeletions)
    omega
  case groupDeletions =>
    rw [exchanges_entries]
    apply Nat.le_trans (countP_exchanges_le (fun _ => rfl) fun r hr => (hmoderate r hr).groupDeletions)
    omega
  case lookups =>
    rw [exchanges_entries]
    apply Nat.le_trans (countP_exchanges_le (fun _ => rfl) fun r hr => (hmoderate r hr).lookups)
    cases policy.verifyDeletion with
    | true => simpa using hdeletes
    | false => simp
  case started => exact course.startedNumbers_entries
  case iterations =>
    intro summary hresult
    rw [(result_eq_ok_iff.1 hresult).2, summary_eq]
    exact course.length_cullings_le
  case limitReached =>
    intro k
    rw [rounds_exchanges_entries, result_eq_iterationLimit_iff, limit_iff_exhausted]
  case exhausted =>
    intro last hlast
    rw [rounds_exchanges_entries] at hlast ⊢
    exact last_of_exhausted hlast
  case clean =>
    intro last document hlast hdocument hclean
    rw [rounds_exchanges_entries] at hlast
    exact ⟨_, result_of_exhausted hlast hdocument hclean⟩

end Course

theorem Cleanup.run_limited (limit : Nat) (verify : Bool) {σ : Type}
    (respond : Counterpart Call Answer σ) (state : σ) :
    Limited limit verify
      ((Cleanup.run ⟨limit, verify, false⟩).run respond state).1 := by
  have hcourse := @Course.run_course ⟨limit, verify, false⟩ rfl _ respond state
  rcases hcourse with ⟨course, hrun⟩
  rw [hrun]
  exact course.limited

end LayerCull
