import LayerCull.Proofs.Course.Admits

/-!
This module contains the proof that the summary of a cleanup tells what was done. `Accounted` compares
the summary with the calls, and `run_accounted` states it of every cleanup that succeeds and is no
dry run.
-/

namespace LayerCull

open Dialogue

/-- The first attempt at the layer was refused. -/
def Round.FellBack (r : Round) : Prop :=
  ∃ layer refusal, r.layerDeletions.head? = some (layer, .ok refusal) ∧ refusal.status = 500

/-- The summary agrees with the calls, of which the last one found nothing more to do. -/
structure Accounted (verify : Bool) (calls : List Exchange) (summary : Summary) : Prop where
  last : ∃ document, calls.getLast? = some (.capabilities, .ok document) ∧
    badLayer? document.body = none
  iterations : summary.iterations = summary.culledLayers.length
  reports : summary.iterations = calls.countP fun x => x.reported?.isSome
  culledLayers : summary.culledLayers = calls.filterMap Exchange.reported?
  removedGroups : summary.removedGroups = (calls.filterMap Exchange.groupDeletion?).map Prod.fst
  rounds : ∃ done document, rounds calls = done ++ [⟨.ok document, []⟩] ∧
    done.length = summary.iterations ∧ ∀ r ∈ done, r.Completed verify ∧
      (r.FellBack → r.groupDeletions.length = 1) ∧ (¬r.FellBack → r.groupDeletions = [])
  pendingLayer : summary.pendingLayer = none
  finished : summary.finished = true

namespace Course

variable {policy : Policy}

theorem filterMap_reported? (course : Course policy) :
    (exchanges course.entries).filterMap Exchange.reported? =
      course.cullings.map Culling.layer ++ course.ending.round.layer?.toList := by
  have hrounds : ∀ r ∈ course.rounds, r.exchanges.filterMap Exchange.reported? = r.layer?.toList := by
    intro r hr
    exact Round.filterMap_reported? (course.isProbe_of_mem_rounds r hr)
  rw [exchanges_entries, List.filterMap_flatMap, List.flatMap_def, List.map_congr_left hrounds,
    ← List.flatMap_def, rounds, List.flatMap_append, List.flatMap_map, List.flatMap_singleton,
    List.map_eq_flatMap]
  simp only [Culling.layer?_round, Option.toList_some]

theorem Culling.groups_round (c : Culling policy) :
    c.round.groupDeletions.map Prod.fst = c.deletion.removal.group?.toList := by
  rw [c.groupDeletions_round]
  cases c.deletion <;> rfl

theorem filterMap_groupDeletion? (course : Course policy) :
    (exchanges course.entries).filterMap Exchange.groupDeletion? =
      course.rounds.flatMap Round.groupDeletions := by
  rw [exchanges_entries, List.filterMap_flatMap]
  rfl

theorem Culling.fellBack (c : Culling policy) :
    (c.round.FellBack → c.round.groupDeletions.length = 1) ∧
      (¬c.round.FellBack → c.round.groupDeletions = []) := by
  unfold Round.FellBack
  rw [c.layerDeletions_round, c.groupDeletions_round]
  cases c.deletion with
  | direct reply accepted =>
    refine ⟨?_, fun _ => rfl⟩
    rintro ⟨layer, refusal, hfirst, hstatus⟩
    cases hfirst
    exact absurd hstatus (status_ne_of_accepted accepted)
  | afterGroup refusal groupReply retry accepted =>
    refine ⟨fun _ => rfl, ?_⟩
    intro hno
    exact absurd ⟨c.layer, refusal.reply, rfl, refusal.status_eq⟩ hno

theorem accounted {course : Course policy} {summary : Summary}
    (h : course.result = .ok summary) :
    Accounted policy.verifyDeletion (exchanges course.entries) summary := by
  rcases result_eq_ok_iff.1 h with ⟨⟨document, clean, hending⟩, rfl⟩
  have hlayers : course.summary.finish.culledLayers = course.cullings.map Culling.layer := by
    rw [summary_eq, Summary.finish]
  have hcount : course.summary.finish.iterations = course.cullings.length := by
    rw [summary_eq, Summary.finish]
  have hreports : (exchanges course.entries).filterMap Exchange.reported? =
      course.cullings.map Culling.layer := by
    have hnone : course.ending.round.layer? = none := by
      rw [hending]
      exact clean
    rw [filterMap_reported?, hnone, Option.toList_none, List.append_nil]
  constructor
  case last =>
    refine ⟨document, ?_, clean⟩
    rw [exchanges_entries, rounds, List.flatMap_append, List.flatMap_singleton, hending]
    exact List.getLast?_concat
  case iterations => rw [hcount, hlayers, List.length_map]
  case reports =>
    rw [hcount, ← List.length_filterMap_eq_countP, hreports, List.length_map]
  case culledLayers => rw [hlayers, hreports]
  case removedGroups =>
    have hgroups : course.summary.finish.removedGroups =
        course.cullings.flatMap (·.deletion.removal.group?.toList) := by
      rw [summary_eq, Summary.finish]
    have hlast : course.ending.round.groupDeletions = [] := by
      rw [hending]
      rfl
    rw [hgroups, filterMap_groupDeletion?, rounds, List.flatMap_append, List.flatMap_singleton, hlast,
      List.append_nil, List.flatMap_map, List.map_flatMap]
    simp only [Culling.groups_round]
  case rounds =>
    refine ⟨course.cullings.map Culling.round, document, ?_, ?_, ?_⟩
    . rw [rounds_exchanges_entries, rounds, hending]
      rfl
    . rw [hcount, List.length_map]
    . intro r hr
      rw [List.mem_map] at hr
      rcases hr with ⟨c, _, rfl⟩
      exact ⟨c.completed, c.fellBack⟩
  case pendingLayer => rw [summary_eq, Summary.finish]
  case finished => rfl

end Course

theorem Cleanup.run_accounted (limit : Nat) (verify : Bool) {σ : Type}
    (respond : Counterpart Call Answer σ) (state : σ) {summary : Summary}
    (h : ((Cleanup.run ⟨limit, verify, false⟩).run respond state).1.result = .ok summary) :
    Accounted verify (exchanges ((Cleanup.run ⟨limit, verify, false⟩).run respond state).1.entries)
      summary := by
  have hcourse := @Course.run_course ⟨limit, verify, false⟩ rfl _ respond state
  rcases hcourse with ⟨course, hrun⟩
  rw [hrun] at h ⊢
  exact Course.accounted h

open Script in
theorem Cleanup.run_accounted_heldLayer :
    ((Cleanup.run ⟨1, true, false⟩).run respond heldLayer).1.result =
        .ok ⟨1, [sampleLayer], [sampleGroup], none, true⟩ ∧
      Accounted true (exchanges ((Cleanup.run ⟨1, true, false⟩).run respond heldLayer).1.entries)
        ⟨1, [sampleLayer], [sampleGroup], none, true⟩ := by
  have h : ((Cleanup.run ⟨1, true, false⟩).run respond heldLayer).1.result =
      .ok ⟨1, [sampleLayer], [sampleGroup], none, true⟩ := by
    decide +kernel
  exact ⟨h, Cleanup.run_accounted 1 true respond heldLayer h⟩

end LayerCull
