import LayerCull.Proofs.Course.Admits

/-!
This module contains how a cleanup goes on after its first rounds: what is left to do is the same loop,
with less of the budget and more in the summary.
-/

namespace LayerCull

open Dialogue

namespace Course

variable {policy : Policy}

theorem probe_leads {α : Type} (f : Option LayerId → Dialogue Call Answer α) {document : Response}
    {found : Option LayerId} (h : badLayer? document.body = found) :
    (Cleanup.probe.bind f).Leads (probeEntries document) (f found) := by
  rw [← h]
  exact leads_bind_of_admits (probe_admits.2 (.inr ⟨document, rfl, rfl⟩))

theorem cull_leads_removal (policy : Policy) (report : Report) (budget : Nat) (summary : Summary) :
    (Cleanup.cull policy (budget + 1) summary).Leads (probeEntries report.document)
      ((Cleanup.removeNext policy report.layer summary).bind (Cleanup.cull policy budget)) := by
  rw [Cleanup.cull, bind_eq]
  exact probe_leads _ report.named

theorem cull_leads_culling (c : Culling policy) (budget : Nat) (summary : Summary) :
    (Cleanup.cull policy (budget + 1) summary).Leads (c.entries (summary.iterations + 1))
      (Cleanup.cull policy budget (c.enter summary)) := by
  rcases removeNext_admits_culling c summary with ⟨later, hc, hn⟩
  rw [hc]
  exact (cull_leads_removal policy c.report budget summary).trans (leads_bind_of_admits hn)

theorem cullEntries_append (xs ys : List (Culling policy)) (summary : Summary) :
    cullEntries (xs ++ ys) summary = cullEntries xs summary ++ cullEntries ys (tally xs summary) := by
  induction xs generalizing summary with
  | nil => rfl
  | cons c xs ih =>
    rw [List.cons_append, cullEntries, ih, cullEntries, List.append_assoc]
    rfl

theorem cull_leads (cs : List (Culling policy)) (budget : Nat) (summary : Summary) :
    (Cleanup.cull policy (budget + cs.length) summary).Leads (cullEntries cs summary)
      (Cleanup.cull policy budget (tally cs summary)) := by
  induction cs generalizing summary with
  | nil => exact .stop _
  | cons c cs ih => exact (cull_leads_culling c (budget + cs.length) summary).trans (ih (c.enter summary))

theorem run_leads (cs : List (Culling policy)) (hdry : policy.dryRun = false)
    (hle : cs.length ≤ policy.maxIterations) :
    (Cleanup.run policy).Leads (startEntries policy ++ cullEntries cs {})
      (Cleanup.cull policy (policy.maxIterations - cs.length) (tally cs {})) := by
  have hcull := cull_leads cs (policy.maxIterations - cs.length) {}
  rw [Nat.sub_add_cancel hle] at hcull
  rw [run_eq hdry]
  exact .note _ (.note _ hcull)

/-- A cleanup begins with the rounds that the answers make, and what comes after them is the loop. -/
theorem run_eq_of_opening (cs : List (Culling policy)) (hdry : policy.dryRun = false)
    (hle : cs.length ≤ policy.maxIterations) {σ : Type} {respond : Counterpart Call Answer σ}
    {first middle : σ} (h : Replies respond (cs.flatMap (·.round.exchanges)) first middle) :
    (Cleanup.run policy).run respond first =
      let rest := (Cleanup.cull policy (policy.maxIterations - cs.length) (tally cs {})).run respond
        middle
      (⟨startEntries policy ++ cullEntries cs {} ++ rest.1.entries, rest.1.result⟩, rest.2) := by
  apply run_of_leads (run_leads cs hdry hle)
  rw [exchanges_append, exchanges_cullEntries]
  exact h

theorem exists_course (hdry : policy.dryRun = false) {σ : Type}
    (respond : Counterpart Call Answer σ) (state : σ) :
    ∃ (course : Course policy) (last : σ),
      ((Cleanup.run policy).run respond state).1 = ⟨course.entries, course.result⟩ ∧
      Replies respond (course.cullings.flatMap (·.round.exchanges) ++ course.ending.round.exchanges)
        state last := by
  rcases run_course hdry respond state with ⟨course, hrun⟩
  have hreplies := replies_run respond (Cleanup.run policy) state
  rw [hrun, exchanges_entries, flatMap_exchanges_rounds] at hreplies
  exact ⟨course, _, hrun, hreplies⟩

/-- The removal of a layer begins with its deletion. -/
theorem exists_entries_removeNext {α : Type} (layer : LayerId) (summary : Summary)
    (f : Summary → Dialogue Call Answer α) {σ : Type} (respond : Counterpart Call Answer σ)
    (state : σ) :
    ∃ answer later,
      (((Cleanup.removeNext policy layer summary).bind f).run respond state).1.entries =
        .note (.log (.iterationStarted (summary.iterations + 1) layer)) ::
          .exchange (.deleteLayer layer) answer :: later :=
  ⟨_, _, rfl⟩

end Course

end LayerCull
