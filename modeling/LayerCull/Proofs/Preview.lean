import LayerCull.Proofs.Course.Opening

/-!
This module contains the proof that a dry run foretells the cleanup and touches nothing: `OnlyLooks`
says what the dry run does, `Foretells` what its result says about a cleanup from the same state of
the server, and `run_previews` states both, whoever answers.
-/

namespace LayerCull

open Dialogue

/-- The run asks for the capabilities document, and names the layer that it reports. -/
structure OnlyLooks (transcript : Transcript Call Answer Summary) : Prop where
  calls : ∃ answer, exchanges transcript.entries = [(.capabilities, answer)]
  answered : ∀ document, exchanges transcript.entries = [(.capabilities, .ok document)] →
    progress transcript.entries = [.started, .candidate (badLayer? document.body)] ∧
      transcript.result = .ok {
        iterations := 0
        culledLayers := []
        removedGroups := []
        pendingLayer := badLayer? document.body
        finished := true }
  unanswered : ∀ fault, exchanges transcript.entries = [(.capabilities, .error fault)] →
    progress transcript.entries = [.started] ∧ transcript.result = .error (.transport fault)

/-- The dry run fails where the cleanup's first call fails, names the layer that the cleanup deletes
first, and names none if the cleanup has nothing to do. -/
structure Foretells (dry real : Transcript Call Answer Summary) : Prop where
  fails : ∀ failure, dry.result = .error failure ↔
    ∃ fault, failure = .transport fault ∧
      (exchanges real.entries).head? = some (.capabilities, .error fault)
  failsAlike : ∀ failure, dry.result = .error failure → real.result = .error failure
  pending : ∀ layer, (∃ summary, dry.result = .ok summary ∧ summary.pendingLayer = some layer) ↔
    ∃ answer, (exchanges real.entries)[1]? = some (.deleteLayer layer, answer)
  nothing : (∃ summary, dry.result = .ok summary ∧ summary.pendingLayer = none) ↔
    ∃ summary, real.result = .ok summary ∧ summary.iterations = 0 ∧
      (exchanges real.entries).length = 1

section Cases

variable {dry real : Transcript Call Answer Summary}

theorem Foretells.of_unanswered {fault : Fault} (hdry : dry.result = .error (.transport fault))
    (hcalls : exchanges real.entries = [(.capabilities, .error fault)])
    (hreal : real.result = .error (.transport fault)) : Foretells dry real := by
  constructor
  case fails =>
    intro failure
    simp [hdry, hcalls, eq_comm]
  case failsAlike =>
    intro failure hfailure
    rw [hreal, ← hdry, hfailure]
  case pending =>
    intro layer
    simp [hdry, hcalls]
  case nothing => simp [hdry, hreal]

theorem Foretells.of_clean {document : Response} {summary done : Summary}
    (hdry : dry.result = .ok summary) (hpending : summary.pendingLayer = none)
    (hcalls : exchanges real.entries = [(.capabilities, .ok document)])
    (hreal : real.result = .ok done) (hdone : done.iterations = 0) : Foretells dry real := by
  constructor
  case fails =>
    intro failure
    simp [hdry, hcalls]
  case failsAlike =>
    intro failure hfailure
    exact absurd (hdry.symm.trans hfailure) (by simp)
  case pending =>
    intro layer
    simp [hdry, hpending, hcalls]
  case nothing => simp [hdry, hpending, hcalls, hreal, hdone]

theorem Foretells.of_reported {document : Response} {summary : Summary} {layer : LayerId}
    {answer : Answer} {later : List Exchange}
    (hdry : dry.result = .ok summary) (hpending : summary.pendingLayer = some layer)
    (hcalls : exchanges real.entries =
      (.capabilities, .ok document) :: (.deleteLayer layer, answer) :: later) :
    Foretells dry real := by
  constructor
  case fails =>
    intro failure
    simp [hdry, hcalls]
  case failsAlike =>
    intro failure hfailure
    exact absurd (hdry.symm.trans hfailure) (by simp)
  case pending =>
    intro layer'
    simp [hdry, hpending, hcalls]
  case nothing => simp [hdry, hpending, hcalls]

end Cases

namespace Course

variable {policy : Policy} {σ : Type} {respond : Counterpart Call Answer σ} {state next : σ}

section Dry

variable (hdry : policy.dryRun = true)

include hdry in
theorem run_of_dryRun_of_unanswered {fault : Fault}
    (h : respond .capabilities state = (.error fault, next)) :
    ((Cleanup.run policy).run respond state).1 =
      ⟨startEntries policy ++ [.exchange .capabilities (.error fault)],
        .error (.transport fault)⟩ := by
  have hadmits : (Cleanup.run policy).Admits
      (startEntries policy ++ [.exchange .capabilities (.error fault)])
      (.error (.transport fault)) := by
    rw [run_eq_of_dryRun hdry]
    exact ⟨_, rfl, _, rfl, probe_bind_admits.2 (.inl ⟨fault, rfl, rfl⟩)⟩
  rw [run_eq_of_admits hadmits ⟨next, h, rfl⟩]

include hdry in
theorem run_of_dryRun_of_answered {document : Response}
    (h : respond .capabilities state = (.ok document, next)) :
    ((Cleanup.run policy).run respond state).1 =
      ⟨startEntries policy ++ (probeEntries document ++
          [.note (.progress (.candidate (badLayer? document.body)))]),
        .ok { pendingLayer := badLayer? document.body, finished := true }⟩ := by
  have hadmits : (Cleanup.run policy).Admits
      (startEntries policy ++ (probeEntries document ++
        [.note (.progress (.candidate (badLayer? document.body)))]))
      (.ok { pendingLayer := badLayer? document.body, finished := true }) := by
    rw [run_eq_of_dryRun hdry]
    exact ⟨_, rfl, _, rfl, probe_bind_admits.2 (.inr ⟨document, _, rfl, _, rfl, rfl, rfl⟩)⟩
  rw [run_eq_of_admits hadmits ⟨next, h, rfl⟩]

include hdry in
theorem run_onlyLooks (respond : Counterpart Call Answer σ) (state : σ) :
    OnlyLooks ((Cleanup.run policy).run respond state).1 := by
  rcases h : respond .capabilities state with ⟨fault | document, next⟩
  . rw [run_of_dryRun_of_unanswered hdry h]
    constructor
    case calls => exact ⟨.error fault, rfl⟩
    case answered => exact nofun
    case unanswered =>
      intro fault' hfault
      cases hfault
      exact ⟨rfl, rfl⟩
  . rw [run_of_dryRun_of_answered hdry h]
    constructor
    case calls => exact ⟨.ok document, rfl⟩
    case answered =>
      intro document' hdocument
      cases hdocument
      exact ⟨rfl, rfl⟩
    case unanswered => exact nofun

end Dry

section Real

variable (hdry : policy.dryRun = false)

include hdry in
theorem run_of_unanswered {fault : Fault}
    (h : respond .capabilities state = (.error fault, next)) :
    ((Cleanup.run policy).run respond state).1 =
      ⟨startEntries policy ++ [.exchange .capabilities (.error fault)],
        .error (.transport fault)⟩ := by
  rw [run_eq_of_replies ⟨[], .unanswered fault, Nat.zero_le _⟩ hdry ⟨next, h, rfl⟩]
  rfl

include hdry in
theorem run_of_clean {document : Response} (h : respond .capabilities state = (.ok document, next))
    (hclean : badLayer? document.body = none) :
    ((Cleanup.run policy).run respond state).1 =
      ⟨startEntries policy ++ (Ending.clean document hclean).entries {},
        .ok ({} : Summary).finish⟩ := by
  rw [run_eq_of_replies ⟨[], .clean document hclean, Nat.zero_le _⟩ hdry ⟨next, h, rfl⟩]
  rfl

include hdry in
theorem run_of_reported (hlimit : 1 ≤ policy.maxIterations) (report : Report)
    (h : respond .capabilities state = (.ok report.document, next)) :
    ∃ answer later, exchanges ((Cleanup.run policy).run respond state).1.entries =
      (.capabilities, .ok report.document) :: (.deleteLayer report.layer, answer) :: later := by
  rcases Nat.exists_eq_add_one.2 hlimit with ⟨budget, hbudget⟩
  rcases exists_entries_removeNext report.layer {} (Cleanup.cull policy budget) respond next with
    ⟨answer, later, hremoval⟩
  have hleads : (Cleanup.run policy).Leads (startEntries policy ++ probeEntries report.document)
      ((Cleanup.removeNext policy report.layer {}).bind (Cleanup.cull policy budget)) := by
    have hcull := cull_leads_removal policy report budget {}
    rw [← hbudget] at hcull
    rw [run_eq hdry]
    exact .note _ (.note _ hcull)
  refine ⟨answer, exchanges later, ?_⟩
  rw [run_of_leads hleads ⟨next, h, rfl⟩, hremoval]
  rfl

end Real

theorem run_foretells {other : Policy} (hdry : policy.dryRun = true) (hother : other.dryRun = false)
    (hlimit : 1 ≤ other.maxIterations) (respond : Counterpart Call Answer σ) (state : σ) :
    Foretells ((Cleanup.run policy).run respond state).1
      ((Cleanup.run other).run respond state).1 := by
  -- Both runs put the same call first, to the server in the same state.
  rcases h : respond .capabilities state with ⟨fault | document, next⟩
  . rw [run_of_dryRun_of_unanswered hdry h, run_of_unanswered hother h]
    exact .of_unanswered rfl rfl rfl
  . rw [run_of_dryRun_of_answered hdry h]
    cases hnamed : badLayer? document.body with
    | none =>
      rw [run_of_clean hother h hnamed]
      exact .of_clean rfl rfl rfl rfl rfl
    | some layer =>
      rcases run_of_reported hother hlimit ⟨document, layer, hnamed⟩ h with ⟨answer, later, hcalls⟩
      exact .of_reported rfl rfl hcalls

end Course

/-- Whoever answers, a dry run only looks, and foretells every cleanup that may delete a layer. -/
theorem Cleanup.run_previews (limit : Nat) (verify : Bool) {σ : Type}
    (respond : Counterpart Call Answer σ) (state : σ) :
    OnlyLooks ((Cleanup.run ⟨limit, verify, true⟩).run respond state).1 ∧
      ∀ (limit' : Nat) (verify' : Bool), 1 ≤ limit' →
        Foretells ((Cleanup.run ⟨limit, verify, true⟩).run respond state).1
          ((Cleanup.run ⟨limit', verify', false⟩).run respond state).1 := by
  constructor
  . exact @Course.run_onlyLooks ⟨limit, verify, true⟩ _ rfl respond state
  . intro limit' verify' h
    exact @Course.run_foretells ⟨limit, verify, true⟩ _ ⟨limit', verify', false⟩ rfl rfl h respond
      state

open Script in
theorem Cleanup.run_previews_heldLayer :
    1 ≤ 2 ∧
      ((Cleanup.run ⟨0, false, true⟩).run respond heldLayer).1.result =
        .ok { pendingLayer := some sampleLayer, finished := true } ∧
      Foretells ((Cleanup.run ⟨0, false, true⟩).run respond heldLayer).1
        ((Cleanup.run ⟨2, true, false⟩).run respond heldLayer).1 :=
  ⟨by decide, by decide +kernel,
    (Cleanup.run_previews 0 false respond heldLayer).2 2 true (by decide)⟩

end LayerCull
