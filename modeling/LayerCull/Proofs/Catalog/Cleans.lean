import LayerCull.Proofs.Catalog.Basic
import LayerCull.Proofs.Course.Admits

/-!
This module contains the proof that a cleanup cleans a well-behaved server. `Serves` says how such a
server answers from its catalog; `run_cleans` says what the cleanup returns and leaves behind.
-/

namespace LayerCull

open Dialogue

/-- The call gets a reply with the property, and the catalog is then `after`. -/
def Yields {σ : Type} (respond : Counterpart Call Answer σ) (view : σ → Catalog) (state : σ)
    (call : Call) (after : Catalog) (P : Response → Prop) : Prop :=
  ∃ reply next, respond call state = (.ok reply, next) ∧ view next = after ∧ P reply

/-- The counterpart answers every call from the catalog that its state is a view of. -/
structure Serves {σ : Type} (respond : Counterpart Call Answer σ) (view : σ → Catalog) : Prop where
  clean : ∀ state, (view state).bad = [] →
    Yields respond view state .capabilities (view state) fun reply =>
      ¬Marker.metadataFailure.phrase.toList <:+: reply.body.toList
  report : ∀ state layer rest, (view state).bad = layer :: rest →
    Yields respond view state .capabilities (view state) fun reply =>
      Marker.metadataFailure.Names reply.body layer
  refuse : ∀ state layer, (∃ group, (view state).Holds group layer) →
    Yields respond view state (.deleteLayer layer) (view state) fun reply =>
      reply.status = 500 ∧
        ∃ group, (view state).Holds group layer ∧ Marker.groupReference.Names reply.body group
  deleteLayer : ∀ state layer, (∀ group, ¬(view state).Holds group layer) →
    Yields respond view state (.deleteLayer layer) ((view state).removeLayer layer) fun reply =>
      reply.status = 200
  deleteGroup : ∀ state group,
    Yields respond view state (.deleteGroup group) ((view state).removeGroup group) fun reply =>
      reply.status = 200
  lookup : ∀ state layer,
    Yields respond view state (.lookup layer) (view state) fun reply =>
      reply.status = if (view state).Has layer then 200 else 404

namespace Catalog

def document (c : Catalog) : String :=
  match c.bad with
  | [] => "<WMT_MS_Capabilities/>"
  | layer :: _ => Marker.metadataFailure.saying layer

/-- A server that keeps its catalog in memory. -/
def respond : Counterpart Call Answer Catalog
  | .capabilities, c => (.ok ⟨200, c.document⟩, c)
  | .deleteLayer layer, c =>
    match c.holder? layer with
    | some group => (.ok ⟨500, Marker.groupReference.saying group⟩, c)
    | none => (.ok ⟨200, ""⟩, c.removeLayer layer)
  | .deleteGroup group, c => (.ok ⟨200, ""⟩, c.removeGroup group)
  | .lookup layer, c => (.ok ⟨if c.Has layer then 200 else 404, ""⟩, c)

theorem serves_respond : Serves respond id := by
  constructor
  case clean =>
    intro c hbad
    refine ⟨_, _, rfl, rfl, ?_⟩
    simp only [id] at hbad
    simp only [document, hbad, ← Marker.isIn_iff]
    decide +kernel
  case report =>
    intro c layer rest hbad
    refine ⟨_, _, rfl, rfl, ?_⟩
    simp only [id] at hbad
    simp only [document, hbad]
    exact Marker.metadataFailure.names_saying layer
  case refuse =>
    rintro c layer ⟨group, hgroup⟩
    cases hholder : c.holder? layer with
    | none => exact absurd hgroup (not_holds_of_holder? hholder group)
    | some other =>
      refine ⟨⟨500, Marker.groupReference.saying other⟩, c, ?_, rfl, rfl, other,
        holds_of_holder? hholder, Marker.groupReference.names_saying other⟩
      rw [respond, hholder]
  case deleteLayer =>
    intro c layer hfree
    cases hholder : c.holder? layer with
    | none =>
      refine ⟨⟨200, ""⟩, c.removeLayer layer, ?_, rfl, rfl⟩
      rw [respond, hholder]
    | some group => exact absurd (holds_of_holder? hholder) (hfree group)
  case deleteGroup =>
    intro c group
    exact ⟨_, _, rfl, rfl, rfl⟩
  case lookup =>
    intro c layer
    exact ⟨_, _, rfl, rfl, rfl⟩

end Catalog

namespace Serves

open Course

variable {σ : Type} {respond : Counterpart Call Answer σ} {view : σ → Catalog}
  (hs : Serves respond view)

include hs

theorem exists_report {state : σ} {layer : LayerId} {rest : List LayerId}
    (hbad : (view state).bad = layer :: rest) :
    ∃ (report : Report) (next : σ), report.layer = layer ∧
      respond .capabilities state = (.ok report.document, next) ∧ view next = view state := by
  rcases hs.report state layer rest hbad with ⟨document, next, hrespond, hnext, hnames⟩
  exact ⟨⟨document, layer, Marker.subject?_eq_some_iff.2 hnames⟩, next, rfl, hrespond, hnext⟩

theorem exists_clean {state : σ} (hbad : (view state).bad = []) :
    ∃ (document : Response) (next : σ), badLayer? document.body = none ∧
      respond .capabilities state = (.ok document, next) ∧ view next = view state := by
  rcases hs.clean state hbad with ⟨document, next, hrespond, hnext, hmarker⟩
  refine ⟨document, next, ?_, hrespond, hnext⟩
  rw [← Marker.isIn_iff] at hmarker
  rw [badLayer?, Marker.subject?, if_neg hmarker]

theorem exists_direct {state : σ} {layer : LayerId}
    (hfree : ∀ group, ¬(view state).Holds group layer) :
    ∃ (reply : Response) (next : σ), reply.isInternalError = false ∧
      respond (.deleteLayer layer) state = (.ok reply, next) ∧
      view next = (view state).removeLayer layer := by
  rcases hs.deleteLayer state layer hfree with ⟨reply, next, hrespond, hnext, hstatus⟩
  refine ⟨reply, next, ?_, hrespond, hnext⟩
  rw [Response.isInternalError, hstatus]
  rfl

theorem exists_refusal {state : σ} {layer group : LayerId} (honce : (view state).HeldOnce layer)
    (hheld : (view state).Holds group layer) :
    ∃ (refusal : Refusal) (next : σ), refusal.group = group ∧
      respond (.deleteLayer layer) state = (.ok refusal.reply, next) ∧ view next = view state := by
  rcases hs.refuse state layer ⟨group, hheld⟩ with
    ⟨reply, next, hrespond, hnext, hstatus, other, hother, hnames⟩
  have hrefused := Response.isInternalError_iff.2 hstatus
  exact ⟨⟨reply, other, hrefused, Marker.subject?_eq_some_iff.2 hnames⟩, next,
    honce.eq hother hheld, hrespond, hnext⟩

theorem exists_deletion {state : σ} {layer : LayerId} (honce : (view state).HeldOnce layer) :
    ∃ (deletion : Deletion) (next : σ), deletion.removal.group? = (view state).holder? layer ∧
      Replies respond (deletion.calls layer) state next ∧
      view next = (view state).cull layer := by
  cases hholder : (view state).holder? layer with
  | none =>
    have hfree := Catalog.not_holds_of_holder? hholder
    rcases hs.exists_direct hfree with ⟨reply, next, accepted, hrespond, hnext⟩
    refine ⟨.direct reply accepted, next, rfl, ⟨next, hrespond, rfl⟩, ?_⟩
    rw [hnext, Catalog.cull, Catalog.release_of_none hholder]
  | some group =>
    have hheld := Catalog.holds_of_holder? hholder
    rcases hs.exists_refusal honce hheld with ⟨refusal, s₁, rfl, hrespond₁, h₁⟩
    rcases hs.deleteGroup s₁ refusal.group with ⟨groupReply, s₂, hrespond₂, h₂, _⟩
    rw [h₁, ← Catalog.release_of_some hholder] at h₂
    -- The group was the only one to hold the layer, so the retry finds it free.
    have hfree : ∀ group, ¬(view s₂).Holds group layer := by
      rw [h₂]
      exact Catalog.not_holds_of_holder? (Catalog.holder?_release honce)
    rcases hs.exists_direct hfree with ⟨retry, s₃, accepted, hrespond₃, h₃⟩
    refine ⟨.afterGroup refusal groupReply retry accepted, s₃, rfl,
      ⟨s₁, hrespond₁, s₂, hrespond₂, s₃, hrespond₃, rfl⟩, ?_⟩
    rw [h₃, h₂, Catalog.cull]

theorem exists_culling (policy : Policy) {state : σ} {layer : LayerId} {rest : List LayerId}
    (hsound : (view state).Sound) (hbad : (view state).bad = layer :: rest) :
    ∃ (c : Culling policy) (next : σ), c.layer = layer ∧
      c.deletion.removal.group? = (view state).holder? layer ∧
      Replies respond c.round.exchanges state next ∧ view next = (view state).cull layer := by
  rcases hs.exists_report hbad with ⟨report, s₁, rfl, hrespond, h₁⟩
  have honce : (view s₁).HeldOnce report.layer := by
    rw [h₁]
    apply hsound.heldOnce
    simp [hbad]
  rcases hs.exists_deletion honce with ⟨deletion, s₂, hgroup, hdeletion, h₂⟩
  rw [h₁] at hgroup h₂
  cases verify : policy.verifyDeletion with
  | false =>
    rw [← List.append_nil (deletion.calls report.layer)] at hdeletion
    exact ⟨⟨report, deletion, none, verify.symm, by simp⟩, s₂, rfl, hgroup,
      ⟨s₁, hrespond, hdeletion⟩, h₂⟩
  | true =>
    rcases hs.lookup s₂ report.layer with ⟨found, s₃, hrespond₃, h₃, hstatus⟩
    have hgone : ¬(view s₂).Has report.layer := by
      rw [h₂]
      exact Catalog.not_has_cull hsound hbad
    rw [if_neg hgone] at hstatus
    have hfound : found.isNotFound = true := by
      rw [Response.isNotFound, hstatus]
      rfl
    exact ⟨⟨report, deletion, some found, verify.symm, by simp [hfound]⟩, s₃, rfl, hgroup,
      ⟨s₁, hrespond, hdeletion.append ⟨s₃, hrespond₃, rfl⟩⟩, h₃.trans h₂⟩

-- The induction is on the rounds; each one leaves a sound catalog with one bad layer less.
theorem exists_cullings (policy : Policy) (n : Nat) {state : σ} (hsound : (view state).Sound)
    (hn : n ≤ (view state).bad.length) :
    ∃ (cs : List (Culling policy)) (next : σ), cs.map Culling.layer = (view state).bad.take n ∧
      cs.flatMap (·.deletion.removal.group?.toList) =
        (((view state).bad.take n).filterMap (view state).holder?).eraseDups ∧
      Replies respond (cs.flatMap (·.round.exchanges)) state next ∧
      view next = (view state).culled n := by
  induction n generalizing state with
  | zero => exact ⟨[], state, rfl, rfl, rfl, (Catalog.culled_zero _).symm⟩
  | succ n ih =>
    cases hbad : (view state).bad with
    | nil => simp [hbad] at hn
    | cons layer rest =>
      rcases hs.exists_culling policy hsound hbad with ⟨c, s₁, rfl, hgroup, hround, h₁⟩
      have hrest : (view s₁).bad = rest := by
        rw [h₁, Catalog.cull_bad hbad]
      have hsound₁ : (view s₁).Sound := by
        rw [h₁]
        exact hsound.cull hbad
      have hn₁ : n ≤ (view s₁).bad.length := by
        rw [hbad, List.length_cons] at hn
        rw [hrest]
        omega
      rcases ih hsound₁ hn₁ with ⟨cs, s₂, hlayers, hgroups, hrounds, h₂⟩
      refine ⟨c :: cs, s₂, ?_, ?_, hround.append hrounds, ?_⟩
      . rw [List.map_cons, hlayers, hrest, List.take_succ_cons]
      . rw [List.flatMap_cons, hgroup, hgroups, h₁, ← hbad, Catalog.eraseDups_holders hsound hbad]
      . rw [h₂, h₁, Catalog.culled_cull hsound hbad]

end Serves

section Run

open Course

variable {σ : Type} {respond : Counterpart Call Answer σ} {view : σ → Catalog} {policy : Policy}
  {state : σ}

theorem Serves.run_eq_of_length_le (hs : Serves respond view) (hsound : (view state).Sound)
    (hdry : policy.dryRun = false) (hlimit : (view state).bad.length ≤ policy.maxIterations) :
    ((Cleanup.run policy).run respond state).1.result = .ok {
        iterations := (view state).bad.length
        culledLayers := (view state).bad
        removedGroups := ((view state).bad.filterMap (view state).holder?).eraseDups
        pendingLayer := none
        finished := true } ∧
      view ((Cleanup.run policy).run respond state).2 =
        (view state).culled policy.maxIterations := by
  rcases hs.exists_cullings policy _ hsound (Nat.le_refl _) with
    ⟨cs, s₁, hlayers, hgroups, hrounds, h₁⟩
  rw [List.take_length] at hlayers hgroups
  have hlength : cs.length = (view state).bad.length := by
    rw [← hlayers, List.length_map]
  have hclean : (view s₁).bad = [] := by
    rw [h₁, Catalog.culled, List.drop_length]
  rcases hs.exists_clean hclean with ⟨document, s₂, clean, hrespond, h₂⟩
  have hfits : (Ending.clean document clean).Fits policy cs.length := by
    rw [hlength]
    exact hlimit
  have hreplies : Replies respond ((⟨cs, _, hfits⟩ : Course policy).rounds.flatMap Round.exchanges)
      state s₂ := by
    rw [Course.rounds, List.flatMap_append, List.flatMap_map, List.flatMap_singleton]
    exact hrounds.append ⟨s₂, hrespond, rfl⟩
  rw [run_eq_of_replies _ hdry hreplies]
  constructor
  . rw [Course.result, Ending.result, summary_eq, Summary.finish, hlength, hlayers, hgroups]
  . rw [h₂, h₁, Catalog.culled_of_length_le hlimit]

theorem Serves.run_eq_of_lt_length (hs : Serves respond view) (hsound : (view state).Sound)
    (hdry : policy.dryRun = false) (hlimit : policy.maxIterations < (view state).bad.length) :
    ((Cleanup.run policy).run respond state).1.result =
        .error (.iterationLimit policy.maxIterations) ∧
      view ((Cleanup.run policy).run respond state).2 =
        (view state).culled policy.maxIterations := by
  rcases hs.exists_cullings policy policy.maxIterations hsound (Nat.le_of_lt hlimit) with
    ⟨cs, s₁, hlayers, _, hrounds, h₁⟩
  have hlength : cs.length = policy.maxIterations := by
    have := congrArg List.length hlayers
    rw [List.length_map, List.length_take] at this
    omega
  have hbad : (view s₁).bad ≠ [] := by
    rw [h₁, Catalog.culled, ne_eq, List.drop_eq_nil_iff]
    omega
  rcases List.exists_cons_of_ne_nil hbad with ⟨layer, rest, hbad⟩
  rcases hs.exists_report hbad with ⟨report, s₂, _, hrespond, h₂⟩
  have hfits : (Ending.limit report).Fits policy cs.length := hlength
  have hreplies : Replies respond ((⟨cs, _, hfits⟩ : Course policy).rounds.flatMap Round.exchanges)
      state s₂ := by
    rw [Course.rounds, List.flatMap_append, List.flatMap_map, List.flatMap_singleton]
    exact hrounds.append ⟨s₂, hrespond, rfl⟩
  rw [run_eq_of_replies _ hdry hreplies]
  exact ⟨rfl, h₂.trans h₁⟩

end Run

/-- The cleanup of a well-behaved server removes the bad layers in their order, up to the limit, and
the groups that hold them, and it changes nothing else. -/
theorem Cleanup.run_cleans (limit : Nat) (verify : Bool) {σ : Type}
    {respond : Counterpart Call Answer σ} {view : σ → Catalog} (hs : Serves respond view) {state : σ}
    (hsound : (view state).Sound) :
    ((view state).bad.length ≤ limit →
      ((Cleanup.run ⟨limit, verify, false⟩).run respond state).1.result = .ok {
        iterations := (view state).bad.length
        culledLayers := (view state).bad
        removedGroups := ((view state).bad.filterMap (view state).holder?).eraseDups
        pendingLayer := none
        finished := true }) ∧
    (limit < (view state).bad.length →
      ((Cleanup.run ⟨limit, verify, false⟩).run respond state).1.result =
        .error (.iterationLimit limit)) ∧
    view ((Cleanup.run ⟨limit, verify, false⟩).run respond state).2 =
      (view state).culled limit := by
  have henough := @Serves.run_eq_of_length_le _ _ _ ⟨limit, verify, false⟩ _ hs hsound rfl
  have htoofew := @Serves.run_eq_of_lt_length _ _ _ ⟨limit, verify, false⟩ _ hs hsound rfl
  refine ⟨fun h => (henough h).1, fun h => (htoofew h).1, ?_⟩
  rcases Nat.lt_or_ge limit (view state).bad.length with h | h
  . exact (htoofew h).2
  . exact (henough h).2

namespace Catalog

open Script in
def sharedGroup : Catalog where
  bad := [sampleLayer, ⟨"00d1f6a8-7c35-4e02-b94f-6d5e4c3b2a19", by decide +kernel⟩]
  groups := [⟨sampleGroup,
    [⟨"00d1f6a8-7c35-4e02-b94f-6d5e4c3b2a19", by decide +kernel⟩, sampleLayer]⟩]

theorem sound_sharedGroup : sharedGroup.Sound := by
  constructor
  all_goals decide +kernel

end Catalog

open Catalog in
theorem Cleanup.run_cleans_sharedGroup :
    ((Cleanup.run ⟨2, true, false⟩).run respond sharedGroup).1.result =
        .ok ⟨2, sharedGroup.bad, [Script.sampleGroup], none, true⟩ ∧
      ((Cleanup.run ⟨1, true, false⟩).run respond sharedGroup).1.result =
        .error (.iterationLimit 1) ∧
      ((Cleanup.run ⟨2, true, false⟩).run respond sharedGroup).2 = ⟨[], [], []⟩ := by
  have htwo := Cleanup.run_cleans 2 true serves_respond sound_sharedGroup
  have hone := Cleanup.run_cleans 1 true serves_respond sound_sharedGroup
  refine ⟨htwo.1 (by decide), hone.2.1 (by decide), htwo.2.2.trans ?_⟩
  decide +kernel

end LayerCull
