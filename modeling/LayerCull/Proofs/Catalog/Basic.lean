import LayerCull.LayerId

/-!
This module contains the catalog of a map server, as far as a cleanup changes it: the layers that make
the capabilities document fail, and the layer groups that keep layers from being deleted.
-/

namespace LayerCull

structure LayerGroup where
  name : LayerId
  members : List LayerId
  deriving DecidableEq

@[ext]
structure Catalog where
  /-- The layers whose metadata cannot be written, in the order in which they are met. -/
  bad : List LayerId
  healthy : List LayerId := []
  groups : List LayerGroup := []
  deriving DecidableEq

namespace Catalog

def Has (c : Catalog) (layer : LayerId) : Prop :=
  layer ∈ c.bad ∨ layer ∈ c.healthy

instance (c : Catalog) (layer : LayerId) : Decidable (c.Has layer) :=
  inferInstanceAs (Decidable (_ ∨ _))

def Holds (c : Catalog) (group layer : LayerId) : Prop :=
  ∃ g ∈ c.groups, g.name = group ∧ layer ∈ g.members

def HeldOnce (c : Catalog) (layer : LayerId) : Prop :=
  ∀ g ∈ c.groups, ∀ g' ∈ c.groups, layer ∈ g.members → layer ∈ g'.members → g.name = g'.name

instance (c : Catalog) (layer : LayerId) : Decidable (c.HeldOnce layer) :=
  inferInstanceAs (Decidable (∀ g ∈ c.groups, ∀ g' ∈ c.groups, _))

structure Sound (c : Catalog) : Prop where
  distinct : c.bad.Nodup
  apart : ∀ layer ∈ c.bad, layer ∉ c.healthy
  heldOnce : ∀ layer ∈ c.bad, c.HeldOnce layer

/-- The first group that holds the layer. -/
def holder? (c : Catalog) (layer : LayerId) : Option LayerId :=
  (c.groups.find? fun g => layer ∈ g.members).map LayerGroup.name

def removeLayer (c : Catalog) (layer : LayerId) : Catalog :=
  { c with bad := c.bad.erase layer, healthy := c.healthy.erase layer }

def keepGroups (c : Catalog) (p : LayerId → Bool) : Catalog :=
  { c with groups := c.groups.filter fun g => p g.name }

def removeGroup (c : Catalog) (group : LayerId) : Catalog :=
  c.keepGroups (· ≠ group)

def release (c : Catalog) (layer : LayerId) : Catalog :=
  c.keepGroups fun group => c.holder? layer ≠ some group

def cull (c : Catalog) (layer : LayerId) : Catalog :=
  (c.release layer).removeLayer layer

/-- What is left when the first bad layers and the groups that held them are gone. -/
def culled (c : Catalog) (n : Nat) : Catalog where
  bad := c.bad.drop n
  healthy := c.healthy
  groups := c.groups.filter fun g => g.name ∉ (c.bad.take n).filterMap c.holder?

section Groups

variable {c : Catalog} {layer group : LayerId} {p q : LayerId → Bool}

theorem holds_of_holder? (h : c.holder? layer = some group) : c.Holds group layer := by
  rcases Option.map_eq_some_iff.1 h with ⟨g, hg, rfl⟩
  refine ⟨g, List.mem_of_find?_eq_some hg, rfl, ?_⟩
  simpa using List.find?_some hg

theorem not_holds_of_holder? (h : c.holder? layer = none) (group : LayerId) :
    ¬c.Holds group layer := by
  rw [holder?, Option.map_eq_none_iff, List.find?_eq_none] at h
  rintro ⟨g, hg, _, hlayer⟩
  exact h g hg (by simpa using hlayer)

theorem HeldOnce.eq {other : LayerId} (h : c.HeldOnce layer) (hgroup : c.Holds group layer)
    (hother : c.Holds other layer) : group = other := by
  rcases hgroup with ⟨g, hg, rfl, hlayer⟩
  rcases hother with ⟨g', hg', rfl, hlayer'⟩
  exact h g hg g' hg' hlayer hlayer'

theorem holder?_eq_some_iff (h : c.HeldOnce layer) :
    c.holder? layer = some group ↔ c.Holds group layer := by
  constructor
  . exact holds_of_holder?
  . intro hgroup
    cases hholder : c.holder? layer with
    | none => exact absurd hgroup (not_holds_of_holder? hholder group)
    | some other => rw [h.eq (holds_of_holder? hholder) hgroup]

theorem holds_keepGroups :
    (c.keepGroups p).Holds group layer ↔ c.Holds group layer ∧ p group = true := by
  unfold Holds keepGroups
  constructor
  . rintro ⟨g, hg, rfl, hlayer⟩
    rw [List.mem_filter] at hg
    exact ⟨⟨g, hg.1, rfl, hlayer⟩, hg.2⟩
  . rintro ⟨⟨g, hg, rfl, hlayer⟩, hp⟩
    exact ⟨g, List.mem_filter.2 ⟨hg, hp⟩, rfl, hlayer⟩

theorem HeldOnce.keepGroups (h : c.HeldOnce layer) (p : LayerId → Bool) :
    (c.keepGroups p).HeldOnce layer := by
  intro g hg g' hg'
  exact h g (List.mem_filter.1 hg).1 g' (List.mem_filter.1 hg').1

theorem holder?_keepGroups (h : c.HeldOnce layer) :
    (c.keepGroups p).holder? layer = (c.holder? layer).filter p := by
  apply Option.ext
  intro group
  rw [holder?_eq_some_iff (h.keepGroups p), holds_keepGroups, Option.filter_eq_some_iff,
    holder?_eq_some_iff h]

theorem keepGroups_eq_self (h : ∀ group, p group = true) : c.keepGroups p = c := by
  unfold keepGroups
  rw [List.filter_eq_self.2]
  intro g _
  exact h g.name

theorem release_of_none (h : c.holder? layer = none) : c.release layer = c := by
  apply keepGroups_eq_self
  simp [h]

theorem release_of_some (h : c.holder? layer = some group) :
    c.release layer = c.removeGroup group := by
  unfold release removeGroup
  simp only [h, ne_eq, Option.some.injEq, eq_comm]

theorem holder?_release (h : c.HeldOnce layer) : (c.release layer).holder? layer = none := by
  rw [release, holder?_keepGroups h]
  cases c.holder? layer <;> simp

end Groups

section Cull

variable {c : Catalog} {layer : LayerId} {rest : List LayerId}

theorem cull_bad (hbad : c.bad = layer :: rest) : (c.cull layer).bad = rest := by
  have hrelease : (c.release layer).bad = layer :: rest := hbad
  rw [cull, removeLayer, hrelease, List.erase_cons_head]

theorem cull_eq (hsound : c.Sound) (hbad : c.bad = layer :: rest) :
    c.cull layer = { c.release layer with bad := rest } := by
  have hhealthy : (c.release layer).healthy.erase layer = c.healthy := by
    apply List.erase_of_not_mem
    apply hsound.apart
    simp [hbad]
  have hrelease : (c.release layer).bad = layer :: rest := hbad
  rw [cull, removeLayer, hrelease, List.erase_cons_head, hhealthy]
  rfl

theorem Sound.cull (hsound : c.Sound) (hbad : c.bad = layer :: rest) : (c.cull layer).Sound := by
  have hmem : ∀ other ∈ rest, other ∈ c.bad := by
    intro other hother
    rw [hbad]
    exact List.mem_cons_of_mem _ hother
  have hdistinct := hsound.distinct
  rw [hbad] at hdistinct
  rw [cull_eq hsound hbad]
  constructor
  case distinct => exact hdistinct.of_cons
  case apart =>
    intro other hother
    exact hsound.apart other (hmem other hother)
  case heldOnce =>
    intro other hother
    exact (hsound.heldOnce other (hmem other hother)).keepGroups
      fun group => c.holder? layer ≠ some group

theorem not_has_cull (hsound : c.Sound) (hbad : c.bad = layer :: rest) :
    ¬(c.cull layer).Has layer := by
  have hdistinct := hsound.distinct
  rw [hbad, List.nodup_cons] at hdistinct
  rw [cull_eq hsound hbad]
  rintro (hlayer | hlayer)
  . exact hdistinct.1 hlayer
  . exact hsound.apart layer (by simp [hbad]) hlayer

-- The holders of later layers are the same ones, but for the group that is gone.
theorem filterMap_holder?_cull (hsound : c.Sound) {layers : List LayerId}
    (hlayers : ∀ other ∈ layers, other ∈ c.bad) :
    layers.filterMap (c.cull layer).holder? =
      (layers.filterMap c.holder?).filter fun group => c.holder? layer ≠ some group := by
  rw [List.filter_filterMap]
  induction layers with
  | nil => rfl
  | cons other layers ih =>
    have hother : (c.cull layer).holder? other =
        (c.holder? other).filter fun group => c.holder? layer ≠ some group := by
      apply @holder?_keepGroups c other fun group => c.holder? layer ≠ some group
      exact hsound.heldOnce other (hlayers other (by simp))
    rw [List.filterMap_cons, List.filterMap_cons, hother, ih]
    intro other hother
    exact hlayers other (List.mem_cons_of_mem _ hother)

theorem mem_bad_of_mem_take (hbad : c.bad = layer :: rest) {n : Nat} {other : LayerId}
    (h : other ∈ rest.take n) : other ∈ c.bad := by
  rw [hbad]
  exact List.mem_cons_of_mem _ (List.mem_of_mem_take h)

theorem eraseDups_holders (hsound : c.Sound) (hbad : c.bad = layer :: rest) (n : Nat) :
    ((c.bad.take (n + 1)).filterMap c.holder?).eraseDups =
      (c.holder? layer).toList ++
        (((c.cull layer).bad.take n).filterMap (c.cull layer).holder?).eraseDups := by
  rw [cull_bad hbad, filterMap_holder?_cull hsound fun _ => mem_bad_of_mem_take hbad, hbad,
    List.take_succ_cons, List.filterMap_cons]
  cases c.holder? layer with
  | none =>
    rw [List.filter_eq_self.2 (by simp)]
    rfl
  | some group =>
    -- `eraseDups` drops from the rest what the removed group was holding.
    have hfilter : (fun other => decide (some group ≠ some other)) = fun other => !other == group := by
      funext other
      by_cases h : other = group
      . simp [h]
      . simp [h, Ne.symm h]
    rw [hfilter]
    exact List.eraseDups_cons

theorem culled_cull (hsound : c.Sound) (hbad : c.bad = layer :: rest) (n : Nat) :
    (c.cull layer).culled n = c.culled (n + 1) := by
  have hholders := @filterMap_holder?_cull c layer hsound (rest.take n) fun _ =>
    mem_bad_of_mem_take hbad
  apply Catalog.ext
  . simp only [culled, cull_bad hbad, hbad, List.drop_succ_cons]
  . simp only [culled, cull_eq hsound hbad]
    rfl
  . simp only [culled, cull_bad hbad, hholders, hbad, List.take_succ_cons, List.filterMap_cons]
    rw [cull_eq hsound hbad, release, keepGroups, List.filter_filter]
    apply List.filter_congr
    intro g _
    cases c.holder? layer with
    | none => simp
    | some group =>
      by_cases h : g.name = group
      . simp [h]
      . simp [h, Ne.symm h]

theorem culled_of_length_le {n : Nat} (h : c.bad.length ≤ n) : c.culled n = c.culled c.bad.length := by
  rw [culled, culled, List.drop_of_length_le h, List.take_of_length_le h, List.drop_length,
    List.take_length]

theorem culled_zero (c : Catalog) : c.culled 0 = c := by
  rw [culled, List.filter_eq_self.2]
  . rfl
  . simp

end Cull

end Catalog

end LayerCull
