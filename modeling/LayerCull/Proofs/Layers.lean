import LayerCull.Config.Settings
import Mathlib.Data.List.Induction

/-!
This module contains what becomes of layers of settings that are laid over one another. Each setting
has the value of the last layer that gives it one, and nothing else of the layers matters:
`merged_iff_lastGiven`. A `Setting` names one of the seven settings, so that what holds of all of
them is said once; `ext_given?` and `given?_overlay` look at each.
-/

namespace LayerCull

/-- The settings that a layer may give. -/
inductive Setting where
  | endpoint
  | username
  | password
  | workspace
  | maxIterations
  | verifyDeletion
  | timeoutSeconds
  deriving DecidableEq, Repr

/-- What a setting is set to. -/
abbrev Setting.Value : Setting → Type
  | .endpoint | .username | .password | .workspace => String
  | .maxIterations | .timeoutSeconds => Nat
  | .verifyDeletion => Bool

namespace Settings

/-- What the settings say of one of them. -/
def given? (settings : Settings) : (setting : Setting) → Option setting.Value
  | .endpoint => settings.endpoint
  | .username => settings.username
  | .password => settings.password
  | .workspace => settings.workspace
  | .maxIterations => settings.maxIterations
  | .verifyDeletion => settings.verifyDeletion
  | .timeoutSeconds => settings.timeoutSeconds

theorem ext_given? {a b : Settings} (h : ∀ setting, a.given? setting = b.given? setting) :
    a = b := by
  cases a
  cases b
  rw [mk.injEq]
  exact ⟨h .endpoint, h .username, h .password, h .workspace, h .maxIterations, h .verifyDeletion,
    h .timeoutSeconds⟩

theorem given?_open (setting : Setting) : ({} : Settings).given? setting = none := by
  cases setting <;> rfl

theorem given?_overlay (lower upper : Settings) (setting : Setting) :
    (lower.overlay upper).given? setting = (upper.given? setting).or (lower.given? setting) := by
  cases setting <;> simp [overlay, given?]

theorem overlay_assoc (a b c : Settings) : (a.overlay b).overlay c = a.overlay (b.overlay c) := by
  apply ext_given?
  intro setting
  simp only [given?_overlay, Option.or_assoc]

instance : Std.Associative overlay :=
  ⟨overlay_assoc⟩

theorem open_overlay (a : Settings) : overlay {} a = a := by
  apply ext_given?
  intro setting
  rw [given?_overlay, given?_open, Option.or_none]

theorem overlay_open (a : Settings) : a.overlay {} = a := by
  apply ext_given?
  intro setting
  rw [given?_overlay, given?_open, Option.none_or]

theorem overlay_self (a : Settings) : a.overlay a = a := by
  apply ext_given?
  intro setting
  rw [given?_overlay, Option.or_self]

/-- The settings of all layers together. Each layer lies above those before it. -/
def merged (layers : List Settings) : Settings :=
  layers.foldl overlay {}

theorem merged_append (lower upper : List Settings) :
    merged (lower ++ upper) = (merged lower).overlay (merged upper) := by
  calc
    merged (lower ++ upper) = upper.foldl overlay ((merged lower).overlay {}) := by
      rw [merged, List.foldl_append, overlay_open, merged]
    _ = (merged lower).overlay (merged upper) := List.foldl_assoc

theorem merged_singleton (layer : Settings) : merged [layer] = layer :=
  open_overlay layer

theorem merged_cons (layer : Settings) (upper : List Settings) :
    merged (layer :: upper) = layer.overlay (merged upper) := by
  rw [← List.singleton_append, merged_append, merged_singleton]

/-- Layers that lie next to one another may be merged first. -/
theorem merged_append_merged (lower middle upper : List Settings) :
    merged (lower ++ merged middle :: upper) = merged (lower ++ middle ++ upper) := by
  rw [merged_append, merged_cons, merged_append, merged_append, overlay_assoc]

theorem merged_repeat (lower : List Settings) (layer : Settings) (upper : List Settings) :
    merged (lower ++ layer :: layer :: upper) = merged (lower ++ layer :: upper) := by
  rw [merged_append, merged_append, merged_cons, merged_cons,
    ← overlay_assoc layer layer, overlay_self]

/-- The value of a setting in the last layer that gives it one, if any layer does. What is given may
be empty, zero or false. -/
inductive LastGiven (layers : List Settings) (setting : Setting) : Option setting.Value → Prop
  | given {lower upper : List Settings} {layer : Settings} {value : setting.Value} :
    layers = lower ++ layer :: upper → layer.given? setting = some value →
    (∀ later ∈ upper, later.given? setting = none) → LastGiven layers setting (some value)
  | nowhere : (∀ layer ∈ layers, layer.given? setting = none) → LastGiven layers setting none

variable {layers : List Settings} {setting : Setting} {value : Option setting.Value}

/-- What one more layer does. -/
theorem LastGiven.concat (h : LastGiven layers setting value) (layer : Settings) :
    LastGiven (layers ++ [layer]) setting ((layer.given? setting).or value) := by
  cases hlayer : layer.given? setting with
  | some new => exact .given rfl hlayer (List.forall_mem_nil _)
  | none =>
    rw [Option.none_or]
    cases h with
    | @given lower upper last old hlayers hold hlater =>
      have hlayers' : layers ++ [layer] = lower ++ last :: (upper ++ [layer]) := by
        rw [hlayers, List.append_assoc, List.cons_append]
      apply LastGiven.given hlayers' hold
      rw [List.forall_mem_append]
      exact ⟨hlater, List.forall_mem_singleton.2 hlayer⟩
    | nowhere hnone =>
      apply LastGiven.nowhere
      rw [List.forall_mem_append]
      exact ⟨hnone, List.forall_mem_singleton.2 hlayer⟩

theorem lastGiven_merged (layers : List Settings) (setting : Setting) :
    LastGiven layers setting ((merged layers).given? setting) := by
  -- The induction takes away the layer on top, which is the last one of the list.
  induction layers using List.reverseRecOn with
  | nil =>
    rw [merged, List.foldl_nil, given?_open]
    exact .nowhere (List.forall_mem_nil _)
  | append_singleton layers layer ih =>
    rw [merged_append, merged_singleton, given?_overlay]
    exact ih.concat layer

theorem given?_merged_eq_none (h : ∀ layer ∈ layers, layer.given? setting = none) :
    (merged layers).given? setting = none := by
  have hlast := lastGiven_merged layers setting
  generalize (merged layers).given? setting = value at hlast ⊢
  cases hlast with
  | nowhere _ => rfl
  | @given lower upper layer new hlayers hnew _ =>
    have hmem : layer ∈ layers := by
      rw [hlayers]
      exact List.mem_append_right _ List.mem_cons_self
    rw [h layer hmem] at hnew
    contradiction

theorem given?_merged_eq_iff :
    (merged layers).given? setting = value ↔ LastGiven layers setting value := by
  constructor
  . rintro rfl
    exact lastGiven_merged layers setting
  . intro h
    cases h with
    | nowhere hnone => exact given?_merged_eq_none hnone
    | given hlayers hvalue hlater =>
      rw [hlayers, merged_append, merged_cons, given?_overlay, given?_overlay,
        given?_merged_eq_none hlater, hvalue]
      rfl

theorem resolved_or_missing (settings : Settings) :
    (∃ config, settings.resolve = .ok config) ∨
      ∃ field, settings.resolve = .error (.missingSetting field) := by
  unfold resolve
  cases settings.endpoint with
  | none => exact .inr ⟨_, rfl⟩
  | some endpoint =>
    cases settings.username with
    | none => exact .inr ⟨_, rfl⟩
    | some username =>
      cases settings.password with
      | none => exact .inr ⟨_, rfl⟩
      | some password => exact .inl ⟨_, rfl⟩

/-- Whatever the layers, each setting has the value of the last one that gives it, or none. So they
may be merged in any grouping, a layer that gives nothing or that was there just before changes
nothing, and layers with the same last values come to the same configuration or miss the same
setting. -/
theorem merged_iff_lastGiven (layers : List Settings) :
    (∀ setting value,
      (merged layers).given? setting = value ↔ LastGiven layers setting value) ∧
      (∀ a b c : Settings, (a.overlay b).overlay c = a.overlay (b.overlay c)) ∧
      (∀ a : Settings, overlay {} a = a ∧ a.overlay {} = a ∧ a.overlay a = a) ∧
      (∀ lower middle upper,
        merged (lower ++ merged middle :: upper) = merged (lower ++ middle ++ upper)) ∧
      (∀ lower layer upper,
        merged (lower ++ layer :: layer :: upper) = merged (lower ++ layer :: upper)) ∧
      ∀ others, (∀ setting value,
          LastGiven layers setting value ↔ LastGiven others setting value) →
        (∃ config, (merged layers).resolve = .ok config ∧ (merged others).resolve = .ok config) ∨
          ∃ field, (merged layers).resolve = .error (.missingSetting field) ∧
            (merged others).resolve = .error (.missingSetting field) := by
  refine ⟨fun _ _ => given?_merged_eq_iff, overlay_assoc, ?_, merged_append_merged, merged_repeat,
    ?_⟩
  . intro a
    exact ⟨open_overlay a, overlay_open a, overlay_self a⟩
  . intro others hsame
    have hmerged : merged layers = merged others := by
      apply ext_given?
      intro setting
      rw [given?_merged_eq_iff, hsame]
      exact lastGiven_merged others setting
    rw [hmerged]
    rcases resolved_or_missing (merged others) with ⟨config, hconfig⟩ | ⟨field, hfield⟩
    . exact .inl ⟨config, hconfig, hconfig⟩
    . exact .inr ⟨field, hfield, hfield⟩

/-- An empty text, zero and false are given like anything else. -/
example : merged [
    { workspace := some "maps", maxIterations := some 5, verifyDeletion := some true },
    { workspace := some "", maxIterations := some 0, verifyDeletion := some false }, {}] =
    { workspace := some "", maxIterations := some 0, verifyDeletion := some false } := by
  decide

end Settings

end LayerCull
