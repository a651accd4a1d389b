import LayerCull.Program
import LayerCull.Proofs.Endpoint
import Mathlib.Data.List.TakeWhile

/-!
This module contains where each setting of a cleanup comes from: the command line, else the file, else
the default. `resolve_run_iff` states it together with all the ways to fail, none of which looks at
what a setting says.
-/

namespace LayerCull

namespace Url

theorem withoutSlashes_append_slashes (text : List Char) (count : Nat) :
    withoutSlashes (text ++ List.replicate count '/') = withoutSlashes text := by
  induction count with
  | zero => rw [List.replicate_zero, List.append_nil]
  | succ count ih =>
    rw [List.replicate_succ', ← List.append_assoc, withoutSlashes_concat_slash, ih]

theorem exists_append_slashes (text : List Char) :
    ∃ count, text = withoutSlashes text ++ List.replicate count '/' := by
  have hslashes : ∀ c ∈ text.reverse.takeWhile (· == '/'), c = '/' := by
    intro c hc
    simpa using List.mem_takeWhile_imp hc
  refine ⟨(text.reverse.takeWhile (· == '/')).length, ?_⟩
  rw [← List.reverse_inj, List.reverse_append, withoutSlashes, List.reverse_reverse,
    List.reverse_replicate, ← List.eq_replicate_of_mem hslashes, List.takeWhile_append_dropWhile]

/-- Only slashes at the end go, and all of them. -/
theorem withoutSlashes_eq_iff {text front : List Char} :
    withoutSlashes text = front ↔
      (∃ count, text = front ++ List.replicate count '/') ∧ front.getLast? ≠ some '/' := by
  constructor
  . rintro rfl
    exact ⟨exists_append_slashes text, getLast?_withoutSlashes text⟩
  . rintro ⟨⟨count, rfl⟩, hlast⟩
    rw [withoutSlashes_append_slashes, withoutSlashes_eq_self hlast]

end Url

theorem Config.dropTrailingSlashes_eq_iff {text front : String} :
    dropTrailingSlashes text = front ↔
      (∃ count, text.toList = front.toList ++ List.replicate count '/') ∧
        front.toList.getLast? ≠ some '/' := by
  rw [← Url.withoutSlashes_eq_iff, ← toList_dropTrailingSlashes, String.toList_inj]

namespace CommandLine

variable {line : CommandLine} {s : Surroundings}

/-- The settings below the command line: those of its file, or none. -/
inductive HasLower (line : CommandLine) (s : Surroundings) : Settings → Prop
  | noFile : line.file = none → HasLower line s {}
  | file {path text : String} {settings : Settings} : line.file = some path →
    s.textAt path = .ok text → Settings.ofText s.environment text = .ok settings →
    HasLower line s settings

/-- The settings without a default, under their names, as the line and the settings below it give
them. -/
def needed (line : CommandLine) (lower : Settings) : List (String × Option String) := [
  ("geoserver.endpoint (-g)", line.endpoint.or lower.endpoint),
  ("geoserver.username (-u)", line.username.or lower.username),
  ("geoserver.password (-p)", line.password.or lower.password)]

/-- The configuration takes each setting from the line, else from the settings below, else by
default. -/
structure Chooses (line : CommandLine) (lower : Settings) (config : Config) : Prop where
  endpoint : ∃ given count, line.endpoint.or lower.endpoint = some given ∧
    given.toList = config.endpoint.toList ++ List.replicate count '/' ∧
    config.endpoint.toList.getLast? ≠ some '/'
  username : line.username.or lower.username = some config.username
  password : line.password.or lower.password = some config.password
  workspace : config.workspace = (line.workspace.or lower.workspace).getD "piazza"
  maxIterations : config.maxIterations = (line.maxIterations.or lower.maxIterations).getD 100
  timeoutSeconds : config.timeoutSeconds = (line.timeoutSeconds.or lower.timeoutSeconds).getD 30
  verifyDeletion : config.verifyDeletion = true ↔
    line.verifyDeletion = true ∨ lower.verifyDeletion = some true

/-- What comes of a command line in its surroundings. -/
inductive Resolves (line : CommandLine) (s : Surroundings) : Except Failure Config → Prop
  | unreadable {path : String} {reason : Unreadable} : line.file = some path →
    s.textAt path = .error reason → Resolves line s (.error (.unreadable reason.message))
  | notDocument {path text : String} : line.file = some path → s.textAt path = .ok text →
    (∀ settings, Settings.ofText s.environment text ≠ .ok settings) →
    Resolves line s (.error Settings.unreadableDocument)
  | missing {lower : Settings} {field : String} : HasLower line s lower →
    (line.needed lower).find? (·.2.isNone) = some (field, none) →
    Resolves line s (.error (.missingSetting field))
  | chosen {lower : Settings} {config : Config} : HasLower line s lower →
    Chooses line lower config → Resolves line s (.ok config)

theorem overlay_settings (line : CommandLine) (lower : Settings) :
    lower.overlay line.settings = {
      endpoint := line.endpoint.or lower.endpoint
      username := line.username.or lower.username
      password := line.password.or lower.password
      workspace := line.workspace.or lower.workspace
      maxIterations := line.maxIterations.or lower.maxIterations
      verifyDeletion := (if line.verifyDeletion then some true else none).or lower.verifyDeletion
      timeoutSeconds := line.timeoutSeconds.or lower.timeoutSeconds } := by
  simp [Settings.overlay, settings]

theorem verifies_iff (flag : Bool) (lower : Option Bool) :
    ((if flag then some true else none).or lower).getD false = true ↔
      flag = true ∨ lower = some true := by
  cases flag <;> cases lower <;> simp

theorem resolve_of_given {settings : Settings} {endpoint username password : String}
    (hendpoint : settings.endpoint = some endpoint) (husername : settings.username = some username)
    (hpassword : settings.password = some password) :
    settings.resolve = .ok {
      endpoint := Config.dropTrailingSlashes endpoint, username, password
      workspace := settings.workspace.getD "piazza"
      timeoutSeconds := settings.timeoutSeconds.getD 30
      maxIterations := settings.maxIterations.getD 100
      verifyDeletion := settings.verifyDeletion.getD false } := by
  unfold Settings.resolve
  rw [hendpoint, husername, hpassword]
  rfl

/-- Either the first setting that is not given is named, or all are given. -/
theorem missing_or_given (line : CommandLine) (lower : Settings) :
    (∃ field, (line.needed lower).find? (·.2.isNone) = some (field, none) ∧
        (lower.overlay line.settings).resolve = .error (.missingSetting field)) ∨
      (line.needed lower).find? (·.2.isNone) = none ∧
        ∃ endpoint username password, line.endpoint.or lower.endpoint = some endpoint ∧
          line.username.or lower.username = some username ∧
          line.password.or lower.password = some password := by
  rw [overlay_settings, needed]
  cases line.endpoint.or lower.endpoint with
  | none => exact .inl ⟨_, rfl, rfl⟩
  | some endpoint =>
    cases line.username.or lower.username with
    | none => exact .inl ⟨_, rfl, rfl⟩
    | some username =>
      cases line.password.or lower.password with
      | none => exact .inl ⟨_, rfl, rfl⟩
      | some password => exact .inr ⟨rfl, endpoint, username, password, rfl, rfl, rfl⟩

theorem resolve_overlay_eq_ok_iff {lower : Settings} {config : Config} :
    (lower.overlay line.settings).resolve = .ok config ↔ Chooses line lower config := by
  constructor
  . intro h
    rcases missing_or_given line lower with
      ⟨field, _, hmissing⟩ | ⟨_, endpoint, username, password, hendpoint, husername, hpassword⟩
    . rw [hmissing] at h
      contradiction
    . rw [overlay_settings, resolve_of_given hendpoint husername hpassword] at h
      obtain rfl := Except.ok.inj h
      rcases Config.dropTrailingSlashes_eq_iff.1 (Eq.refl (Config.dropTrailingSlashes endpoint)) with
        ⟨⟨count, hcount⟩, hlast⟩
      exact ⟨⟨endpoint, count, hendpoint, hcount, hlast⟩, husername, hpassword, rfl, rfl, rfl,
        verifies_iff _ _⟩
  . rintro ⟨⟨endpoint, count, hendpoint, hcount, hlast⟩, husername, hpassword, hworkspace,
      hiterations, htimeout, hverify⟩
    rw [overlay_settings, resolve_of_given hendpoint husername hpassword,
      Config.dropTrailingSlashes_eq_iff.2 ⟨⟨count, hcount⟩, hlast⟩, ← hworkspace, ← hiterations,
      ← htimeout]
    rw [← verifies_iff, ← Bool.eq_iff_iff] at hverify
    rw [← hverify]

theorem resolve_overlay_eq_error_iff {lower : Settings} {failure : Failure} :
    (lower.overlay line.settings).resolve = .error failure ↔
      ∃ field, failure = .missingSetting field ∧
        (line.needed lower).find? (·.2.isNone) = some (field, none) := by
  rcases missing_or_given line lower with
    ⟨field, hfield, hmissing⟩ | ⟨hfield, endpoint, username, password, hendpoint, husername, hpassword⟩
  . rw [hmissing, hfield]
    simp [eq_comm]
  . rw [overlay_settings, resolve_of_given hendpoint husername hpassword, hfield]
    simp

theorem fileSettings_eq_ok_iff {lower : Settings} :
    line.fileSettings s = .ok lower ↔ HasLower line s lower := by
  unfold fileSettings
  constructor
  . intro h
    split at h
    . next hfile =>
      obtain rfl := Except.ok.inj h
      exact .noFile hfile
    . next path hfile =>
      split at h
      . next text htext => exact .file hfile htext h
      . contradiction
  . intro h
    cases h with
    | noFile hfile => rw [hfile]
    | file hfile htext hsettings => simp only [hfile, htext, hsettings]

theorem fileSettings_eq_error_iff {failure : Failure} :
    line.fileSettings s = .error failure ↔
      ∃ path, line.file = some path ∧
        ((∃ reason, s.textAt path = .error reason ∧ failure = .unreadable reason.message) ∨
          ∃ text, s.textAt path = .ok text ∧ failure = Settings.unreadableDocument ∧
            ∀ settings, Settings.ofText s.environment text ≠ .ok settings) := by
  unfold fileSettings
  cases line.file with
  | none => simp
  | some path =>
    cases htext : s.textAt path with
    | error reason => simp [htext, eq_comm]
    | ok text =>
      cases hsettings : Settings.ofText s.environment text with
      | ok settings => simp [htext, hsettings]
      | error failure' =>
        have hsame : failure' = Settings.unreadableDocument := by
          unfold Settings.ofText at hsettings
          split at hsettings
          . contradiction
          . exact (Except.error.inj hsettings).symm
        simp [htext, hsettings, hsame, eq_comm]

/-- Every command line in its surroundings ends in one of these ways, and in each where it applies. -/
theorem config_eq_iff {result : Except Failure Config} :
    line.config s = result ↔ Resolves line s result := by
  unfold config
  constructor
  . intro h
    cases hlower : line.fileSettings s with
    | error failure =>
      rw [hlower] at h
      subst h
      rcases fileSettings_eq_error_iff.1 hlower with
        ⟨path, hfile, ⟨reason, hreason, rfl⟩ | ⟨text, htext, rfl, hnot⟩⟩
      . exact .unreadable hfile hreason
      . exact .notDocument hfile htext hnot
    | ok lower =>
      rw [hlower] at h
      have hlower := fileSettings_eq_ok_iff.1 hlower
      cases result with
      | error failure =>
        rcases resolve_overlay_eq_error_iff.1 h with ⟨field, rfl, hmissing⟩
        exact .missing hlower hmissing
      | ok config => exact .chosen hlower (resolve_overlay_eq_ok_iff.1 h)
  . intro h
    cases h with
    | unreadable hfile hreason =>
      rw [fileSettings_eq_error_iff.2 ⟨_, hfile, .inl ⟨_, hreason, rfl⟩⟩]
      rfl
    | notDocument hfile htext hnot =>
      rw [fileSettings_eq_error_iff.2 ⟨_, hfile, .inr ⟨_, htext, rfl, hnot⟩⟩]
      rfl
    | missing hlower hmissing =>
      rw [fileSettings_eq_ok_iff.2 hlower]
      exact resolve_overlay_eq_error_iff.2 ⟨_, rfl, hmissing⟩
    | chosen hlower hchooses =>
      rw [fileSettings_eq_ok_iff.2 hlower]
      exact resolve_overlay_eq_ok_iff.2 hchooses

/-- The dialogue that resolves a command line only notes the name of the file before. -/
theorem result_resolve {Q A σ : Type} (respond : Dialogue.Counterpart Q A σ) (state : σ) :
    ((line.resolve s).run respond state).1.result = line.config s := by
  unfold resolve
  cases line.file <;> cases line.config s <;> rfl

theorem resolve_run_iff {Q A σ : Type} (respond : Dialogue.Counterpart Q A σ) (state : σ)
    (line : CommandLine) (s : Surroundings) (result : Except Failure Config) :
    ((line.resolve s).run respond state).1.result = result ↔ Resolves line s result := by
  rw [result_resolve, config_eq_iff]

end CommandLine

end LayerCull
