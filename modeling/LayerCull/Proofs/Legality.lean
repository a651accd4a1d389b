import LayerCull.Program

/-!
This module contains the legal configurations of a command line. Every reason for which there is none
is a fault of the configuration, and whether there is one does not depend on which password is given.
-/

namespace LayerCull

/-- Whatever fails here is a fault of the configuration. -/
def OnlyMisconfigured {α : Type} (x : Except Failure α) : Prop :=
  ∀ failure, x = .error failure → failure.category = .configuration

namespace OnlyMisconfigured

variable {α β : Type}

theorem ok (value : α) : OnlyMisconfigured (.ok value) := by
  intro failure h
  contradiction

theorem error {failure : Failure} (h : failure.category = .configuration) :
    OnlyMisconfigured (.error failure : Except Failure α) := by
  intro failure' h'
  rw [← Except.error.inj h']
  exact h

theorem bind {x : Except Failure α} {f : α → Except Failure β} (hx : OnlyMisconfigured x)
    (hf : ∀ value, OnlyMisconfigured (f value)) : OnlyMisconfigured (x >>= f) := by
  cases x with
  | ok value => exact hf value
  | error failure => exact error (hx failure rfl)

theorem ensure (condition : Bool) {failure : Failure} (h : failure.category = .configuration) :
    OnlyMisconfigured (Check.ensure condition failure) := by
  unfold Check.ensure
  split
  . exact ok ()
  . exact error h

theorem required (field : String) (value : Option String) :
    OnlyMisconfigured (Check.required field value) := by
  cases value with
  | none => exact error rfl
  | some text => exact ok text

theorem url (field value : String) : OnlyMisconfigured (Check.url field value) := by
  have hreject : ∀ reason, OnlyMisconfigured (Check.url.reject field value reason) :=
    fun reason => error rfl
  unfold Check.url
  split
  . apply hreject
  . split
    . apply hreject
    . dsimp only
      split
      . split
        . apply hreject
        . exact ok ()
      . apply hreject

theorem validate (config : Config) : OnlyMisconfigured config.validate := by
  unfold Config.validate
  apply bind (url _ _)
  intro _
  apply bind (ensure _ rfl)
  intro _
  apply bind (ensure _ rfl)
  intro _
  apply bind (bind (ensure _ rfl) fun _ => ensure _ rfl)
  intro _
  apply bind (ensure _ rfl)
  intro _
  exact ensure _ rfl

theorem resolve (settings : Settings) : OnlyMisconfigured settings.resolve := by
  unfold Settings.resolve
  apply bind (required _ _)
  intro _
  apply bind (required _ _)
  intro _
  apply bind (required _ _)
  intro _
  exact ok _

theorem fileSettings (line : CommandLine) (s : Surroundings) :
    OnlyMisconfigured (line.fileSettings s) := by
  unfold CommandLine.fileSettings Settings.ofText
  split
  . exact ok _
  . split
    . split
      . exact ok _
      . exact error rfl
    . exact error rfl

end OnlyMisconfigured

namespace CommandLine

/-- The configuration that file and line make together, if it is legal. -/
def legalConfig (line : CommandLine) (s : Surroundings) : Except Failure Config := do
  let config ← line.config s
  config.validate
  return config

theorem onlyMisconfigured_legalConfig (line : CommandLine) (s : Surroundings) :
    OnlyMisconfigured (line.legalConfig s) := by
  unfold legalConfig config
  apply OnlyMisconfigured.bind
  . apply OnlyMisconfigured.bind (.fileSettings line s)
    intro lower
    exact .resolve _
  . intro config
    exact OnlyMisconfigured.bind (.validate config) fun _ => .ok config

end CommandLine

section Password

variable {password other : String}

def Config.withPassword (config : Config) (password : String) : Config :=
  { config with password }

theorem Config.validate_withPassword {config : Config} (h : config.password ≠ "")
    (hother : other ≠ "") : (config.withPassword other).validate = config.validate := by
  have hpassed : ∀ text failure, text ≠ "" →
      Check.ensure (!text.isEmpty) failure = .ok () := by
    intro text failure htext
    rw [Check.ensure, String.isEmpty_eq_false_iff.2 htext]
    rfl
  unfold validate
  rw [hpassed config.password _ h, hpassed (config.withPassword other).password _ hother]
  rfl

theorem Settings.resolve_withPassword (settings : Settings) :
    ({ settings with password := some other } : Settings).resolve =
      (({ settings with password := some password } : Settings).resolve).map
        (·.withPassword other) := by
  unfold resolve
  cases settings.endpoint <;> cases settings.username <;> rfl

def CommandLine.withPassword (line : CommandLine) (password : String) : CommandLine :=
  { line with password := some password }

theorem CommandLine.config_withPassword (line : CommandLine) (s : Surroundings)
    (password other : String) :
    (line.withPassword other).config s =
      ((line.withPassword password).config s).map (·.withPassword other) := by
  have hfile : ∀ text, (line.withPassword text).fileSettings s = line.fileSettings s :=
    fun _ => rfl
  unfold config
  rw [hfile, hfile]
  cases line.fileSettings s with
  | error failure => rfl
  | ok lower => exact Settings.resolve_withPassword (lower.overlay line.settings)

theorem CommandLine.password_of_config {line : CommandLine} {s : Surroundings} {config : Config}
    (h : (line.withPassword password).config s = .ok config) : config.password = password := by
  have hsame := config_withPassword line s password password
  rw [h] at hsame
  exact congrArg Config.password (Except.ok.inj hsame)

/-- Which password is given makes no difference, as long as one is given. -/
theorem CommandLine.legalConfig_withPassword (line : CommandLine) (s : Surroundings)
    (h : password ≠ "") (hother : other ≠ "") :
    (line.withPassword other).legalConfig s =
      ((line.withPassword password).legalConfig s).map (·.withPassword other) := by
  unfold legalConfig
  rw [config_withPassword line s password other]
  cases hconfig : (line.withPassword password).config s with
  | error failure => rfl
  | ok config =>
    have hpassword : config.password ≠ "" := by
      rw [password_of_config hconfig]
      exact h
    change ((config.withPassword other).validate >>= fun _ => .ok (config.withPassword other)) =
      (config.validate >>= fun _ => .ok config).map (·.withPassword other)
    rw [Config.validate_withPassword hpassword hother]
    cases config.validate <;> rfl

end Password

end LayerCull
