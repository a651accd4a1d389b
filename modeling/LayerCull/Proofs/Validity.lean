import LayerCull.Config.Basic

/-!
This module contains what a configuration has to fulfil, one condition for each setting, in the order
in which they are checked. `validate_reports` states that a configuration passes exactly if it fulfils
all of them, and that else the first one that it does not fulfil is reported.
-/

namespace LayerCull

namespace Text

/-- The characters with the property White_Space. -/
def blanks : List Char := [
  '\t', '\n', '\x0b', '\x0c', '\r', ' ', '\u0085', '\u00a0', '\u1680',
  '\u2000', '\u2001', '\u2002', '\u2003', '\u2004', '\u2005', '\u2006', '\u2007', '\u2008',
  '\u2009', '\u200a', '\u2028', '\u2029', '\u202f', '\u205f', '\u3000']

theorem isBlank_iff_mem {c : Char} : isBlank c = true ↔ c ∈ blanks := by
  have hcode : ∀ d : Char, c = d ↔ c.toNat = d.toNat := fun d => Char.toNat_inj.symm
  simp only [isBlank, blanks, List.mem_cons, List.not_mem_nil, or_false, hcode, Bool.or_eq_true,
    Bool.and_eq_true, decide_eq_true_eq, beq_iff_eq, Char.reduceToNat]
  omega

end Text

/-- What is asked of a setting. -/
structure Condition where
  field : String
  /-- The setting's text, as it is reported. -/
  value : String
  holds : Prop

/-- The condition does not hold, and those before it do. -/
def FirstFault (conditions : List Condition) (condition : Condition) : Prop :=
  ∃ front back, conditions = front ++ condition :: back ∧ (∀ other ∈ front, other.holds) ∧
    ¬condition.holds

namespace Check

/-- The check passes if all conditions hold, and else reports the first one that does not. -/
inductive Reports (conditions : List Condition) : Checked → Prop
  | passes : (∀ condition ∈ conditions, condition.holds) → Reports conditions (.ok ())
  | fails {condition : Condition} (reason : String) : FirstFault conditions condition →
    Reports conditions (.error (.invalidSetting condition.field condition.value reason))

namespace Reports

variable {conditions front back : List Condition} {check next : Checked}

theorem eq_ok_iff (h : Reports conditions check) :
    check = .ok () ↔ ∀ condition ∈ conditions, condition.holds := by
  cases h with
  | passes hall => simpa using hall
  | fails reason hfault =>
    rcases hfault with ⟨front, back, rfl, _, hnot⟩
    constructor
    . intro hok
      contradiction
    . intro hall
      exact absurd (hall _ (List.mem_append_right _ List.mem_cons_self)) hnot

theorem exists_of_eq_error (h : Reports conditions check) {failure : Failure}
    (hfailure : check = .error failure) : ∃ condition reason, FirstFault conditions condition ∧
      failure = .invalidSetting condition.field condition.value reason := by
  cases h with
  | passes => contradiction
  | fails reason hfault => exact ⟨_, reason, hfault, (Except.error.inj hfailure).symm⟩

theorem singleton_ok {condition : Condition} (h : condition.holds) : Reports [condition] (.ok ()) :=
  .passes (List.forall_mem_singleton.2 h)

theorem singleton_error (condition : Condition) (reason : String) (h : ¬condition.holds) :
    Reports [condition] (.error (.invalidSetting condition.field condition.value reason)) :=
  .fails reason ⟨[], [], rfl, List.forall_mem_nil _, h⟩

theorem ensure (condition : Condition) {passed : Bool} {reason : String}
    (h : passed = true ↔ condition.holds) :
    Reports [condition]
      (Check.ensure passed (.invalidSetting condition.field condition.value reason)) := by
  cases passed with
  | true => exact singleton_ok (h.1 rfl)
  | false => exact singleton_error condition reason fun hholds => absurd (h.2 hholds) (by decide)

/-- Checks that follow one another report the first fault of all. -/
theorem bind (h : Reports front check) (hnext : Reports back next) :
    Reports (front ++ back) (check >>= fun _ => next) := by
  cases h with
  | fails reason hfault =>
    rcases hfault with ⟨passed, rest, rfl, hpassed, hnot⟩
    exact .fails reason ⟨passed, rest ++ back, by simp, hpassed, hnot⟩
  | passes hfront =>
    cases hnext with
    | passes hback =>
      apply passes
      rw [List.forall_mem_append]
      exact ⟨hfront, hback⟩
    | fails reason hfault =>
      rcases hfault with ⟨passed, rest, rfl, hpassed, hnot⟩
      apply fails reason
      refine ⟨front ++ passed, rest, by simp, ?_, hnot⟩
      rw [List.forall_mem_append]
      exact ⟨hfront, hpassed⟩

end Reports

/-- The text is a URL of the web that a path can be appended to. An empty query or fragment is one,
too. -/
def NamesServer (text : String) : Prop :=
  ∃ url, Url.parse text.toList = .ok url ∧
    (String.ofList url.scheme = "http" ∨ String.ofList url.scheme = "https") ∧
    url.query = none ∧ url.fragment = none

theorem url_reports (field value : String) :
    Reports [⟨field, value, NamesServer value⟩] (url field value) := by
  have hreject : ∀ reason, ¬NamesServer value →
      Reports [⟨field, value, NamesServer value⟩] (url.reject field value reason) :=
    fun reason hnot => Reports.singleton_error ⟨field, value, _⟩ reason hnot
  unfold url
  split
  . next hempty =>
    apply hreject
    rintro ⟨url, hurl, _⟩
    rw [String.isEmpty_iff.1 hempty] at hurl
    contradiction
  . split
    . next fault hfault =>
      apply hreject
      rintro ⟨url, hurl, _⟩
      rw [hfault] at hurl
      contradiction
    . next url hurl =>
      dsimp only
      split
      . next hscheme =>
        split
        . next hmore =>
          apply hreject
          rintro ⟨other, hother, _, hquery, hfragment⟩
          rw [hurl] at hother
          obtain rfl := Except.ok.inj hother
          simp [hquery, hfragment] at hmore
        . next hplain =>
          rw [Bool.or_eq_true, not_or, Option.not_isSome_iff_eq_none,
            Option.not_isSome_iff_eq_none] at hplain
          exact Reports.singleton_ok ⟨url, hurl, hscheme, hplain⟩
      . next hscheme =>
        apply hreject
        rintro ⟨other, hother, hweb, _⟩
        rw [hurl] at hother
        obtain rfl := Except.ok.inj hother
        exact hscheme hweb

theorem nonEmpty_reports (field value : String) :
    Reports [⟨field, value, ∃ c ∈ value.toList, c ∉ Text.blanks⟩] (nonEmpty field value) := by
  apply Reports.ensure ⟨field, value, _⟩
  simp [← Text.isBlank_iff_mem]

theorem breaksSegment_iff {c : Char} :
    breaksSegment c = true ↔ c ∈ ['/', '?', '#'] ∨ c ∈ Text.blanks := by
  simp [breaksSegment, Text.isBlank_iff_mem, or_assoc]

theorem pathSegment_reports (field value : String) :
    Reports [⟨field, value, value ≠ "" ∧ ∀ c ∈ value.toList, c ∉ ['/', '?', '#'] ∧ c ∉ Text.blanks⟩]
      (pathSegment field value) := by
  unfold pathSegment nonEmpty
  cases hblank : value.toList.all Text.isBlank with
  | true =>
    apply Reports.singleton_error ⟨field, value, _⟩
    rintro ⟨hne, hchars⟩
    rcases List.exists_mem_of_ne_nil value.toList (by simpa using hne) with ⟨c, hc⟩
    exact (hchars c hc).2 (Text.isBlank_iff_mem.1 (List.all_eq_true.1 hblank c hc))
  | false =>
    have hne : value ≠ "" := by
      rintro rfl
      contradiction
    apply Reports.ensure ⟨field, value, _⟩
    simp only [Bool.not_eq_true', List.any_eq_false, breaksSegment_iff, not_or]
    exact ⟨fun hchars => ⟨hne, hchars⟩, fun h => h.2⟩

theorem range_reports (field : String) (value least greatest : Nat) :
    Reports [⟨field, toString value, least ≤ value ∧ value ≤ greatest⟩]
      (range field value least greatest) := by
  apply Reports.ensure ⟨field, toString value, least ≤ value ∧ value ≤ greatest⟩
  simp

theorem positive_reports (field : String) (value least : Nat) :
    Reports [⟨field, toString value, least ≤ value⟩] (positive field value least) := by
  apply Reports.ensure ⟨field, toString value, _⟩
  simp

end Check

namespace Config

/-- What is asked of a configuration, in the order in which it is asked. The password is never
reported. -/
def conditions (config : Config) : List Condition := [
  ⟨"geoserver.endpoint", config.endpoint, Check.NamesServer config.endpoint⟩,
  ⟨"geoserver.username", config.username, ∃ c ∈ config.username.toList, c ∉ Text.blanks⟩,
  ⟨"geoserver.password", "", config.password ≠ ""⟩,
  ⟨"geoserver.workspace", config.workspace, config.workspace ≠ "" ∧
    ∀ c ∈ config.workspace.toList, c ∉ ['/', '?', '#'] ∧ c ∉ Text.blanks⟩,
  ⟨"http.timeout_seconds", toString config.timeoutSeconds,
    1 ≤ config.timeoutSeconds ∧ config.timeoutSeconds ≤ 3600⟩,
  ⟨"cleanup.max_iterations", toString config.maxIterations, 1 ≤ config.maxIterations⟩]

theorem reports_validate (config : Config) : Check.Reports config.conditions config.validate := by
  have hendpoint := Check.url_reports "geoserver.endpoint" config.endpoint
  have husername := Check.nonEmpty_reports "geoserver.username" config.username
  have hpassword : Check.Reports [⟨"geoserver.password", "", config.password ≠ ""⟩]
      (Check.ensure (!config.password.isEmpty)
        (.invalidSetting "geoserver.password" "" "Password cannot be empty")) := by
    apply Check.Reports.ensure ⟨_, _, _⟩
    simp
  have hworkspace := Check.pathSegment_reports "geoserver.workspace" config.workspace
  have htimeout := Check.range_reports "http.timeout_seconds" config.timeoutSeconds 1 3600
  have hiterations := Check.positive_reports "cleanup.max_iterations" config.maxIterations 1
  exact hendpoint.bind (husername.bind (hpassword.bind (hworkspace.bind (htimeout.bind hiterations))))

/-- A configuration passes exactly if all that is asked of it holds; else the first fault is
reported. -/
theorem validate_reports (config : Config) :
    (config.validate = .ok () ↔ ∀ condition ∈ config.conditions, condition.holds) ∧
      ∀ failure, config.validate = .error failure → ∃ condition reason,
        FirstFault config.conditions condition ∧
          failure = .invalidSetting condition.field condition.value reason :=
  ⟨(reports_validate config).eq_ok_iff, fun _ => (reports_validate config).exists_of_eq_error⟩

end Config

end LayerCull
