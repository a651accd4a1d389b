import LayerCull.Proofs.Account
import LayerCull.Proofs.Legality
import LayerCull.Proofs.Wire

/-!
This module contains the executions of the program: the requests that it makes, the text on its two
streams, and its exit code. `execute_outcome` states what they say about the settings and about the
cleanup, for every command line, all surroundings and every server.
-/

namespace LayerCull

open Dialogue

section Noting

variable {Q A α β σ : Type}

/-- Makes the notes, one after the other, and goes on. -/
def Dialogue.noting (notes : List Note) (d : Dialogue Q A α) : Dialogue Q A α :=
  notes.foldr .note d

theorem Dialogue.run_noting (respond : Counterpart Q A σ) (notes : List Note) (d : Dialogue Q A α)
    (state : σ) :
    (noting notes d).run respond state =
      (⟨notes.map .note ++ (d.run respond state).1.entries, (d.run respond state).1.result⟩,
        (d.run respond state).2) := by
  induction notes with
  | nil => rfl
  | cons n notes ih =>
    rw [noting, List.foldr_cons, ← noting, run, ih]
    rfl

theorem Dialogue.questions_map_note (notes : List Note) :
    questions (notes.map (.note : Note → Entry Q A)) = [] := by
  induction notes with
  | nil => rfl
  | cons n notes ih => exact ih

theorem Dialogue.noted_map_note (notes : List Note) :
    noted (notes.map (.note : Note → Entry Q A)) = notes := by
  induction notes with
  | nil => rfl
  | cons n notes ih => exact congrArg (n :: ·) ih

end Noting

namespace Program

variable {σ : Type}

/-- The notes before the settings are known. -/
def opening (line : CommandLine) : List Note :=
  .log .programStarted :: line.file.toList.map fun path => .log (.fileNamed path)

/-- The notes on settings that are not carried out. -/
def rejection (failure : Failure) : List Note :=
  [.log (.settingsRejected failure), .log (.settingsAdvice failure), .complaint (.cause failure)]

/-- The notes after the cleanup. -/
def conclusion : Except Failure Summary → List Note
  | .ok summary =>
    [.log (.cleanupReported summary.culledLayers.length summary.removedGroups.length
      summary.iterations)]
  | .error failure =>
    .log (.cleanupFailed failure) ::
      (failure.responseBody?.toList.map fun body => .log (.failureBody body)) ++
        [.log (.recoveryAdvice failure), .complaint (.cause failure), .complaint (.advice failure)]

/-- The exit code after the cleanup. -/
def codeOf : Except Failure Summary → Nat
  | .ok _ => 0
  | .error failure => failure.exitCode

theorem giveUp_eq {Q A : Type} (failure : Failure) :
    (giveUp failure : Dialogue Q A Nat) =
      noting (conclusion (.error failure)) (.done failure.exitCode) := by
  unfold giveUp
  rw [conclusion]
  cases failure.responseBody? <;> rfl

theorem clean_eq (config : Config) (dryRun : Bool) :
    clean config dryRun = noting [.log (.settingsResolved config.describe)]
      ((Http.overWire config (Cleanup.run (config.policy dryRun))).attempt.bind fun result =>
        noting (conclusion result) (.done (codeOf result))) := by
  have hend : ∀ result : Except Failure Summary,
      noting (conclusion result) (.done (codeOf result)) = (match result with
        | .ok summary =>
          (Dialogue.log (.cleanupReported summary.culledLayers.length summary.removedGroups.length
            summary.iterations)).bind fun _ => .done 0
        | .error failure => giveUp failure : Dialogue Http.Request Http.Delivery Nat) := by
    intro result
    cases result with
    | ok summary => rfl
    | error failure => exact (giveUp_eq failure).symm
  simp only [hend]
  rfl

theorem attempt_ofExcept {Q A α : Type} (x : Except Failure α) :
    (Dialogue.ofExcept x : Dialogue Q A α).attempt = .done x := by
  cases x <;> rfl

theorem ofExcept_bind {Q A α β : Type} (x : Except Failure α) (f : α → Except Failure β) :
    (Dialogue.ofExcept (x >>= f) : Dialogue Q A β) =
      (Dialogue.ofExcept x).bind fun value => .ofExcept (f value) := by
  cases x <;> rfl

theorem prepare_eq {Q A : Type} (line : CommandLine) (s : Surroundings) :
    (prepare line s : Dialogue Q A Config) =
      noting (line.file.toList.map fun path => .log (.fileNamed path))
        (.ofExcept (line.legalConfig s)) := by
  unfold prepare CommandLine.resolve CommandLine.legalConfig
  rw [ofExcept_bind]
  simp only [ofExcept_bind]
  cases line.file <;> rfl

theorem run_eq (line : CommandLine) (s : Surroundings) :
    run line s = noting (opening line)
      (match line.legalConfig s with
      | .ok config => clean config line.dryRun
      | .error failure => noting (rejection failure) (.done failure.exitCode)) := by
  have hattempt : (prepare line s : Dialogue Http.Request Http.Delivery Config).attempt =
      noting (line.file.toList.map fun path => .log (.fileNamed path))
        (.done (line.legalConfig s)) := by
    rw [prepare_eq, ← attempt_ofExcept]
    cases line.file <;> rfl
  unfold run opening
  rw [hattempt]
  cases line.file <;> cases line.legalConfig s <;> rfl

section Run

variable {line : CommandLine} {s : Surroundings}

theorem run_of_rejected (respond : Counterpart Http.Request Http.Delivery σ) (state : σ)
    {failure : Failure} (h : line.legalConfig s = .error failure) :
    ((run line s).run respond state).1 =
      ⟨(opening line ++ rejection failure).map .note, .ok failure.exitCode⟩ := by
  simp only [run_eq, h, run_noting, Dialogue.run, List.append_nil, List.map_append]

theorem run_of_accepted (respond : Counterpart Http.Request Http.Delivery σ) (state : σ)
    {config : Config} (h : line.legalConfig s = .ok config) {cleanup : Transcript _ _ Summary}
    (hcleanup : ((Http.overWire config (Cleanup.run (config.policy line.dryRun))).run
      respond state).1 = cleanup) :
    ((run line s).run respond state).1 =
      ⟨(opening line ++ [Note.log (.settingsResolved config.describe)]).map .note ++ cleanup.entries ++
        (conclusion cleanup.result).map .note, .ok (codeOf cleanup.result)⟩ := by
  simp only [run_eq, h, clean_eq, run_noting, run_bind, run_attempt, hcleanup, Dialogue.run,
    List.append_nil, List.map_append, List.append_assoc]

end Run

/-- What a run does to the world. -/
structure Execution where
  requests : List Http.Request
  output : String
  errors : String
  exitCode : Nat

/-- What the note puts on the stream. -/
def put (logging : Logging) (stream : Stream) (clock : Log.Clock) (n : Note) : String :=
  match written? logging clock n with
  | some (target, line) => if target = stream then line ++ "\n" else ""
  | none => ""

/-- What the notes put on the stream, each at its own time. -/
def text (logging : Logging) (stream : Stream) (clocks : Nat → Log.Clock) (notes : List Note) :
    String :=
  String.join (notes.mapIdx fun number n => put logging stream (clocks number) n)

def Execution.ofTranscript (logging : Logging) (clocks : Nat → Log.Clock)
    (transcript : Transcript Http.Request Http.Delivery Nat) : Execution where
  requests := questions transcript.entries
  output := text logging .output clocks (noted transcript.entries)
  errors := text logging .errors clocks (noted transcript.entries)
  exitCode :=
    match transcript.result with
    | .ok exitCode => exitCode
    | .error failure => failure.exitCode

/-- Runs the program against a server. -/
def execute (line : CommandLine) (s : Surroundings) (clocks : Nat → Log.Clock)
    (respond : Counterpart Http.Request Http.Delivery σ) (state : σ) : Execution :=
  .ofTranscript (Logging.choose line s.environment) clocks ((run line s).run respond state).1

/-- The settings are refused, and nothing is done. -/
structure Refused (e : Execution) : Prop where
  requests : e.requests = []
  output : e.output = ""
  exitCode : e.exitCode = 1

/-- The output is what the cleanup tells, and the exit code says how it ended. -/
structure Reflects (config : Config) (dryRun : Bool) (cleanup : Transcript Call Answer Summary)
    (e : Execution) : Prop where
  requests : e.requests = (questions cleanup.entries).filterMap (Http.request? config)
  output : e.output = String.join ((progress cleanup.entries).map fun event => event.line ++ "\n")
  succeeded : e.exitCode = 0 ↔ ∃ summary, cleanup.result = .ok summary
  unreached : e.exitCode = 2 ↔ ∃ fault, cleanup.result = .error (.transport fault)
  failed : e.exitCode = 1 ↔
    ∃ failure, cleanup.result = .error failure ∧ ∀ fault, failure ≠ .transport fault
  clean : e.exitCode = 0 → dryRun = false → ∃ document,
    ((exchanges cleanup.entries).filterMap Exchange.document?).getLast? = some (.ok document) ∧
      badLayer? document.body = none

section Output

variable (logging : Logging)

theorem put_progress (clock : Log.Clock) (event : Progress) :
    put logging .output clock (.progress event) = event.line ++ "\n" := rfl

theorem put_log (clock : Log.Clock) (event : Log.Event) :
    put logging .output clock (.log event) = "" := by
  cases hlets : logging.filter.lets event <;> simp [put, written?, hlets]

theorem put_complaint (clock : Log.Clock) (complaint : Complaint) :
    put logging .output clock (.complaint complaint) = "" := rfl

/-- Whatever the log is set to, the output is the lines of the progress. -/
theorem text_output {Q A : Type} (clocks : Nat → Log.Clock) (entries : List (Entry Q A)) :
    text logging .output clocks (noted entries) =
      String.join ((progress entries).map fun event => event.line ++ "\n") := by
  induction entries generalizing clocks with
  | nil => rfl
  | cons entry entries ih =>
    rcases entry with ⟨question, answer⟩ | n
    . exact ih clocks
    . have hnoted : text logging .output clocks (noted (.note n :: entries)) =
          put logging .output (clocks 0) n ++
            text logging .output (fun number => clocks (number + 1)) (noted entries) := by
        rw [text, noted_cons_note, List.mapIdx_cons, String.join_cons]
        rfl
      rw [hnoted, ih]
      cases n with
      | progress event =>
        rw [put_progress, ← String.join_cons]
        rfl
      | log event =>
        rw [put_log, String.empty_append]
        rfl
      | complaint complaint =>
        rw [put_complaint, String.empty_append]
        rfl

theorem progress_opening {Q A : Type} (line : CommandLine) :
    progress ((opening line).map (.note : Note → Entry Q A)) = [] := by
  unfold opening
  cases line.file <;> rfl

theorem progress_conclusion {Q A : Type} (result : Except Failure Summary) :
    progress ((conclusion result).map (.note : Note → Entry Q A)) = [] := by
  cases result with
  | ok summary => rfl
  | error failure =>
    rw [conclusion]
    cases failure.responseBody? <;> rfl

end Output

section Code

variable (result : Except Failure Summary)

theorem codeOf_eq_zero_iff : codeOf result = 0 ↔ ∃ summary, result = .ok summary := by
  cases result with
  | ok summary => exact iff_of_true rfl ⟨summary, rfl⟩
  | error failure =>
    apply iff_of_false
    . rcases failure.exitCode_eq_one_or_two with h | h <;> simp [codeOf, h]
    . simp

theorem codeOf_eq_two_iff : codeOf result = 2 ↔ ∃ fault, result = .error (.transport fault) := by
  cases result with
  | ok summary => simp [codeOf]
  | error failure =>
    rw [codeOf, failure.exitCode_eq_two_iff]
    simp

theorem codeOf_eq_one_iff : codeOf result = 1 ↔
    ∃ failure, result = .error failure ∧ ∀ fault, failure ≠ .transport fault := by
  cases result with
  | ok summary => simp [codeOf]
  | error failure =>
    have htwo := failure.exitCode_eq_two_iff
    have hone : failure.exitCode = 1 ↔ ¬failure.exitCode = 2 := by
      have := failure.exitCode_eq_one_or_two
      omega
    rw [codeOf, hone, htwo]
    simp

end Code

theorem exitCode_of_configuration {failure : Failure} (h : failure.category = .configuration) :
    failure.exitCode = 1 := by
  rw [Failure.exitCode, Failure.severity, h]

theorem refused_of_rejected {line : CommandLine} {s : Surroundings} {failure : Failure}
    (h : line.legalConfig s = .error failure) (clocks : Nat → Log.Clock)
    (respond : Counterpart Http.Request Http.Delivery σ) (state : σ) :
    Refused (execute line s clocks respond state) := by
  have hcode := exitCode_of_configuration (line.onlyMisconfigured_legalConfig s failure h)
  rw [execute, run_of_rejected respond state h, Execution.ofTranscript]
  constructor
  case requests => exact questions_map_note _
  case output =>
    rw [text_output, List.map_append, progress_append, progress_opening]
    rfl
  case exitCode => exact hcode

theorem document_of_ok {policy : Policy} (hdry : policy.dryRun = false)
    (respond : Counterpart Call Answer σ) (state : σ) {summary : Summary}
    (h : ((Cleanup.run policy).run respond state).1.result = .ok summary) :
    ∃ document, ((exchanges ((Cleanup.run policy).run respond state).1.entries).filterMap
      Exchange.document?).getLast? = some (.ok document) ∧ badLayer? document.body = none := by
  rcases Course.run_course hdry respond state with ⟨course, hrun⟩
  rw [hrun] at h ⊢
  rcases (Course.accounted h).last with ⟨document, hlast, hclean⟩
  rcases List.getLast?_eq_some_iff.1 hlast with ⟨before, hcalls⟩
  refine ⟨document, ?_, hclean⟩
  rw [hcalls, List.filterMap_append]
  exact List.getLast?_concat

theorem reflects_of_accepted {line : CommandLine} {s : Surroundings} {config : Config}
    (h : line.legalConfig s = .ok config) (clocks : Nat → Log.Clock)
    (respond : Counterpart Http.Request Http.Delivery σ) (state : σ) :
    Reflects config line.dryRun
      ((Cleanup.run (config.policy line.dryRun)).run (Http.answering config respond) state).1
      (execute line s clocks respond state) := by
  have hcarried := Http.carried_overWire config respond (Cleanup.run (config.policy line.dryRun))
    state
  rw [execute, run_of_accepted respond state h rfl, hcarried.result, Execution.ofTranscript]
  constructor
  case requests =>
    rw [questions_append, questions_append, questions_map_note, questions_map_note,
      List.append_nil, List.nil_append, hcarried.questions_eq]
  case output =>
    rw [text_output, progress_append, progress_append, List.map_append, progress_append,
      progress_opening, progress_conclusion, List.append_nil, hcarried.progress_eq]
    rfl
  case succeeded => exact codeOf_eq_zero_iff _
  case unreached => exact codeOf_eq_two_iff _
  case failed => exact codeOf_eq_one_iff _
  case clean =>
    intro hcode hdry
    rcases (codeOf_eq_zero_iff _).1 hcode with ⟨summary, hsummary⟩
    exact document_of_ok hdry _ state hsummary

/-- Settings that are refused end the program before anything is asked of the server; otherwise the
cleanup is carried out, and output and exit code tell of it. -/
theorem execute_outcome (line : CommandLine) (s : Surroundings) (clocks : Nat → Log.Clock)
    (respond : Counterpart Http.Request Http.Delivery σ) (state : σ) :
    match line.legalConfig s with
    | .error _ => Refused (execute line s clocks respond state)
    | .ok config =>
      Reflects config line.dryRun
        ((Cleanup.run (config.policy line.dryRun)).run (Http.answering config respond) state).1
        (execute line s clocks respond state) := by
  split
  . next failure h => exact refused_of_rejected h clocks respond state
  . next config h => exact reflects_of_accepted h clocks respond state

end Program

end LayerCull
