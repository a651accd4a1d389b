import LayerCull.Proofs.Execution
import Mathlib.Data.List.Forall2

/-!
This module contains the proof that the password shows nowhere but in the credentials: two runs with
two passwords, against servers that give the same answers, are told apart by the authorization of
those requests that carry the configured credentials, and by nothing else.
-/

namespace LayerCull

open Dialogue

namespace Http

theorem shown_of_ne {config : Config} {call : Call} (h : call ≠ .capabilities) :
    shown config call = [basicCredentials config.username.toList config.password.toList] := by
  cases call with
  | capabilities => contradiction
  | deleteLayer | deleteGroup | lookup => rfl

/-- The requests for the call under two passwords: the second one shows the other password where the
first one shows the configured one, and is the same in everything else. -/
structure SameButPassword (config : Config) (other : String) (call : Call)
    (first second : Request) : Prop where
  built : Request.build config call = .ok first
  rebuilt : Request.build (config.withPassword other) call = .ok second
  method : second.method = first.method
  url : second.url = first.url
  target : second.target = first.target
  timeoutSeconds : second.timeoutSeconds = first.timeoutSeconds
  anonymous : call = .capabilities → second.authorization = first.authorization
  shown : call ≠ .capabilities → ∃ named,
    first.authorization =
      named ++ [basicCredentials config.username.toList config.password.toList] ∧
    second.authorization = named ++ [basicCredentials config.username.toList other.toList]

variable (config : Config) (other : String) (call : Call)

theorem address_withPassword :
    Address.ofCall (config.withPassword other) call = Address.ofCall config call := by
  cases call <;> rfl

/-- What becomes of the call does not depend on the password. -/
inductive BuiltAlike : Except Fault Request → Except Fault Request → Prop where
  | error (fault : Fault) : BuiltAlike (.error fault) (.error fault)
  | ok {first second : Request} (h : SameButPassword config other call first second) :
    BuiltAlike (.ok first) (.ok second)

theorem build_withPassword :
    BuiltAlike config other call (Request.build config call)
      (Request.build (config.withPassword other) call) := by
  cases hbuild : Request.build config call with
  | error fault =>
    rw [build_eq_error_iff, ← address_withPassword config other, ← build_eq_error_iff] at hbuild
    rw [hbuild]
    exact .error fault
  | ok first =>
    rcases build_eq_ok_iff.1 hbuild with ⟨url, hurl, hsendable, rfl⟩
    rw [← address_withPassword config other] at hurl
    have hsecond := build_eq_ok_iff.2 ⟨url, hurl, hsendable, rfl⟩
    rw [hsecond]
    refine .ok ⟨hbuild, hsecond, rfl, rfl, rfl, rfl, ?_, ?_⟩
    . rintro rfl
      rfl
    . intro hcall
      exact ⟨_, by rw [shown_of_ne hcall], by rw [shown_of_ne hcall]; rfl⟩

theorem receive_of_sameButPassword {config : Config} {other : String} {call : Call}
    {first second : Request} (h : SameButPassword config other call first second)
    (delivery : Delivery) : second.receive delivery = first.receive delivery := by
  cases delivery with
  | answered | brokenOff => rfl
  | unanswered timedOut => rw [Request.receive, Request.receive, h.url]

/-- The calls of two runs meet the same answers if the requests do. -/
theorem answering_withPassword (answers : Nat → Delivery) :
    answering (config.withPassword other) (inTurn answers) = answering config (inTurn answers) := by
  funext call number
  have hbuilt := build_withPassword config other call
  unfold answering
  generalize Request.build config call = first at hbuilt ⊢
  generalize Request.build (config.withPassword other) call = second at hbuilt ⊢
  cases hbuilt with
  | error fault => rfl
  | ok h => simp only [inTurn, receive_of_sameButPassword h]

theorem requests_withPassword (calls : List Call) :
    List.Forall₂ (fun first second => ∃ call, SameButPassword config other call first second)
      (calls.filterMap (request? config))
      (calls.filterMap (request? (config.withPassword other))) := by
  induction calls with
  | nil => exact .nil
  | cons call calls ih =>
    have hbuilt := build_withPassword config other call
    rw [List.filterMap_cons, List.filterMap_cons, request?, request?]
    generalize Request.build config call = first at hbuilt ⊢
    generalize Request.build (config.withPassword other) call = second at hbuilt ⊢
    cases hbuilt with
    | error fault => exact ih
    | ok h => exact .cons ⟨call, h⟩ ih

end Http

namespace Program

variable {line : CommandLine} {s : Surroundings}

/-- The second execution is the first one, but for requests that may differ as the relation says. -/
structure AlikeBut (differ : Http.Request → Http.Request → Prop) (first second : Execution) :
    Prop where
  output : second.output = first.output
  errors : second.errors = first.errors
  exitCode : second.exitCode = first.exitCode
  requests : List.Forall₂ differ first.requests second.requests

/-- The requests are for the same call of a run that the line starts, under the two passwords. -/
def DifferInPassword (line : CommandLine) (s : Surroundings) (other : String)
    (first second : Http.Request) : Prop :=
  ∃ config call, line.legalConfig s = .ok config ∧
    Http.SameButPassword config other call first second

theorem AlikeBut.of_transcripts {differ : Http.Request → Http.Request → Prop}
    {first second : Transcript Http.Request Http.Delivery Nat} (logging : Logging)
    (clocks : Nat → Log.Clock) (hnoted : noted second.entries = noted first.entries)
    (hresult : second.result = first.result)
    (hrequests : List.Forall₂ differ (questions first.entries) (questions second.entries)) :
    AlikeBut differ (.ofTranscript logging clocks first) (.ofTranscript logging clocks second) := by
  unfold Execution.ofTranscript
  rw [hnoted, hresult]
  exact ⟨rfl, rfl, rfl, hrequests⟩

section Password

variable {password other : String} (h : password ≠ "") (hother : other ≠ "")
  (clocks : Nat → Log.Clock) (answers : Nat → Http.Delivery)

include h hother

theorem execute_withPassword_of_rejected {failure : Failure}
    (hrejected : (line.withPassword password).legalConfig s = .error failure) :
    AlikeBut (DifferInPassword (line.withPassword password) s other)
      (execute (line.withPassword password) s clocks (inTurn answers) 0)
      (execute (line.withPassword other) s clocks (inTurn answers) 0) := by
  have hrejected' : (line.withPassword other).legalConfig s = .error failure := by
    rw [line.legalConfig_withPassword s h hother, hrejected]
    rfl
  unfold execute
  rw [run_of_rejected _ _ hrejected, run_of_rejected _ _ hrejected']
  apply AlikeBut.of_transcripts
  . rfl
  . rfl
  . dsimp only
    rw [questions_map_note, questions_map_note]
    exact .nil

theorem execute_withPassword_of_accepted {config : Config}
    (haccepted : (line.withPassword password).legalConfig s = .ok config) :
    AlikeBut (DifferInPassword (line.withPassword password) s other)
      (execute (line.withPassword password) s clocks (inTurn answers) 0)
      (execute (line.withPassword other) s clocks (inTurn answers) 0) := by
  have haccepted' : (line.withPassword other).legalConfig s =
      .ok (config.withPassword other) := by
    rw [line.legalConfig_withPassword s h hother, haccepted]
    rfl
  have hpolicy : (config.withPassword other).policy (line.withPassword other).dryRun =
      config.policy (line.withPassword password).dryRun := rfl
  have hcarried := Http.carried_overWire config (inTurn answers)
    (Cleanup.run (config.policy (line.withPassword password).dryRun)) 0
  have hcarried' := Http.carried_overWire (config.withPassword other) (inTurn answers)
    (Cleanup.run (config.policy (line.withPassword password).dryRun)) 0
  rw [Http.answering_withPassword] at hcarried'
  have hresult := hcarried'.result.trans hcarried.result.symm
  have hnoted := hcarried'.noted_eq.trans hcarried.noted_eq.symm
  unfold execute
  rw [run_of_accepted _ _ haccepted rfl, run_of_accepted _ _ haccepted' rfl, hpolicy]
  apply AlikeBut.of_transcripts
  . simp only [noted_append, noted_map_note]
    rw [hnoted, hresult]
    rfl
  . rw [hresult]
  . simp only [questions_append, questions_map_note, List.nil_append, List.append_nil]
    rw [hcarried.questions_eq, hcarried'.questions_eq]
    apply (Http.requests_withPassword config other _).imp
    rintro first second ⟨call, hdiffer⟩
    exact ⟨config, call, haccepted, hdiffer⟩

end Password

/-- Two runs with two passwords write the same and end in the same way, and their requests differ in
the credentials only. -/
theorem execute_alikeButPassword (line : CommandLine) (s : Surroundings) {password other : String}
    (h : password ≠ "") (hother : other ≠ "") (clocks : Nat → Log.Clock) (answers : Nat → Http.Delivery) :
    AlikeBut (DifferInPassword (line.withPassword password) s other)
      (execute (line.withPassword password) s clocks (inTurn answers) 0)
      (execute (line.withPassword other) s clocks (inTurn answers) 0) := by
  cases hlegal : (line.withPassword password).legalConfig s with
  | error failure => exact execute_withPassword_of_rejected h hother clocks answers hlegal
  | ok config => exact execute_withPassword_of_accepted h hother clocks answers hlegal

/-- A line for a server at hand. -/
def localLine : CommandLine where
  endpoint := some "http://localhost:8080"
  username := some "admin"

def bareSurroundings : Surroundings :=
  ⟨fun _ => none, fun _ => .error .missing⟩

/-- Reports one layer, and then no more. -/
def reportOnce (number : Nat) : Http.Delivery :=
  if number = 0 then
    .answered 200 (Utf8.encode (Marker.metadataFailure.saying Script.sampleLayer).toList)
  else
    .answered 200 []

def anyTime (_ : Nat) : Log.Clock :=
  ⟨"2026-01-01T00:00:00.000000Z", "7"⟩

theorem execute_alikeButPassword_reportOnce :
    (execute (localLine.withPassword "geoserver") bareSurroundings anyTime
        (inTurn reportOnce) 0).requests.map (fun request => (request.method, request.target)) =
      [(.get, "/geoserver/wms?request=GetCapabilities&service=wms&version=1.1.1"),
        (.delete, "/geoserver/rest/layers/3f2b8c1e-0d4a-4b6f-9e57-a1c2d3e4f506"),
        (.get, "/geoserver/wms?request=GetCapabilities&service=wms&version=1.1.1")] ∧
    AlikeBut (DifferInPassword (localLine.withPassword "geoserver") bareSurroundings "secret")
      (execute (localLine.withPassword "geoserver") bareSurroundings anyTime (inTurn reportOnce) 0)
      (execute (localLine.withPassword "secret") bareSurroundings anyTime (inTurn reportOnce) 0) := by
  constructor
  . decide +kernel
  . exact execute_alikeButPassword localLine bareSurroundings (by decide) (by decide) anyTime
      reportOnce

end Program

end LayerCull
