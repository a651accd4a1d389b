import LayerCull.Http.Client
import LayerCull.Proofs.Transcript

/-!
This module contains the proof that a dialogue of calls goes over the wire as it is: it ends as it
would if the server answered the calls themselves, and says the same, with each call put as the one
request that is built from it. `carried_overWire` states this of every dialogue and every server.
-/

namespace LayerCull

open Dialogue

/-- Gives the answers one after the other, whatever is asked. -/
def Dialogue.inTurn {Q A : Type} (answers : Nat → A) : Counterpart Q A Nat :=
  fun _ number => (answers number, number + 1)

namespace Http

variable {α σ : Type}

/-- The server as the calls meet it, behind the wire. -/
def answering (config : Config) (respond : Counterpart Request Delivery σ) :
    Counterpart Call Answer σ :=
  fun call state =>
    match Request.build config call with
    | .error fault => (.error fault, state)
    | .ok request => (request.receive (respond request state).1, (respond request state).2)

/-- What is said over the wire where a dialogue says the entry. -/
def spoken (config : Config) : Entry Call Unit → List (Entry Request Unit)
  | .note n => [.note n]
  | .exchange call _ =>
    .note (.log (.requestMade (Method.ofCall call).name (Address.ofCall config call))) ::
      match Request.build config call with
      | .error _ => []
      | .ok request => [.exchange request ()]

/-- The second run is the first one, put over the wire. -/
structure Carried (config : Config) (upper : Transcript Call Answer α × σ)
    (lower : Transcript Request Delivery α × σ) : Prop where
  result : lower.1.result = upper.1.result
  state : lower.2 = upper.2
  entries : said lower.1.entries = (said upper.1.entries).flatMap (spoken config)

/-- What the call shows of the configured credentials. -/
def shown (config : Config) (call : Call) : List String :=
  if Request.showsCredentials call then
    [basicCredentials config.username.toList config.password.toList]
  else
    []

theorem build_eq_ok_iff {config : Config} {call : Call} {request : Request} :
    Request.build config call = .ok request ↔
      ∃ url, Url.parse (Address.ofCall config call).toList = .ok url ∧
        Request.isSendable (Request.takeUser url).2 = true ∧
        request = {
          method := Method.ofCall call
          url := (Request.takeUser url).2
          authorization := (Request.takeUser url).1.toList ++ shown config call
          timeoutSeconds := config.timeoutSeconds } := by
  unfold Request.build
  cases Url.parse (Address.ofCall config call).toList with
  | error reason => simp
  | ok url =>
    dsimp only
    split
    . next hsendable =>
      constructor
      . intro h
        exact ⟨url, rfl, hsendable, (Except.ok.inj h).symm⟩
      . rintro ⟨_, hurl, _, rfl⟩
        cases hurl
        rfl
    . next hsendable =>
      constructor
      . intro h
        contradiction
      . rintro ⟨_, hurl, h, _⟩
        cases hurl
        exact absurd h hsendable

theorem build_eq_error_iff {config : Config} {call : Call} {fault : Fault} :
    Request.build config call = .error fault ↔
      (∃ reason, Url.parse (Address.ofCall config call).toList = .error reason ∧
        fault = { stage := .building }) ∨
      ∃ url, Url.parse (Address.ofCall config call).toList = .ok url ∧
        Request.isSendable (Request.takeUser url).2 = false ∧
        fault = { stage := .building, url := some (String.ofList (Request.takeUser url).2.render) } := by
  unfold Request.build
  cases Url.parse (Address.ofCall config call).toList with
  | error reason =>
    constructor
    . intro h
      exact .inl ⟨reason, rfl, (Except.error.inj h).symm⟩
    . rintro (⟨_, _, rfl⟩ | ⟨_, hurl, _⟩)
      . rfl
      . contradiction
  | ok url =>
    dsimp only
    split
    . next hsendable =>
      constructor
      . intro h
        contradiction
      . rintro (⟨_, hurl, _⟩ | ⟨_, hurl, h, _⟩)
        . contradiction
        . cases hurl
          rw [hsendable] at h
          contradiction
    . next hsendable =>
      constructor
      . intro h
        exact .inr ⟨url, rfl, Bool.eq_false_iff.2 hsendable, (Except.error.inj h).symm⟩
      . rintro (⟨_, hurl, _⟩ | ⟨_, hurl, _, rfl⟩)
        . contradiction
        . cases hurl
          rfl

theorem perform_bind (config : Config) (call : Call) (f : Answer → Dialogue Request Delivery α) :
    (perform config call).bind f =
      .note (.log (.requestMade (Method.ofCall call).name (Address.ofCall config call)))
        (match Request.build config call with
        | .error fault => f (.error fault)
        | .ok request => .ask request fun delivery => f (request.receive delivery)) := by
  unfold perform
  simp only [bind_eq, log_bind, Dialogue.bind]
  cases Request.build config call <;> rfl

/-- The induction is on the dialogue; its calls are the only place where the two runs differ. -/
theorem carried_overWire (config : Config) (respond : Counterpart Request Delivery σ)
    (d : Dialogue Call Answer α) (state : σ) :
    Carried config (d.run (answering config respond) state)
      ((overWire config d).run respond state) := by
  unfold overWire
  induction d generalizing state with
  | done value => exact ⟨rfl, rfl, rfl⟩
  | fail failure => exact ⟨rfl, rfl, rfl⟩
  | note n rest ih =>
    rcases ih state with ⟨hresult, hstate, hentries⟩
    refine ⟨hresult, hstate, ?_⟩
    rw [lower, run, run, said_cons_note, said_cons_note, hentries]
    rfl
  | ask call next ih =>
    rw [lower, perform_bind, run, run]
    cases hbuild : Request.build config call with
    | error fault =>
      have hanswer : answering config respond call state = (.error fault, state) := by
        rw [answering, hbuild]
      rcases ih (.error fault) state with ⟨hresult, hstate, hentries⟩
      rw [hanswer]
      refine ⟨hresult, hstate, ?_⟩
      rw [said_cons_note, said_cons_exchange, List.flatMap_cons, spoken, hbuild, ← hentries]
      rfl
    | ok request =>
      have hanswer : answering config respond call state =
          (request.receive (respond request state).1, (respond request state).2) := by
        rw [answering, hbuild]
      rcases ih (request.receive (respond request state).1) (respond request state).2
        with ⟨hresult, hstate, hentries⟩
      rw [hanswer]
      refine ⟨hresult, hstate, ?_⟩
      rw [said_cons_note, said_cons_exchange, List.flatMap_cons, spoken, hbuild, ← hentries]
      rfl

section Carried

variable {config : Config}

/-- The request that is made for a call, if one can be built. -/
def request? (config : Config) (call : Call) : Option Request :=
  (Request.build config call).toOption

theorem questions_spoken (entries : List (Entry Call Unit)) :
    questions (entries.flatMap (spoken config)) =
      (questions entries).filterMap (request? config) := by
  induction entries with
  | nil => rfl
  | cons entry entries ih =>
    rw [List.flatMap_cons, questions_append, ih]
    rcases entry with ⟨call, _⟩ | n
    . cases hbuild : Request.build config call <;>
        simp [questions, spoken, request?, hbuild, Except.toOption]
    . rfl

theorem progress_spoken (entries : List (Entry Call Unit)) :
    progress (entries.flatMap (spoken config)) = progress entries := by
  induction entries with
  | nil => rfl
  | cons entry entries ih =>
    rw [List.flatMap_cons, progress_append, ih]
    rcases entry with ⟨call, _⟩ | n
    . rw [spoken]
      cases Request.build config call <;> rfl
    . cases n <;> rfl

/-- The notes that are made where a dialogue says the entry. -/
def announced (config : Config) : Entry Call Unit → List Note
  | .note n => [n]
  | .exchange call _ =>
    [.log (.requestMade (Method.ofCall call).name (Address.ofCall config call))]

theorem noted_spoken (entries : List (Entry Call Unit)) :
    noted (entries.flatMap (spoken config)) = entries.flatMap (announced config) := by
  induction entries with
  | nil => rfl
  | cons entry entries ih =>
    rw [List.flatMap_cons, noted_append, ih]
    rcases entry with ⟨call, _⟩ | n
    . rw [spoken]
      cases Request.build config call <;> rfl
    . rfl

variable {upper : Transcript Call Answer α × σ} {lower : Transcript Request Delivery α × σ}

/-- The requests are those that are built from the calls, in their order. -/
theorem Carried.questions_eq (h : Carried config upper lower) :
    questions lower.1.entries = (questions upper.1.entries).filterMap (request? config) := by
  rw [← questions_said, h.entries, questions_spoken, questions_said]

/-- What the operator is told does not change on the way. -/
theorem Carried.progress_eq (h : Carried config upper lower) :
    progress lower.1.entries = progress upper.1.entries := by
  rw [← progress_said, h.entries, progress_spoken, progress_said]

theorem Carried.noted_eq (h : Carried config upper lower) :
    noted lower.1.entries = (said upper.1.entries).flatMap (announced config) := by
  rw [← noted_said, h.entries, noted_spoken]

end Carried

end Http

end LayerCull
