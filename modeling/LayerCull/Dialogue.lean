import LayerCull.Complaint
import LayerCull.Log.Event
import LayerCull.Progress

/-!
This module contains dialogues: programs that ask questions of a counterpart and make notes as they
go. `Dialogue.run` holds a dialogue against a counterpart with a state and writes the transcript,
`Dialogue.interpret` holds it inside a monad.
-/

namespace LayerCull

/-- What a dialogue lets its audience know. -/
inductive Note where
  | progress (event : Progress)
  | log (event : Log.Event)
  | complaint (complaint : Complaint)
  deriving DecidableEq, Repr

/-- A program that asks questions `Q`, gets answers `A`, and ends with a value or a failure. -/
inductive Dialogue (Q A α : Type) where
  | done (value : α)
  | fail (failure : Failure)
  | note (note : Note) (rest : Dialogue Q A α)
  | ask (question : Q) (next : A → Dialogue Q A α)

namespace Dialogue

variable {Q A Q' A' α β γ σ : Type}

def bind (d : Dialogue Q A α) (f : α → Dialogue Q A β) : Dialogue Q A β :=
  match d with
  | .done value => f value
  | .fail failure => .fail failure
  | .note n rest => .note n (rest.bind f)
  | .ask q next => .ask q fun answer => (next answer).bind f

instance : Monad (Dialogue Q A) where
  pure := .done
  bind := bind

def report (event : Progress) : Dialogue Q A Unit :=
  .note (.progress event) (.done ())

def log (event : Log.Event) : Dialogue Q A Unit :=
  .note (.log event) (.done ())

def complain (complaint : Complaint) : Dialogue Q A Unit :=
  .note (.complaint complaint) (.done ())

/-- A value that may be a failure already. -/
def ofExcept : Except Failure α → Dialogue Q A α
  | .ok value => .done value
  | .error failure => .fail failure

/-- Asks and goes on with the answer, unless the question could not be put. -/
def consult (question : Q) : Dialogue Q (Except Fault A) A :=
  .ask question fun
    | .ok answer => .done answer
    | .error fault => .fail (.transport fault)

/-- Turns the end of a dialogue, good or bad, into its value. -/
def attempt : Dialogue Q A α → Dialogue Q A (Except Failure α)
  | .done value => .done (.ok value)
  | .fail failure => .done (.error failure)
  | .note n rest => .note n rest.attempt
  | .ask q next => .ask q fun answer => (next answer).attempt

/-- Puts every question by a dialogue of its own. -/
def lower (translate : Q → Dialogue Q' A' A) : Dialogue Q A α → Dialogue Q' A' α
  | .done value => .done value
  | .fail failure => .fail failure
  | .note n rest => .note n (rest.lower translate)
  | .ask q next => (translate q).bind fun answer => (next answer).lower translate

/-- One line of a transcript. -/
inductive Entry (Q A : Type) where
  | exchange (question : Q) (answer : A)
  | note (note : Note)
  deriving DecidableEq, Repr

structure Transcript (Q A α : Type) where
  entries : List (Entry Q A)
  result : Except Failure α

/-- A counterpart answers from its state and moves on to the next one. -/
abbrev Counterpart (Q A σ : Type) := Q → σ → A × σ

/-- Holds the dialogue, and gives back the transcript and the counterpart's last state. -/
def run (respond : Counterpart Q A σ) : Dialogue Q A α → σ → Transcript Q A α × σ
  | .done value, state => (⟨[], .ok value⟩, state)
  | .fail failure, state => (⟨[], .error failure⟩, state)
  | .note n rest, state =>
    let (transcript, state) := rest.run respond state
    ({ transcript with entries := .note n :: transcript.entries }, state)
  | .ask q next, state =>
    let (answer, state) := respond q state
    let (transcript, state) := (next answer).run respond state
    ({ transcript with entries := .exchange q answer :: transcript.entries }, state)

/-- Holds the dialogue with the questions and the notes carried out in a monad. -/
def interpret {m : Type → Type} [Monad m] (answer : Q → m A) (announce : Note → m Unit) :
    Dialogue Q A α → m (Except Failure α)
  | .done value => pure (.ok value)
  | .fail failure => pure (.error failure)
  | .note n rest => do
    announce n
    rest.interpret answer announce
  | .ask q next => do
    let a ← answer q
    (next a).interpret answer announce

@[simp]
theorem pure_eq_done (value : α) : (pure value : Dialogue Q A α) = .done value := rfl

@[simp]
theorem bind_eq (d : Dialogue Q A α) (f : α → Dialogue Q A β) : d >>= f = d.bind f := rfl

theorem bind_assoc (d : Dialogue Q A α) (f : α → Dialogue Q A β) (g : β → Dialogue Q A γ) :
    (d.bind f).bind g = d.bind fun value => (f value).bind g := by
  induction d with
  | done => rfl
  | fail => rfl
  | note n rest ih => simp [bind, ih]
  | ask q next ih => simp [bind, ih]

theorem bind_done (d : Dialogue Q A α) : d.bind .done = d := by
  induction d with
  | done => rfl
  | fail => rfl
  | note n rest ih => simp [bind, ih]
  | ask q next ih => simp [bind, ih]

/-- A dialogue goes on where its first part ends. -/
theorem run_bind (respond : Counterpart Q A σ) (d : Dialogue Q A α) (f : α → Dialogue Q A β)
    (state : σ) :
    (d.bind f).run respond state =
      match d.run respond state with
      | (⟨entries, .ok value⟩, state) =>
        let (transcript, state) := (f value).run respond state
        ({ transcript with entries := entries ++ transcript.entries }, state)
      | (⟨entries, .error failure⟩, state) => (⟨entries, .error failure⟩, state) := by
  induction d generalizing state with
  | done => rfl
  | fail => rfl
  | note n rest ih =>
    simp only [bind, run, ih]
    rcases rest.run respond state with ⟨⟨entries, _ | _⟩, state⟩ <;> rfl
  | ask q next ih =>
    simp only [bind, run, ih]
    rcases (next (respond q state).1).run respond (respond q state).2
      with ⟨⟨entries, _ | _⟩, state⟩ <;> rfl

end Dialogue

end LayerCull
