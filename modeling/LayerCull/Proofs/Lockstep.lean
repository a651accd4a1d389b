import LayerCull.Proofs.Transcript

/-!
This module contains dialogues that go in lockstep: as long as the answers that they get agree, they
ask the same, note the same apart from the log, and end in the same way. `Lockstep.conduct` states what
this means for their runs.
-/

namespace LayerCull.Dialogue

variable {Q A α β σ τ : Type}

/-- The dialogues go in lockstep after the questions `before`, where `agree` says which answers to a
question that comes after other ones agree. -/
inductive Lockstep (agree : List Q → Q → A → A → Prop) :
    List Q → Dialogue Q A α → Dialogue Q A α → Prop where
  | done (before : List Q) (value : α) : Lockstep agree before (.done value) (.done value)
  | fail (before : List Q) (failure : Failure) :
    Lockstep agree before (.fail failure) (.fail failure)
  | note {before : List Q} {d e : Dialogue Q A α} (n : Note) (h : Lockstep agree before d e) :
    Lockstep agree before (.note n d) (.note n e)
  | log {before : List Q} {d e : Dialogue Q A α} (first second : Log.Event)
    (h : Lockstep agree before d e) :
    Lockstep agree before (.note (.log first) d) (.note (.log second) e)
  | ask {before : List Q} {next next' : A → Dialogue Q A α} (question : Q)
    (h : ∀ answer answer', agree before question answer answer' →
      Lockstep agree (before ++ [question]) (next answer) (next' answer')) :
    Lockstep agree before (.ask question next) (.ask question next')

/-- The runs ask the same, tell the same, and end in the same way. -/
structure SameConduct (first second : Transcript Q A α) : Prop where
  questions : questions second.entries = questions first.entries
  events : progress second.entries = progress first.entries
  order : withoutLog (said second.entries) = withoutLog (said first.entries)
  result : second.result = first.result

theorem SameConduct.of_order {first second : Transcript Q A α}
    (horder : withoutLog (said second.entries) = withoutLog (said first.entries))
    (hresult : second.result = first.result) : SameConduct first second where
  questions := by
    rw [← questions_said, ← questions_withoutLog, horder, questions_withoutLog, questions_said]
  events := by
    rw [← progress_said, ← progress_withoutLog, horder, progress_withoutLog, progress_said]
  order := horder
  result := hresult

variable {agree : List Q → Q → A → A → Prop}

/-- The two counterparts agree after all questions. -/
def AgreeAfter (agree : List Q → Q → A → A → Prop) (before : List Q)
    (respond : Counterpart Q A σ) (respond' : Counterpart Q A τ) (state : σ) (state' : τ) : Prop :=
  ∀ later question, agree (before ++ later) question
    (respond question (after respond later state)).1
    (respond' question (after respond' later state')).1

theorem AgreeAfter.next {before : List Q} {respond : Counterpart Q A σ}
    {respond' : Counterpart Q A τ} {state : σ} {state' : τ}
    (h : AgreeAfter agree before respond respond' state state') (question : Q) :
    AgreeAfter agree (before ++ [question]) respond respond' (respond question state).2
      (respond' question state').2 := by
  intro later question'
  rw [List.append_assoc]
  exact h (question :: later) question'

theorem Lockstep.bind {before : List Q} {d e : Dialogue Q A α} {f g : α → Dialogue Q A β}
    (h : Lockstep agree before d e) (hf : ∀ before value, Lockstep agree before (f value) (g value)) :
    Lockstep agree before (d.bind f) (e.bind g) := by
  induction h with
  | done before value => exact hf before value
  | fail before failure => exact .fail before failure
  | note n h ih => exact .note n ih
  | log first second h ih => exact .log first second ih
  | ask question h ih =>
    apply Lockstep.ask question
    intro answer answer' hagree
    exact ih answer answer' hagree

/-- Dialogues in lockstep have the same conduct against counterparts that agree. -/
theorem Lockstep.conduct {before : List Q} {d e : Dialogue Q A α} (h : Lockstep agree before d e)
    {respond : Counterpart Q A σ} {respond' : Counterpart Q A τ} {state : σ} {state' : τ}
    (hagree : AgreeAfter agree before respond respond' state state') :
    SameConduct (d.run respond state).1 (e.run respond' state').1 := by
  induction h generalizing state state' with
  | done before value => exact .of_order rfl rfl
  | fail before failure => exact .of_order rfl rfl
  | note n h ih =>
    have hrest := ih hagree
    apply SameConduct.of_order
    . rw [run, run, said_cons_note, said_cons_note, withoutLog_cons, withoutLog_cons _ (said _),
        hrest.order]
    . exact hrest.result
  | log first second h ih =>
    have hrest := ih hagree
    exact .of_order hrest.order hrest.result
  | ask question h ih =>
    have hanswer := hagree [] question
    rw [List.append_nil] at hanswer
    have hrest := ih _ _ hanswer (hagree.next question)
    apply SameConduct.of_order
    . rw [run, run, said_cons_exchange, said_cons_exchange, withoutLog_cons,
        withoutLog_cons _ (said _)]
      exact congrArg _ hrest.order
    . exact hrest.result

end LayerCull.Dialogue
