import LayerCull.Dialogue

/-!
This module contains the transcripts that a dialogue admits, whoever answers: `Admits` follows the
dialogue along the transcript's answers. A run writes an admitted transcript, and an admitted
transcript whose answers the counterpart gives is the one that the run writes. `Leads` follows the
dialogue along the first entries only, and says what is still to come.
-/

namespace LayerCull

namespace Dialogue

variable {Q A α β σ ε : Type}

instance instDecidableEqExcept [DecidableEq ε] [DecidableEq α] : DecidableEq (Except ε α)
  | .ok a, .ok b => decidable_of_iff (a = b) (by simp)
  | .error a, .error b => decidable_of_iff (a = b) (by simp)
  | .ok _, .error _ | .error _, .ok _ => isFalse nofun

def Entry.exchange? : Entry Q A → Option (Q × A)
  | .exchange question answer => some (question, answer)
  | .note _ => none

/-- The questions and answers, without the notes. -/
def exchanges (entries : List (Entry Q A)) : List (Q × A) :=
  entries.filterMap Entry.exchange?

@[simp]
theorem exchanges_nil : exchanges ([] : List (Entry Q A)) = [] := rfl

@[simp]
theorem exchanges_cons_exchange (question : Q) (answer : A) (entries : List (Entry Q A)) :
    exchanges (.exchange question answer :: entries) = (question, answer) :: exchanges entries :=
  rfl

@[simp]
theorem exchanges_cons_note (n : Note) (entries : List (Entry Q A)) :
    exchanges (.note n :: entries) = exchanges entries :=
  rfl

@[simp]
theorem exchanges_append (entries rest : List (Entry Q A)) :
    exchanges (entries ++ rest) = exchanges entries ++ exchanges rest :=
  List.filterMap_append

def Entry.progress? : Entry Q A → Option Progress
  | .note (.progress event) => some event
  | _ => none

/-- What the operator is told, in its order. -/
def progress (entries : List (Entry Q A)) : List Progress :=
  entries.filterMap Entry.progress?

@[simp]
theorem progress_append (entries rest : List (Entry Q A)) :
    progress (entries ++ rest) = progress entries ++ progress rest :=
  List.filterMap_append

def Entry.isLog : Entry Q A → Bool
  | .note (.log _) => true
  | _ => false

/-- The exchanges and the progress, in the order in which they come. -/
def withoutLog (entries : List (Entry Q A)) : List (Entry Q A) :=
  entries.filter (!·.isLog)

@[simp]
theorem withoutLog_append (entries rest : List (Entry Q A)) :
    withoutLog (entries ++ rest) = withoutLog entries ++ withoutLog rest :=
  List.filter_append entries rest

@[simp]
theorem withoutLog_cons_log (event : Log.Event) (entries : List (Entry Q A)) :
    withoutLog (.note (.log event) :: entries) = withoutLog entries :=
  rfl

theorem withoutLog_cons (entry : Entry Q A) (entries : List (Entry Q A)) :
    withoutLog (entry :: entries) = withoutLog [entry] ++ withoutLog entries :=
  withoutLog_append [entry] entries

theorem filterMap_withoutLog {f : Entry Q A → Option β}
    (h : ∀ event, f (.note (.log event)) = none) (entries : List (Entry Q A)) :
    (withoutLog entries).filterMap f = entries.filterMap f := by
  have hread : (fun entry => if (!entry.isLog) = true then f entry else none) = f := by
    funext entry
    rcases entry with _ | ⟨_ | event | _⟩
    case note.log => exact (h event).symm
    all_goals rfl
  rw [withoutLog, List.filterMap_filter, hread]

theorem exchanges_withoutLog (entries : List (Entry Q A)) :
    exchanges (withoutLog entries) = exchanges entries :=
  filterMap_withoutLog (fun _ => rfl) entries

theorem progress_withoutLog (entries : List (Entry Q A)) :
    progress (withoutLog entries) = progress entries :=
  filterMap_withoutLog (fun _ => rfl) entries

def questions (entries : List (Entry Q A)) : List Q :=
  (exchanges entries).map Prod.fst

@[simp]
theorem questions_append (entries rest : List (Entry Q A)) :
    questions (entries ++ rest) = questions entries ++ questions rest := by
  rw [questions, exchanges_append, List.map_append]
  rfl

theorem questions_withoutLog (entries : List (Entry Q A)) :
    questions (withoutLog entries) = questions entries := by
  rw [questions, exchanges_withoutLog]
  rfl

def Entry.note? : Entry Q A → Option Note
  | .exchange .. => none
  | .note n => some n

def noted (entries : List (Entry Q A)) : List Note :=
  entries.filterMap Entry.note?

@[simp]
theorem noted_cons_note (n : Note) (entries : List (Entry Q A)) :
    noted (.note n :: entries) = n :: noted entries :=
  rfl

@[simp]
theorem noted_append (entries rest : List (Entry Q A)) :
    noted (entries ++ rest) = noted entries ++ noted rest :=
  List.filterMap_append

/-- An entry without the answer. -/
def Entry.mute : Entry Q A → Entry Q Unit
  | .exchange question _ => .exchange question ()
  | .note n => .note n

/-- What the dialogue itself says, in its order: the questions and the notes. -/
def said (entries : List (Entry Q A)) : List (Entry Q Unit) :=
  entries.map Entry.mute

@[simp]
theorem said_cons_exchange (question : Q) (answer : A) (entries : List (Entry Q A)) :
    said (.exchange question answer :: entries) = .exchange question () :: said entries :=
  rfl

@[simp]
theorem said_cons_note (n : Note) (entries : List (Entry Q A)) :
    said (.note n :: entries) = .note n :: said entries :=
  rfl

theorem filterMap_said {f : Entry Q Unit → Option β} {g : Entry Q A → Option β}
    (h : ∀ entry, f (Entry.mute entry) = g entry) (entries : List (Entry Q A)) :
    (said entries).filterMap f = entries.filterMap g := by
  rw [said, List.filterMap_map]
  exact congrArg (entries.filterMap ·) (funext h)

theorem questions_said (entries : List (Entry Q A)) :
    questions (said entries) = questions entries := by
  simp only [questions, exchanges, List.map_filterMap]
  apply filterMap_said
  rintro (_ | _) <;> rfl

theorem progress_said (entries : List (Entry Q A)) :
    progress (said entries) = progress entries := by
  apply filterMap_said
  rintro (_ | _ | _ | _) <;> rfl

theorem noted_said (entries : List (Entry Q A)) : noted (said entries) = noted entries := by
  apply filterMap_said
  rintro (_ | _) <;> rfl

theorem run_attempt (respond : Counterpart Q A σ) (d : Dialogue Q A α) (state : σ) :
    d.attempt.run respond state =
      (⟨(d.run respond state).1.entries, .ok (d.run respond state).1.result⟩,
        (d.run respond state).2) := by
  induction d generalizing state with
  | done value => rfl
  | fail failure => rfl
  | note n rest ih => rw [attempt, run, run, ih]
  | ask q next ih => simp only [attempt, run, ih]

/-- The monad in which a counterpart answers and the entries are kept. -/
abbrev Recording (Q A σ : Type) := StateM (List (Entry Q A) × σ)

def Recording.answer (respond : Counterpart Q A σ) (question : Q) : Recording Q A σ A := do
  let (entries, state) ← get
  let (answer, state) := respond question state
  set (entries ++ [.exchange question answer], state)
  return answer

def Recording.announce (n : Note) : Recording Q A σ Unit :=
  modify fun (entries, state) => (entries ++ [.note n], state)

/-- To run a dialogue is to interpret it in this monad. -/
theorem interpret_recording (respond : Counterpart Q A σ) (d : Dialogue Q A α)
    (earlier : List (Entry Q A)) (state : σ) :
    d.interpret (Recording.answer respond) Recording.announce (earlier, state) =
      ((d.run respond state).1.result, earlier ++ (d.run respond state).1.entries,
        (d.run respond state).2) := by
  induction d generalizing earlier state with
  | done value =>
    simp only [run, List.append_nil]
    rfl
  | fail failure =>
    simp only [run, List.append_nil]
    rfl
  | note n rest ih =>
    have hrest := ih (earlier ++ [.note n]) state
    rw [List.append_assoc] at hrest
    exact hrest
  | ask q next ih =>
    have hrest := ih (respond q state).1
      (earlier ++ [.exchange q (respond q state).1]) (respond q state).2
    rw [List.append_assoc] at hrest
    exact hrest

/-- The dialogue makes these entries and comes to this end, if the answers are the ones given. -/
def Admits : Dialogue Q A α → List (Entry Q A) → Except Failure α → Prop
  | .done value, entries, result => entries = [] ∧ result = .ok value
  | .fail failure, entries, result => entries = [] ∧ result = .error failure
  | .note n rest, entries, result =>
    ∃ later, entries = .note n :: later ∧ rest.Admits later result
  | .ask q next, entries, result =>
    ∃ answer later, entries = .exchange q answer :: later ∧ (next answer).Admits later result

/-- From the one state the counterpart gives the answers, and comes to the other state. -/
def Replies (respond : Counterpart Q A σ) : List (Q × A) → σ → σ → Prop
  | [], first, last => last = first
  | (question, answer) :: rest, first, last =>
    ∃ next, respond question first = (answer, next) ∧ Replies respond rest next last

/-- The counterpart's state after these questions. -/
def after (respond : Counterpart Q A σ) (questions : List Q) (state : σ) : σ :=
  questions.foldl (fun state question => (respond question state).2) state

theorem after_concat (respond : Counterpart Q A σ) (questions : List Q) (question : Q) (state : σ) :
    after respond (questions ++ [question]) state =
      (respond question (after respond questions state)).2 :=
  List.foldl_append

theorem Replies.append {respond : Counterpart Q A σ} {xs ys : List (Q × A)} {first middle last : σ}
    (hxs : Replies respond xs first middle) (hys : Replies respond ys middle last) :
    Replies respond (xs ++ ys) first last := by
  induction xs generalizing first with
  | nil =>
    rw [Replies] at hxs
    rw [← hxs]
    exact hys
  | cons x xs ih =>
    rcases hxs with ⟨next, hx, hxs⟩
    exact ⟨next, hx, ih hxs⟩

theorem exists_of_replies_append {respond : Counterpart Q A σ} {xs ys : List (Q × A)}
    {first last : σ} (h : Replies respond (xs ++ ys) first last) :
    ∃ middle, Replies respond xs first middle ∧ Replies respond ys middle last := by
  induction xs generalizing first with
  | nil => exact ⟨first, rfl, h⟩
  | cons x xs ih =>
    rcases h with ⟨next, hx, h⟩
    rcases ih h with ⟨middle, hxs, hys⟩
    exact ⟨middle, ⟨next, hx, hxs⟩, hys⟩

theorem replies_run (respond : Counterpart Q A σ) (d : Dialogue Q A α) (state : σ) :
    Replies respond (exchanges (d.run respond state).1.entries) state (d.run respond state).2 := by
  induction d generalizing state with
  | done value => rfl
  | fail failure => rfl
  | note n rest ih => exact ih state
  | ask q next ih => exact ⟨_, rfl, ih (respond q state).1 (respond q state).2⟩

theorem admits_run (respond : Counterpart Q A σ) (d : Dialogue Q A α) (state : σ) :
    d.Admits (d.run respond state).1.entries (d.run respond state).1.result := by
  induction d generalizing state with
  | done value => exact ⟨rfl, rfl⟩
  | fail failure => exact ⟨rfl, rfl⟩
  | note n rest ih => exact ⟨_, rfl, ih state⟩
  | ask q next ih => exact ⟨_, _, rfl, ih (respond q state).1 (respond q state).2⟩

theorem run_eq_of_admits {respond : Counterpart Q A σ} {d : Dialogue Q A α} {first last : σ}
    {entries : List (Entry Q A)} {result : Except Failure α} (hd : d.Admits entries result)
    (hr : Replies respond (exchanges entries) first last) :
    d.run respond first = (⟨entries, result⟩, last) := by
  induction d generalizing first entries with
  | done value =>
    rcases hd with ⟨rfl, rfl⟩
    rw [run, hr]
  | fail failure =>
    rcases hd with ⟨rfl, rfl⟩
    rw [run, hr]
  | note n rest ih =>
    rcases hd with ⟨later, rfl, hd⟩
    rw [run, ih hd hr]
  | ask q next ih =>
    rcases hd with ⟨answer, later, rfl, hd⟩
    rcases hr with ⟨middle, hq, hr⟩
    simp only [run, hq, ih answer hd hr]

theorem admits_bind_ok {d : Dialogue Q A α} {f : α → Dialogue Q A β} {xs ys : List (Entry Q A)}
    {value : α} {result : Except Failure β} (hd : d.Admits xs (.ok value))
    (hf : (f value).Admits ys result) : (d.bind f).Admits (xs ++ ys) result := by
  induction d generalizing xs with
  | done v =>
    rcases hd with ⟨rfl, hv⟩
    cases hv
    exact hf
  | fail failure =>
    rcases hd with ⟨_, hv⟩
    cases hv
  | note n rest ih =>
    rcases hd with ⟨later, rfl, hd⟩
    exact ⟨_, rfl, ih hd⟩
  | ask q next ih =>
    rcases hd with ⟨answer, later, rfl, hd⟩
    exact ⟨answer, _, rfl, ih answer hd⟩

theorem admits_bind_error {d : Dialogue Q A α} {f : α → Dialogue Q A β} {xs : List (Entry Q A)}
    {failure : Failure} (hd : d.Admits xs (.error failure)) :
    (d.bind f).Admits xs (.error failure) := by
  induction d generalizing xs with
  | done v =>
    rcases hd with ⟨_, hv⟩
    cases hv
  | fail failure' =>
    rcases hd with ⟨rfl, hv⟩
    cases hv
    exact ⟨rfl, rfl⟩
  | note n rest ih =>
    rcases hd with ⟨later, rfl, hd⟩
    exact ⟨_, rfl, ih hd⟩
  | ask q next ih =>
    rcases hd with ⟨answer, later, rfl, hd⟩
    exact ⟨answer, _, rfl, ih answer hd⟩

-- The transcript stops inside `d`, or has one part from `d` and one from `f`.
theorem cases_of_admits_bind {d : Dialogue Q A α} {f : α → Dialogue Q A β}
    {entries : List (Entry Q A)} {result : Except Failure β} (h : (d.bind f).Admits entries result) :
    (∃ failure, result = .error failure ∧ d.Admits entries (.error failure)) ∨
      ∃ xs value ys, entries = xs ++ ys ∧ d.Admits xs (.ok value) ∧
        (f value).Admits ys result := by
  induction d generalizing entries with
  | done value => exact .inr ⟨[], value, entries, rfl, ⟨rfl, rfl⟩, h⟩
  | fail failure => exact .inl ⟨failure, h.2, h.1, rfl⟩
  | note n rest ih =>
    rcases h with ⟨later, rfl, h⟩
    rcases ih h with ⟨failure, rfl, hd⟩ | ⟨xs, value, ys, rfl, hd, hf⟩
    . exact .inl ⟨failure, rfl, later, rfl, hd⟩
    . exact .inr ⟨.note n :: xs, value, ys, rfl, ⟨xs, rfl, hd⟩, hf⟩
  | ask q next ih =>
    rcases h with ⟨answer, later, rfl, h⟩
    rcases ih answer h with ⟨failure, rfl, hd⟩ | ⟨xs, value, ys, rfl, hd, hf⟩
    . exact .inl ⟨failure, rfl, answer, later, rfl, hd⟩
    . exact .inr ⟨.exchange q answer :: xs, value, ys, rfl, ⟨answer, xs, rfl, hd⟩, hf⟩

@[simp]
theorem admits_done {value : α} {entries : List (Entry Q A)} {result : Except Failure α} :
    (done value).Admits entries result ↔ entries = [] ∧ result = .ok value :=
  Iff.rfl

@[simp]
theorem admits_fail {failure : Failure} {entries : List (Entry Q A)} {result : Except Failure α} :
    (fail failure).Admits entries result ↔ entries = [] ∧ result = .error failure :=
  Iff.rfl

@[simp]
theorem admits_note {n : Note} {rest : Dialogue Q A α} {entries : List (Entry Q A)}
    {result : Except Failure α} :
    (note n rest).Admits entries result ↔
      ∃ later, entries = .note n :: later ∧ rest.Admits later result :=
  Iff.rfl

@[simp]
theorem report_bind (event : Progress) (f : Unit → Dialogue Q A β) :
    (report event).bind f = .note (.progress event) (f ()) := rfl

@[simp]
theorem log_bind (event : Log.Event) (f : Unit → Dialogue Q A β) :
    (log event).bind f = .note (.log event) (f ()) := rfl

@[simp]
theorem admits_consult_bind {question : Q} {f : A → Dialogue Q (Except Fault A) β}
    {entries : List (Entry Q (Except Fault A))} {result : Except Failure β} :
    ((consult question).bind f).Admits entries result ↔
      (∃ fault, entries = [.exchange question (.error fault)] ∧ result = .error (.transport fault)) ∨
        ∃ answer later, entries = .exchange question (.ok answer) :: later ∧
          (f answer).Admits later result := by
  unfold consult
  rw [bind, Admits]
  constructor
  . rintro ⟨_ | answer, later, rfl, h⟩
    . rcases h with ⟨rfl, rfl⟩
      exact .inl ⟨_, rfl, rfl⟩
    . exact .inr ⟨answer, later, rfl, h⟩
  . rintro (⟨fault, rfl, rfl⟩ | ⟨answer, later, rfl, h⟩)
    . exact ⟨.error fault, [], rfl, rfl, rfl⟩
    . exact ⟨.ok answer, later, rfl, h⟩

/-- The dialogue makes these entries, if the answers are the ones given, and then goes on as the
other one. -/
inductive Leads : Dialogue Q A α → List (Entry Q A) → Dialogue Q A α → Prop where
  | stop (d : Dialogue Q A α) : Leads d [] d
  | note {d rest : Dialogue Q A α} {entries : List (Entry Q A)} (n : Note)
      (h : Leads d entries rest) : Leads (.note n d) (.note n :: entries) rest
  | ask {next : A → Dialogue Q A α} {rest : Dialogue Q A α} {entries : List (Entry Q A)}
      (question : Q) (answer : A) (h : Leads (next answer) entries rest) :
      Leads (.ask question next) (.exchange question answer :: entries) rest

theorem Leads.trans {d e rest : Dialogue Q A α} {xs ys : List (Entry Q A)} (hd : d.Leads xs e)
    (he : e.Leads ys rest) : d.Leads (xs ++ ys) rest := by
  induction hd with
  | stop d => exact he
  | note n h ih => exact .note n (ih he)
  | ask question answer h ih => exact .ask question answer (ih he)

theorem leads_bind_of_admits {d : Dialogue Q A α} {f : α → Dialogue Q A β} {xs : List (Entry Q A)}
    {value : α} (h : d.Admits xs (.ok value)) : (d.bind f).Leads xs (f value) := by
  induction d generalizing xs with
  | done v =>
    rcases h with ⟨rfl, hv⟩
    cases hv
    exact .stop _
  | fail failure =>
    rcases h with ⟨_, hv⟩
    cases hv
  | note n rest ih =>
    rcases h with ⟨later, rfl, h⟩
    exact .note n (ih h)
  | ask q next ih =>
    rcases h with ⟨answer, later, rfl, h⟩
    exact .ask q answer (ih answer h)

/-- The run is the given entries, and what the rest of the dialogue adds to them. -/
theorem run_of_leads {respond : Counterpart Q A σ} {d rest : Dialogue Q A α}
    {xs : List (Entry Q A)} {first middle : σ} (hd : d.Leads xs rest)
    (hr : Replies respond (exchanges xs) first middle) :
    d.run respond first =
      (⟨xs ++ (rest.run respond middle).1.entries, (rest.run respond middle).1.result⟩,
        (rest.run respond middle).2) := by
  induction hd generalizing first with
  | stop d =>
    rw [show middle = first from hr]
    rfl
  | note n h ih => rw [run, ih hr, List.cons_append]
  | ask question answer h ih =>
    rcases hr with ⟨next, hq, hr⟩
    simp only [run, hq, ih hr, List.cons_append]

end Dialogue

end LayerCull
