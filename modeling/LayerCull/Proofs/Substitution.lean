import LayerCull.Config.Reference

/-!
This module contains what becomes of a text when its references are replaced. A text is a row of
stretches, with a reference after each, and an ending (`Layout`); the references give way to values,
all at once, and nothing else changes: `expand_onePass`.
-/

namespace LayerCull.Reference

/-- A name has a character, and the first closing brace is the one behind it. -/
def IsName (name : List Char) : Prop :=
  name ≠ [] ∧ closing ∉ name

instance (name : List Char) : Decidable (IsName name) :=
  inferInstanceAs (Decidable (name ≠ [] ∧ closing ∉ name))

/-- The reference to a variable, as it is written. -/
def written (name : List Char) : List Char :=
  '$' :: opening :: name ++ [closing]

/-- Somewhere in the text a reference is written. -/
def Refers (text : List Char) : Prop :=
  ∃ front name rest, IsName name ∧ text = front ++ written name ++ rest

/-- A closing brace follows every opening mark at once. -/
def Settled (text : List Char) : Prop :=
  ∀ front back, text = front ++ '$' :: opening :: back → back.head? = some closing

/-- A closing brace follows every opening mark, sooner or later. -/
def Closed (text : List Char) : Prop :=
  ∀ front back, text = front ++ '$' :: opening :: back → closing ∈ back

/-- What a reference gives way to: the value of the variable, or the reference itself if the variable
is not set. -/
def value (env : Environment) (name : List Char) : List Char :=
  match env (String.ofList name) with
  | some text => text.toList
  | none => written name

theorem written_append (name rest : List Char) :
    written name ++ rest = '$' :: opening :: (name ++ closing :: rest) := by
  simp [written]

theorem name?_append {name : List Char} (h : IsName name) (rest : List Char) :
    name? (name ++ closing :: rest) = some (name, rest) := by
  rw [name?, Text.cut_append h.2]
  cases name with
  | nil => exact absurd rfl h.1
  | cons c name => rfl

theorem exists_of_name? {text name rest : List Char} (h : name? text = some (name, rest)) :
    IsName name ∧ text = name ++ closing :: rest := by
  have hcut := cut_of_name? h
  have hnot := Text.mark_not_mem_cut closing text
  rw [hcut] at hnot
  refine ⟨⟨?_, hnot⟩, Text.eq_append_of_cut hcut⟩
  rintro rfl
  rw [name?, hcut] at h
  contradiction

/-- Where no name stands, the closing brace comes at once or not at all. -/
theorem head?_of_name?_eq_none {text : List Char} (h : name? text = none)
    (hclosing : closing ∈ text) : text.head? = some closing := by
  rcases List.eq_append_cons_of_mem hclosing with ⟨name, rest, rfl, hnot⟩
  cases name with
  | nil => rfl
  | cons c name =>
    rw [name?_append ⟨by simp, hnot⟩] at h
    contradiction

theorem Closed.of_append (front : List Char) {back : List Char} (h : Closed (front ++ back)) :
    Closed back := by
  intro before after hback
  apply h (front ++ before)
  rw [hback, List.append_assoc]

theorem Closed.of_append_singleton {front : List Char} {c : Char} (h : Closed (front ++ [c]))
    (hc : c ≠ closing) : Closed front := by
  rintro before back rfl
  have hmem := h before (back ++ [c]) (by simp)
  rcases List.mem_append.1 hmem with hback | hlast
  . exact hback
  . exact absurd (List.mem_singleton.1 hlast).symm hc

theorem settled_of_not_mem {text : List Char} (h : '$' ∉ text) : Settled text := by
  rintro front back rfl
  exact absurd (List.mem_append_right _ List.mem_cons_self) h

theorem Settled.closed {text : List Char} (h : Settled text) : Closed text := by
  intro front back htext
  exact List.mem_of_mem_head? (h front back htext)

theorem Settled.not_refers {text : List Char} (h : Settled text) : ¬Refers text := by
  rintro ⟨front, name, rest, hname, htext⟩
  rw [List.append_assoc, written_append] at htext
  have hhead := h front _ htext
  cases name with
  | nil => exact hname.1 rfl
  | cons c name =>
    obtain rfl := Option.some.inj hhead
    exact hname.2 List.mem_cons_self

theorem not_refers_of_cons {c : Char} {text : List Char} (h : ¬Refers (c :: text)) :
    ¬Refers text := by
  rintro ⟨front, name, rest, hname, rfl⟩
  exact h ⟨c :: front, name, rest, hname, rfl⟩

theorem not_refers_cons {c : Char} {text : List Char}
    (hplain : ∀ name rest, IsName name → c :: text ≠ written name ++ rest) (h : ¬Refers text) :
    ¬Refers (c :: text) := by
  rintro ⟨front, name, rest, hname, htext⟩
  cases front with
  | nil => exact hplain name rest hname htext
  | cons d front => exact h ⟨front, name, rest, hname, (List.cons.inj htext).2⟩

/-- If a reference follows the stretch, an opening mark at its front would begin a reference too,
unless it is closed at once. -/
theorem Settled.cons {c : Char} {stretch name rest : List Char} (h : Settled stretch)
    (hplain : ∀ other rest', IsName other →
      c :: (stretch ++ (written name ++ rest)) ≠ written other ++ rest') :
    Settled (c :: stretch) := by
  intro front back hstretch
  cases front with
  | cons d front => exact h front back (List.cons.inj hstretch).2
  | nil =>
    obtain ⟨rfl, rfl⟩ := List.cons.inj hstretch
    have hnone : name? (back ++ (written name ++ rest)) = none := by
      rw [Option.eq_none_iff_forall_ne_some]
      rintro ⟨other, rest'⟩ hfound
      rcases exists_of_name? hfound with ⟨hother, heq⟩
      apply hplain other rest' hother
      rw [List.cons_append, heq, written_append]
    have hhead := head?_of_name?_eq_none hnone (by simp [written])
    cases back with
    | nil =>
      have hdollar : '$' = closing := Option.some.inj hhead
      exact absurd hdollar (by decide)
    | cons d back => exact hhead

theorem pieces_written {name : List Char} (h : IsName name) (rest : List Char) :
    pieces (written name ++ rest) = .reference name :: pieces rest := by
  rw [written_append, opening, pieces]
  split
  . next found rest' hfound =>
    rw [name?_append h] at hfound
    obtain ⟨rfl, rfl⟩ := Prod.mk.inj (Option.some.inj hfound)
    rfl
  . next hnone =>
    rw [name?_append h] at hnone
    contradiction

/-- A character at which no reference begins stands for itself. -/
theorem pieces_cons {c : Char} {text : List Char}
    (h : ∀ name rest, IsName name → c :: text ≠ written name ++ rest) :
    pieces (c :: text) = .char c :: pieces text := by
  rw [pieces.eq_def]
  split
  . contradiction
  . next heq =>
    obtain ⟨rfl, rfl⟩ := List.cons.inj heq
    split
    . next name rest hfound =>
      rcases exists_of_name? hfound with ⟨hname, rfl⟩
      exact absurd (written_append name rest).symm (h name rest hname)
    . rfl
  . next heq =>
    obtain ⟨rfl, rfl⟩ := List.cons.inj heq
    rfl

theorem pieces_cons_of_not_refers {c : Char} {text : List Char} (h : ¬Refers (c :: text)) :
    pieces (c :: text) = .char c :: pieces text := by
  apply pieces_cons
  intro name rest hname heq
  exact h ⟨[], name, rest, hname, heq⟩

theorem names_of_not_refers {text : List Char} (h : ¬Refers text) : names text = [] := by
  induction text with
  | nil => simp [names, pieces]
  | cons c text ih =>
    rw [names, pieces_cons_of_not_refers h, List.filterMap_cons]
    exact ih (not_refers_of_cons h)

/-- A text in which every opening mark is closed is read by itself, whatever follows it. -/
theorem pieces_append {front rest : List Char} (h : Closed front)
    (hrest : rest.head? ≠ some opening) : pieces (front ++ rest) = pieces front ++ pieces rest := by
  fun_induction pieces front with
  | case1 => simp
  | case2 text name after hfound ih =>
    rcases exists_of_name? hfound with ⟨hname, rfl⟩
    have hclosed : Closed after := by
      apply Closed.of_append (written name)
      rw [written_append]
      exact h
    have hwhole : '$' :: '\x7b' :: (name ++ closing :: after) ++ rest =
        written name ++ (after ++ rest) := by
      rw [written_append]
      simp [opening]
    rw [hwhole, pieces_written hname, ih hclosed, List.cons_append]
  | case3 text hfound ih =>
    have hclosed : Closed (opening :: text) := Closed.of_append ['$'] h
    have hhead := head?_of_name?_eq_none hfound (h [] text rfl)
    rw [List.cons_append, pieces_cons]
    . exact congrArg (.char '$' :: ·) (ih hclosed)
    . intro name after hname heq
      rw [written_append] at heq
      have hrest := (List.cons.inj (List.cons.inj heq).2).2
      cases text with
      | nil => contradiction
      | cons c text =>
        obtain rfl := Option.some.inj hhead
        cases name with
        | nil => exact hname.1 rfl
        | cons d name => exact hname.2 (by simp [(List.cons.inj hrest).1])
  | case4 c text hne ih =>
    rw [List.cons_append, pieces_cons, ih (Closed.of_append [c] h), List.cons_append]
    intro name after hname heq
    rw [written_append] at heq
    rcases List.cons.inj heq with ⟨rfl, hrest'⟩
    cases text with
    | nil =>
      apply hrest
      rw [List.nil_append] at hrest'
      rw [hrest']
      rfl
    | cons d text => exact hne text rfl (by rw [(List.cons.inj hrest').1]; rfl)

section Expansion

variable (env : Environment)

theorem expand_written {name : List Char} (h : IsName name) (rest : List Char) :
    expand env (written name ++ rest) = value env name ++ expand env rest := by
  rw [expand, pieces_written h, List.flatMap_cons]
  rfl

theorem expand_append {front rest : List Char} (h : Closed front)
    (hrest : rest.head? ≠ some opening) :
    expand env (front ++ rest) = expand env front ++ expand env rest := by
  rw [expand, pieces_append h hrest, List.flatMap_append]
  rfl

theorem expand_cons_of_not_refers {c : Char} {text : List Char} (h : ¬Refers (c :: text)) :
    expand env (c :: text) = c :: expand env text := by
  rw [expand, pieces_cons_of_not_refers h, List.flatMap_cons]
  rfl

theorem expand_cons_of_ne {c : Char} (h : c ≠ '$') (text : List Char) :
    expand env (c :: text) = c :: expand env text := by
  rw [expand, pieces_cons, List.flatMap_cons]
  . rfl
  . intro name rest _ heq
    exact h (List.cons.inj heq).1

theorem expand_nil : expand env [] = [] := by
  simp [expand, pieces]

theorem expand_of_not_refers {text : List Char} (h : ¬Refers text) : expand env text = text := by
  induction text with
  | nil => exact expand_nil env
  | cons c text ih => rw [expand_cons_of_not_refers env h, ih (not_refers_of_cons h)]

theorem expand_settled_append {front name : List Char} (hfront : Settled front) (hname : IsName name)
    (rest : List Char) :
    expand env (front ++ written name ++ rest) = front ++ value env name ++ expand env rest := by
  rw [List.append_assoc, expand_append env hfront.closed (by simp [written, opening]),
    expand_of_not_refers env hfront.not_refers, expand_written env hname, List.append_assoc]

/-- Where no variable is set, each piece stands for what was written. -/
theorem expand_of_unset (text : List Char) : expand (fun _ => none) text = text := by
  unfold expand
  fun_induction pieces text with
  | case1 => rfl
  | case2 text name after hfound ih =>
    rcases exists_of_name? hfound with ⟨_, rfl⟩
    rw [List.flatMap_cons, ih]
    exact written_append name after
  | case3 text hfound ih =>
    rw [List.flatMap_cons, ih]
    rfl
  | case4 c text hne ih =>
    rw [List.flatMap_cons, ih]
    rfl

end Expansion

/-- A text, cut at its references. -/
structure Layout where
  /-- Stretches of the text, and the name in the reference after each. -/
  parts : List (List Char × List Char)
  ending : List Char
  settled : ∀ part ∈ parts, Settled part.1
  isName : ∀ part ∈ parts, IsName part.2
  not_refers : ¬Refers ending

namespace Layout

def text (layout : Layout) : List Char :=
  layout.parts.flatMap (fun (stretch, name) => stretch ++ written name) ++ layout.ending

/-- The text with values in place of the references. -/
def fill (env : Environment) (layout : Layout) : List Char :=
  layout.parts.flatMap (fun (stretch, name) => stretch ++ value env name) ++ layout.ending

theorem expand_text (env : Environment) (layout : Layout) :
    expand env layout.text = layout.fill env := by
  rcases layout with ⟨parts, ending, hsettled, hname, hends⟩
  simp only [text, fill]
  induction parts with
  | nil => exact expand_of_not_refers env hends
  | cons part parts ih =>
    rw [List.forall_mem_cons] at hsettled hname
    have hrest := ih hsettled.2 hname.2
    rw [List.flatMap_cons, List.append_assoc, expand_settled_append env hsettled.1 hname.1, hrest,
      List.flatMap_cons, List.append_assoc _ _ ending]

/-- The layout of a text with one more reference, at the front. -/
def consReference (layout : Layout) (name : List Char) (h : IsName name) : Layout where
  parts := ([], name) :: layout.parts
  ending := layout.ending
  settled := by
    rw [List.forall_mem_cons]
    refine ⟨?_, layout.settled⟩
    intro front back heq
    simp at heq
  isName := by
    rw [List.forall_mem_cons]
    exact ⟨h, layout.isName⟩
  not_refers := layout.not_refers

theorem text_consReference (layout : Layout) {name : List Char} (h : IsName name) :
    (layout.consReference name h).text = written name ++ layout.text := by
  simp [text, consReference]

/-- One more character at the front, at which no reference begins. -/
theorem exists_cons (layout : Layout) {c : Char}
    (h : ∀ name rest, IsName name → c :: layout.text ≠ written name ++ rest) :
    ∃ longer : Layout, longer.text = c :: layout.text := by
  rcases layout with ⟨_ | ⟨⟨stretch, name⟩, parts⟩, ending, hsettled, hname, hends⟩
  . exact ⟨⟨[], c :: ending, hsettled, hname, not_refers_cons h hends⟩, rfl⟩
  . rw [List.forall_mem_cons] at hsettled hname
    have hplain : ∀ other rest, IsName other → c :: (stretch ++ (written name ++
        (parts.flatMap (fun (stretch, name) => stretch ++ written name) ++ ending))) ≠
          written other ++ rest := by
      simpa [text] using h
    have hlonger : Settled (c :: stretch) := hsettled.1.cons hplain
    refine ⟨⟨(c :: stretch, name) :: parts, ending, ?_, ?_, hends⟩, rfl⟩
    . rw [List.forall_mem_cons]
      exact ⟨hlonger, hsettled.2⟩
    . rw [List.forall_mem_cons]
      exact hname

end Layout

theorem exists_layout (text : List Char) : ∃ layout : Layout, layout.text = text := by
  fun_induction pieces text with
  | case1 => exact ⟨⟨[], [], by simp, by simp, by simp [Refers, written]⟩, rfl⟩
  | case2 text name after hfound ih =>
    rcases exists_of_name? hfound with ⟨hname, rfl⟩
    rcases ih with ⟨layout, rfl⟩
    exact ⟨layout.consReference name hname, by rw [Layout.text_consReference, written_append]; rfl⟩
  | case3 text hfound ih =>
    rcases ih with ⟨layout, hlayout⟩
    rw [opening] at hlayout
    rw [← hlayout]
    apply layout.exists_cons
    intro name rest hname heq
    rw [hlayout, written_append] at heq
    obtain rfl := (List.cons.inj (List.cons.inj heq).2).2
    rw [name?_append hname] at hfound
    contradiction
  | case4 c text hne ih =>
    rcases ih with ⟨layout, rfl⟩
    apply layout.exists_cons
    intro name rest hname heq
    rw [written_append] at heq
    rcases List.cons.inj heq with ⟨rfl, htext⟩
    exact hne _ rfl htext

/-- What holds of the replacement of references, for a text of any layout. -/
theorem expand_onePass (env : Environment) :
    (∀ text, ¬Refers text → expand env text = text) ∧
      (∀ front name rest, Settled front → IsName name →
        expand env (front ++ written name ++ rest) = front ++ value env name ++ expand env rest) ∧
      (∀ text, ∃ layout : Layout, layout.text = text ∧ expand env text = layout.fill env) ∧
      ∀ text, (∀ name ∈ names text, env name = none) → expand env text = text := by
  refine ⟨fun _ => expand_of_not_refers env,
    fun _ _ rest hfront hname => expand_settled_append env hfront hname rest, ?_, ?_⟩
  . intro text
    rcases exists_layout text with ⟨layout, rfl⟩
    exact ⟨layout, rfl, layout.expand_text env⟩
  . intro text hunset
    have hsame : expand env text = expand (fun _ => none) text := expand_congr hunset
    rw [hsame, expand_of_unset]

/-- A variable whose value looks like a reference, and the one that it seems to name. -/
def cyclic : Environment
  | "A" => some "$\x7bB\x7d"
  | "B" => some "$\x7bA\x7d"
  | _ => none

/-- Values are not searched again, and dollar signs and empty braces stay. -/
theorem expand_onePass_cyclic :
    Settled "$\x7b\x7d$".toList ∧ IsName ['A'] ∧ IsName ['B'] ∧
      expand cyclic "$\x7b\x7d$$\x7bA\x7d$\x7bB\x7d".toList =
        "$\x7b\x7d$$\x7bB\x7d$\x7bA\x7d".toList := by
  have hfront : Settled "$\x7b\x7d$".toList := by
    rintro (_ | ⟨a, _ | ⟨b, _ | ⟨c, front⟩⟩⟩) back h
    . obtain rfl := (List.cons.inj (List.cons.inj h).2).2
      rfl
    . exact absurd h (by simp)
    . exact absurd h (by simp)
    . have hlength := congrArg List.length h
      simp at hlength
      omega
  have hnil : Settled [] := by
    intro front back h
    simp at h
  have hnameA : IsName ['A'] := by decide
  have hnameB : IsName ['B'] := by decide
  rcases expand_onePass cyclic with ⟨hplain, hreference, _, _⟩
  refine ⟨hfront, hnameA, hnameB, ?_⟩
  calc expand cyclic "$\x7b\x7d$$\x7bA\x7d$\x7bB\x7d".toList
    _ = "$\x7b\x7d$".toList ++ value cyclic ['A'] ++ expand cyclic ([] ++ written ['B'] ++ []) :=
      hreference "$\x7b\x7d$".toList ['A'] ([] ++ written ['B'] ++ []) hfront hnameA
    _ = "$\x7b\x7d$".toList ++ value cyclic ['A'] ++
        ([] ++ value cyclic ['B'] ++ expand cyclic []) := by
      rw [hreference [] ['B'] [] hnil hnameB]
    _ = "$\x7b\x7d$$\x7bB\x7d$\x7bA\x7d".toList := by
      rw [hplain [] hnil.not_refers]
      rfl

end LayerCull.Reference
