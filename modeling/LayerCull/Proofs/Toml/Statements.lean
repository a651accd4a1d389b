import LayerCull.Proofs.Toml.Lines

/-!
This module contains what a document says, statement by statement (`Reads`). Whole lines are read by
themselves, whatever follows them: `Reads.append_iff`.
-/

namespace LayerCull.Toml

theorem statement?_steady : Steady statement? := by
  intro text htext
  rw [statement?.eq_def]
  split
  . next rest =>
    apply (key?_steady rest ((htext.of_cons (by decide)).of_cons (by decide))).bind
    intro key rest hrest
    split
    . next key' rest' heq =>
      obtain ⟨rfl, rfl⟩ := Prod.mk.inj heq
      exact .some ((hrest.of_cons (by decide)).of_cons (by decide)) fun more => rfl
    . exact .none _
  . next rest hitem =>
    have hheader := fun more => statement?.eq_2 (rest ++ more)
      ((htext.of_cons (by decide)).ne_append ['['] (by decide) hitem more)
    simp only [List.cons_append, hheader]
    apply (key?_steady rest (htext.of_cons (by decide))).bind
    intro key rest hrest
    split
    . next key' rest' heq =>
      obtain ⟨rfl, rfl⟩ := Prod.mk.inj heq
      exact .some (hrest.of_cons (by decide)) fun more => rfl
    . exact .none _
  . next hitem hheader =>
    have hline := fun more => statement?.eq_3 _ (htext.ne_append ['[', '['] (by decide) hitem more)
      (htext.ne_append ['['] (by decide) hheader more)
    simp only [hline]
    apply (assignment?_steady (value?_steady maxDepth) text htext).bind
    rintro ⟨key, value⟩ rest hrest
    exact .some hrest fun more => rfl


/-- What a text says, statement by statement. -/
inductive Reads : List Char → List Statement → Prop where
  | nil {text} (hfiller : dropFiller false text = some []) : Reads text []
  | cons {text line rest after statement statements} (hfiller : dropFiller false text = some line)
      (hne : line ≠ []) (hline : statement? line = some (statement, rest))
      (hend : dropLine false rest = some after) (hafter : Reads after statements) :
      Reads text (statement :: statements)

namespace Reads

variable {text line rest after : List Char} {statement : Statement} {statements : List Statement}

theorem iff_of_line (hfiller : dropFiller false text = some line) (hne : line ≠ [])
    (hline : statement? line = some (statement, rest)) (hend : dropLine false rest = some after) :
    Reads text statements ↔ ∃ more, statements = statement :: more ∧ Reads after more := by
  constructor
  . rintro (hnil | ⟨hfiller', _, hline', hend', hafter⟩)
    . rw [hfiller] at hnil
      exact absurd (Option.some.inj hnil) hne
    . obtain rfl := Option.some.inj (hfiller.symm.trans hfiller')
      obtain ⟨rfl, rfl⟩ := Prod.mk.inj (Option.some.inj (hline.symm.trans hline'))
      obtain rfl := Option.some.inj (hend.symm.trans hend')
      exact ⟨_, rfl, hafter⟩
  . rintro ⟨more, rfl, hafter⟩
    exact .cons hfiller hne hline hend hafter

theorem congr {text text' : List Char} (h : dropFiller false text = dropFiller false text')
    (hreads : Reads text statements) : Reads text' statements := by
  cases hreads with
  | nil hfiller => exact .nil (h.symm.trans hfiller)
  | cons hfiller hne hline hend hafter => exact .cons (h.symm.trans hfiller) hne hline hend hafter

theorem append_iff (h : Reads text statements) (htext : text = [] ∨ EndsLine text)
    {more : List Char} {all : List Statement} :
    Reads (text ++ more) all ↔ ∃ others, all = statements ++ others ∧ Reads more others := by
  induction h generalizing all with
  | @nil text hfiller =>
    have hsame : dropFiller false (text ++ more) = dropFiller false more := by
      rcases htext with rfl | htext
      . rfl
      . rcases dropFiller_append htext hfiller with ⟨_, hmore⟩ | ⟨hnil, _⟩
        . exact hmore more
        . exact absurd rfl hnil.ne_nil
    simp only [List.nil_append, exists_eq_left']
    exact ⟨congr hsame, congr hsame.symm⟩
  | @cons text line rest after statement statements hfiller hne hline hend hafter ih =>
    have hends : EndsLine text := by
      refine htext.resolve_left ?_
      rintro rfl
      exact hne (Option.some.inj hfiller).symm
    rcases dropFiller_append hends hfiller with ⟨hnil, _⟩ | ⟨hends, hfillerMore⟩
    . exact absurd hnil hne
    . rcases statement?_steady line hends _ _ hline with ⟨hends, hlineMore⟩
      rcases dropLine_append hends hend with ⟨hafterEnds, hendMore⟩
      rw [iff_of_line (hfillerMore more) (by simp [hne]) (hlineMore more) (hendMore more)]
      constructor
      . rintro ⟨all, rfl, hall⟩
        rcases (ih hafterEnds).1 hall with ⟨others, rfl, hothers⟩
        exact ⟨others, rfl, hothers⟩
      . rintro ⟨others, rfl, hothers⟩
        exact ⟨statements ++ others, rfl, (ih hafterEnds).2 ⟨others, rfl, hothers⟩⟩

end Reads

/-- The limit bounds the number of statements. -/
theorem statements?_eq_some_iff {limit : Nat} {text : List Char} {statements : List Statement} :
    statements? limit text = some statements ↔ Reads text statements ∧ statements.length < limit := by
  induction limit generalizing text statements with
  | zero => simp [statements?]
  | succ limit ih =>
    constructor
    . intro h
      simp only [statements?, Option.bind_eq_bind, Option.bind_eq_some_iff] at h
      rcases h with ⟨line, hfiller, h⟩
      split at h
      . obtain rfl := Option.some.inj h
        exact ⟨.nil hfiller, Nat.succ_pos _⟩
      . next hne =>
        simp only [Option.bind_eq_some_iff] at h
        rcases h with ⟨⟨statement, rest⟩, hline, after, hend, others, hothers, h⟩
        obtain rfl := Option.some.inj h
        rcases ih.1 hothers with ⟨hafter, hlimit⟩
        exact ⟨.cons hfiller hne hline hend hafter, Nat.succ_lt_succ hlimit⟩
    . rintro ⟨hfiller | ⟨hfiller, hne, hline, hend, hafter⟩, hlimit⟩
      . simp [statements?, hfiller]
      . have hothers := ih.2 ⟨hafter, Nat.lt_of_succ_lt_succ hlimit⟩
        simp [statements?, hfiller, hline, hend, hothers]


/-- The text without the byte order mark. -/
def dropMark (text : List Char) : List Char :=
  if text.head? = some '\ufeff' then text.drop 1 else text

theorem dropMark_append {text : List Char} (h : text ≠ []) (more : List Char) :
    dropMark (text ++ more) = dropMark text ++ more := by
  rcases List.exists_cons_of_ne_nil h with ⟨c, text, rfl⟩
  unfold dropMark
  rw [List.cons_append, List.head?_cons, List.head?_cons]
  split <;> rfl

theorem EndsLine.dropMark {text : List Char} (h : EndsLine text) : EndsLine (dropMark text) := by
  rcases List.exists_cons_of_ne_nil h.ne_nil with ⟨c, text, rfl⟩
  unfold Toml.dropMark
  split
  . next hmark =>
    apply h.of_cons
    rintro rfl
    exact absurd (Option.some.inj hmark) (by decide)
  . exact h

theorem parse?_eq_some_iff {text : List Char} {fields : Fields} :
    parse? text = some fields ↔ ∃ statements draft, Reads (dropMark text) statements ∧
      statements.length ≤ (dropMark text).length ∧
        statements.foldlM Draft.add {} = some draft ∧ draft.root = fields := by
  simp only [parse?, Option.bind_eq_bind, Option.bind_eq_some_iff, statements?_eq_some_iff,
    Nat.lt_succ_iff, Option.pure_def, Option.some.injEq, dropMark, and_assoc, exists_and_left]

end LayerCull.Toml
