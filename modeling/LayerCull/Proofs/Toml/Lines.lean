import LayerCull.Toml.Document
import Mathlib.Data.List.TakeDrop
import Mathlib.Data.List.TakeWhile

/-!
This module contains why a document can be read line by line: no reader takes the line feed at the end
of a line, and none looks at what follows it (`Steady`).
-/

namespace LayerCull.Toml

/-- The text is made of whole lines. -/
def EndsLine (text : List Char) : Prop :=
  text.getLast? = some '\n'

namespace EndsLine

variable {text front rest : List Char} {c : Char}

theorem ne_nil (h : EndsLine text) : text ≠ [] := by
  rintro rfl
  contradiction

theorem of_cons_of_ne_nil (h : EndsLine (c :: rest)) (hrest : rest ≠ []) : EndsLine rest := by
  rcases List.exists_cons_of_ne_nil hrest with ⟨d, rest, rfl⟩
  rwa [EndsLine, List.getLast?_cons_cons] at h

theorem of_cons (h : EndsLine (c :: rest)) (hc : c ≠ '\n') : EndsLine rest := by
  apply h.of_cons_of_ne_nil
  rintro rfl
  exact hc (Option.some.inj h)

theorem tail (h : EndsLine (c :: rest)) : rest = [] ∨ EndsLine rest :=
  or_iff_not_imp_left.2 h.of_cons_of_ne_nil

theorem of_append (h : EndsLine (front ++ rest)) (hfront : '\n' ∉ front) : EndsLine rest := by
  induction front with
  | nil => exact h
  | cons c front ih =>
    rw [List.mem_cons, not_or] at hfront
    exact ih (h.of_cons (Ne.symm hfront.1)) hfront.2

theorem ne_append (h : EndsLine text) (start : List Char) (hstart : '\n' ∉ start.dropLast)
    (hne : ∀ rest, text ≠ start ++ rest) (more rest : List Char) : text ++ more ≠ start ++ rest := by
  intro heq
  rcases List.append_eq_append_iff.1 heq with ⟨beyond, rfl, _⟩ | ⟨rest', rfl, _⟩
  . cases beyond with
    | nil => exact hne [] (by simp)
    | cons d beyond =>
      rw [List.dropLast_append_of_ne_nil (by simp)] at hstart
      exact hstart (List.mem_append_left _ (List.mem_of_getLast? h))
  . exact hne rest' rfl

section Span

variable {p : Char → Bool}

theorem ne_of_accepts (hp : p '\n' = false) (hc : p c = true) : c ≠ '\n' := by
  rintro rfl
  rw [hp] at hc
  contradiction

theorem takeWhile_append (h : EndsLine text) (hp : p '\n' = false) (more : List Char) :
    (text ++ more).takeWhile p = text.takeWhile p := by
  induction text with
  | nil => exact absurd rfl h.ne_nil
  | cons c text ih =>
    cases hc : p c with
    | false => simp [hc]
    | true => simp [hc, ih (h.of_cons (ne_of_accepts hp hc))]

theorem dropWhile_append (h : EndsLine text) (hp : p '\n' = false) (more : List Char) :
    (text ++ more).dropWhile p = text.dropWhile p ++ more := by
  induction text with
  | nil => exact absurd rfl h.ne_nil
  | cons c text ih =>
    cases hc : p c with
    | false => simp [hc]
    | true => simp [hc, ih (h.of_cons (ne_of_accepts hp hc))]

theorem span_append (h : EndsLine text) (hp : p '\n' = false) (more : List Char) :
    (text ++ more).span p = ((text.span p).1, (text.span p).2 ++ more) := by
  simp only [List.span_eq_takeWhile_dropWhile, h.takeWhile_append hp, h.dropWhile_append hp]

theorem dropWhile (h : EndsLine text) (hp : p '\n' = false) : EndsLine (text.dropWhile p) := by
  rw [← List.takeWhile_append_dropWhile (p := p) (l := text)] at h
  apply h.of_append
  intro hmem
  exact ne_of_accepts hp (List.mem_takeWhile_imp hmem) rfl

theorem span (h : EndsLine text) (hp : p '\n' = false) : EndsLine (text.span p).2 := by
  rw [List.span_eq_takeWhile_dropWhile]
  exact h.dropWhile hp

end Span

end EndsLine

/-- Whatever was read, the line feed at the end is left, and the same is read if more follows it. -/
def Keeps {α : Type} (found : Option (α × List Char))
    (foundBefore : List Char → Option (α × List Char)) : Prop :=
  ∀ x rest, found = some (x, rest) →
    EndsLine rest ∧ ∀ more, foundBefore more = some (x, rest ++ more)

namespace Keeps

variable {α β : Type}

theorem none (foundBefore : List Char → Option (α × List Char)) : Keeps none foundBefore := by
  intro x rest h
  contradiction

theorem some {x : α} {rest : List Char} {foundBefore : List Char → Option (α × List Char)}
    (h : EndsLine rest) (hmore : ∀ more, foundBefore more = some (x, rest ++ more)) :
    Keeps (some (x, rest)) foundBefore := by
  intro y rest' heq
  obtain ⟨rfl, rfl⟩ := Prod.mk.inj (Option.some.inj heq)
  exact ⟨h, hmore⟩

theorem bind {found : Option (α × List Char)} {foundBefore : List Char → Option (α × List Char)}
    {next : α × List Char → Option (β × List Char)}
    {nextBefore : List Char → α × List Char → Option (β × List Char)} (h : Keeps found foundBefore)
    (hnext : ∀ x rest, EndsLine rest →
      Keeps (next (x, rest)) fun more => nextBefore more (x, rest ++ more)) :
    Keeps (found >>= next) fun more => foundBefore more >>= nextBefore more := by
  intro y last hlast
  rcases Option.bind_eq_some_iff.1 hlast with ⟨⟨x, rest⟩, hfound, hy⟩
  rcases h x rest hfound with ⟨hrest, hmore⟩
  rcases hnext x rest hrest y last hy with ⟨hends, hmore'⟩
  refine ⟨hends, fun more => ?_⟩
  simp only [hmore, Option.bind_eq_bind, Option.bind_some, hmore']

theorem map {found : Option (α × List Char)} {foundBefore : List Char → Option (α × List Char)}
    (h : Keeps found foundBefore) (f : α → β) :
    Keeps (found.map fun (x, rest) => (f x, rest))
      fun more => (foundBefore more).map fun (x, rest) => (f x, rest) := by
  intro y rest hread
  rcases Option.map_eq_some_iff.1 hread with ⟨⟨x, rest⟩, hfound, heq⟩
  obtain ⟨rfl, rfl⟩ := Prod.mk.inj heq
  rcases h x rest hfound with ⟨hrest, hmore⟩
  refine ⟨hrest, fun more => ?_⟩
  simp only [hmore, Option.map_some]

end Keeps

/-- The reader leaves the line feed at the end, and what follows it makes no difference. -/
def Steady {α : Type} (read? : Reader α) : Prop :=
  ∀ text, EndsLine text → Keeps (read? text) fun more => read? (text ++ more)

namespace Quote

section Marks

variable {style : Style} (hmark : style.mark ≠ '\n')

include hmark

theorem marks_append {text : List Char} (h : EndsLine text) (more : List Char) :
    ((text ++ more).take 5).takeWhile (· == style.mark) =
      (text.take 5).takeWhile (· == style.mark) := by
  have hp : ('\n' == style.mark) = false := by simpa using Ne.symm hmark
  rcases Nat.le_total 5 text.length with hlength | hlength
  . rw [List.take_append_of_le_length hlength]
  . rw [List.take_of_length_le hlength, List.take_append, List.take_of_length_le hlength]
    exact h.takeWhile_append hp _

theorem endsLine_drop_marks {text : List Char} (h : EndsLine text) {count : Nat}
    (hcount : count ≤ ((text.take 5).takeWhile (· == style.mark)).length) :
    EndsLine (text.drop count) ∧ ∀ more, (text ++ more).drop count = text.drop count ++ more := by
  have hmarks : (text.take 5).takeWhile (· == style.mark) <+: text :=
    (List.takeWhile_prefix _).trans (List.take_prefix 5 text)
  have hlength : count ≤ text.length := Nat.le_trans hcount hmarks.length_le
  have hfront : text.take count <+: (text.take 5).takeWhile (· == style.mark) := by
    apply List.prefix_of_prefix_length_le (List.take_prefix count text) hmarks
    rw [List.length_take]
    omega
  have hnot : '\n' ∉ text.take count := by
    intro hmem
    have hmark' := List.mem_takeWhile_imp (hfront.subset hmem)
    exact hmark (eq_of_beq hmark').symm
  constructor
  . rw [← List.take_append_drop count text] at h
    exact h.of_append hnot
  . intro more
    exact List.drop_append_of_le_length hlength

theorem closing?_steady : Steady (closing? style) := by
  intro text htext
  unfold closing?
  simp only [marks_append hmark htext]
  split
  . split
    . exact .none _
    . next hne =>
      have hcount : 1 ≤ ((text.take 5).takeWhile (· == style.mark)).length :=
        List.length_pos_iff.2 (by simpa using hne)
      rcases endsLine_drop_marks hmark htext hcount with ⟨hrest, hmore⟩
      simp only [hmore]
      exact .some hrest fun more => rfl
  . split
    . rcases endsLine_drop_marks hmark htext (Nat.le_refl _) with ⟨hrest, hmore⟩
      simp only [hmore]
      exact .some hrest fun more => rfl
    . exact .none _

theorem closing?_append {text : List Char} (h : EndsLine text) (hnone : closing? style text = none)
    (more : List Char) : closing? style (text ++ more) = none := by
  unfold closing? at hnone ⊢
  simp only [marks_append hmark h]
  split
  . split
    . rfl
    . simp_all
  . split
    . simp_all
    . rfl

end Marks

theorem beginsLine_append {rest : List Char} (h : rest ≠ []) (more : List Char) :
    beginsLine (rest ++ more) = beginsLine rest := by
  rcases List.exists_cons_of_ne_nil h with ⟨c, rest, rfl⟩
  rfl

theorem step?_append (style : Style) (pending : Pending) (c : Char) {rest : List Char}
    (h : rest ≠ []) (more : List Char) :
    step? style pending c (rest ++ more) = step? style pending c rest := by
  simp only [step?, plain?, beginsLine_append h]

theorem ends?_steady (pending : Pending) {style : Style} (hmark : style.mark ≠ '\n') :
    Steady (ends? style pending) := by
  intro text htext
  cases pending with
  | nothing => exact closing?_steady hmark text htext
  | skipping => exact closing?_steady hmark text htext
  | backslash => exact .none _
  | code => exact .none _
  | lineEnding => exact .none _

theorem ends?_append (pending : Pending) {style : Style} (hmark : style.mark ≠ '\n')
    {text : List Char} (h : EndsLine text) (hnone : ends? style pending text = none)
    (more : List Char) : ends? style pending (text ++ more) = none := by
  cases pending with
  | nothing => exact closing?_append hmark h hnone more
  | skipping => exact closing?_append hmark h hnone more
  | backslash => rfl
  | code => rfl
  | lineEnding => rfl

/-- A string ends at once, or its next character is one step on. -/
theorem body_cons_eq_some_iff {style : Style} {pending : Pending} {c : Char}
    {text string rest : List Char} :
    body style pending (c :: text) = some (string, rest) ↔
      ends? style pending (c :: text) = some (string, rest) ∨
        ends? style pending (c :: text) = none ∧ ∃ piece next string',
          step? style pending c text = some (piece, next) ∧
            body style next text = some (string', rest) ∧ string = piece ++ string' := by
  rw [body]
  cases ends? style pending (c :: text) with
  | some found => simp
  | none =>
    simp only [Option.bind_eq_bind, Option.bind_eq_some_iff, Prod.exists, Option.pure_def,
      Option.some.injEq, Prod.mk.injEq, reduceCtorEq, true_and, false_or]
    constructor
    . rintro ⟨piece, next, hstep, string', rest', hbody, rfl, rfl⟩
      exact ⟨piece, next, string', hstep, hbody, rfl⟩
    . rintro ⟨piece, next, string', hstep, hbody, rfl⟩
      exact ⟨piece, next, hstep, string', rest, hbody, rfl, rfl⟩

theorem body_steady {style : Style} (hmark : style.mark ≠ '\n') (pending : Pending) :
    Steady (body style pending) := by
  intro text htext
  induction text generalizing pending with
  | nil => exact .none _
  | cons c text ih =>
    intro string rest hread
    rcases body_cons_eq_some_iff.1 hread with hends | ⟨hends, piece, next, string', hstep, hbody, rfl⟩
    . rcases ends?_steady pending hmark _ htext _ _ hends with ⟨hrest, hmore⟩
      refine ⟨hrest, fun more => ?_⟩
      exact body_cons_eq_some_iff.2 (.inl (hmore more))
    . have hne : text ≠ [] := by
        rintro rfl
        contradiction
      rcases ih next (htext.of_cons_of_ne_nil hne) _ _ hbody with ⟨hrest, hmore⟩
      refine ⟨hrest, fun more => ?_⟩
      apply body_cons_eq_some_iff.2
      exact .inr ⟨ends?_append pending hmark htext hends more, piece, next, string',
        (step?_append style pending c hne more).trans hstep, hmore more, rfl⟩

end Quote

section Strings

theorem dropFirstBreak_append {text : List Char} (h : EndsLine text)
    (hne : dropFirstBreak text ≠ []) : EndsLine (dropFirstBreak text) ∧
      ∀ more, dropFirstBreak (text ++ more) = dropFirstBreak text ++ more := by
  unfold dropFirstBreak at hne ⊢
  split at hne
  . next rest => exact ⟨h.of_cons_of_ne_nil hne, fun more => rfl⟩
  . next rest => exact ⟨(h.of_cons (by decide)).of_cons_of_ne_nil hne, fun more => rfl⟩
  . next hline hbreak =>
    refine ⟨h, fun more => ?_⟩
    split
    . next rest heq => exact absurd heq (h.ne_append ['\n'] (by decide) hline more rest)
    . next rest heq => exact absurd heq (h.ne_append ['\r', '\n'] (by decide) hbreak more rest)
    . rfl

theorem lineString?_steady : Steady lineString? := by
  intro text htext
  unfold lineString?
  split
  . next rest => exact Quote.body_steady (by decide) _ rest (htext.of_cons (by decide))
  . next rest => exact Quote.body_steady (by decide) _ rest (htext.of_cons (by decide))
  . exact .none _

theorem body_dropFirstBreak_steady {style : Quote.Style} (hmark : style.mark ≠ '\n') :
    Steady fun text => Quote.body style .nothing (dropFirstBreak text) := by
  intro text htext
  dsimp only
  by_cases hne : dropFirstBreak text = []
  . rw [hne]
    exact .none _
  . rcases dropFirstBreak_append htext hne with ⟨hends, hmore⟩
    simp only [hmore]
    exact Quote.body_steady hmark _ _ hends

theorem string?_steady : Steady string? := by
  intro text htext
  rw [string?.eq_def]
  split
  . next rest =>
    exact body_dropFirstBreak_steady (by decide) rest
      (((htext.of_cons (by decide)).of_cons (by decide)).of_cons (by decide))
  . next rest =>
    exact body_dropFirstBreak_steady (by decide) rest
      (((htext.of_cons (by decide)).of_cons (by decide)).of_cons (by decide))
  . next hdouble hsingle =>
    have hline : ∀ more, string? (text ++ more) = lineString? (text ++ more) := fun more =>
      string?.eq_3 _ (htext.ne_append ['"', '"', '"'] (by decide) hdouble more)
        (htext.ne_append ['\'', '\'', '\''] (by decide) hsingle more)
    simp only [hline]
    exact lineString?_steady text htext

end Strings

section Keys

theorem dropGap_append {text : List Char} (h : EndsLine text) :
    EndsLine (dropGap text) ∧ ∀ more, dropGap (text ++ more) = dropGap text ++ more :=
  ⟨h.dropWhile (by decide), h.dropWhile_append (by decide)⟩

namespace Key

theorem part?_steady : Steady part? := by
  intro text htext
  rw [part?.eq_def]
  split
  . exact (lineString?_steady _ htext).map String.ofList
  . exact (lineString?_steady _ htext).map String.ofList
  . next hdouble hsingle =>
    have hbare := fun more => part?.eq_3 _ (htext.ne_append ['"'] (by decide) hdouble more)
      (htext.ne_append ['\''] (by decide) hsingle more)
    simp only [hbare, htext.span_append (p := isBare) (by decide)]
    split
    . exact .none _
    . exact .some (htext.span (by decide)) fun more => rfl

theorem parts?_steady (fuel : Nat) : Steady (parts? fuel) := by
  induction fuel with
  | zero => exact fun text htext => .none _
  | succ fuel ih =>
    intro text htext
    rcases dropGap_append htext with ⟨hgap, hgapMore⟩
    simp only [parts?, hgapMore]
    apply (part?_steady _ hgap).bind
    intro part rest hrest
    rcases dropGap_append hrest with ⟨hgap, hgapMore⟩
    simp only [hgapMore]
    split
    . next rest heq =>
      rw [heq] at hgap
      simp only [heq, List.cons_append]
      apply (ih rest (hgap.of_cons (by decide))).bind
      intro parts rest' hrest'
      exact .some hrest' fun more => rfl
    . next hpoint =>
      apply Keeps.some hgap
      intro more
      split
      . next rest' heq => exact absurd heq (hgap.ne_append ['.'] (by decide) hpoint more rest')
      . rfl

end Key

end Keys

theorem key?_steady : Steady key? :=
  Key.parts?_steady maxDepth

/-- Either all of the text is passed over, and what follows it comes next, or something is left. -/
theorem dropFiller_append {inComment : Bool} {text rest : List Char} (h : EndsLine text)
    (hread : dropFiller inComment text = some rest) :
    (rest = [] ∧ ∀ more, dropFiller inComment (text ++ more) = dropFiller false more) ∨
      (EndsLine rest ∧ ∀ more, dropFiller inComment (text ++ more) = some (rest ++ more)) := by
  fun_induction dropFiller inComment text with
  | case1 => exact absurd rfl h.ne_nil
  | case2 inComment c text hc ih =>
    simp only [List.cons_append, dropFiller, if_pos hc]
    -- Only the last line feed leaves nothing behind it.
    rcases h.tail with rfl | htext
    . exact .inl ⟨(Option.some.inj hread).symm, fun more => rfl⟩
    . exact ih htext hread
  | case3 inComment c text hc hr hb ih =>
    have htext : EndsLine text := h.of_cons (mt beq_iff_eq.2 hc)
    simp only [List.cons_append, dropFiller, if_neg hc, if_pos hr,
      Quote.beginsLine_append htext.ne_nil, if_pos hb]
    exact ih htext hread
  | case4 => contradiction
  | case5 c text hc hr hcom ih =>
    simp only [List.cons_append, dropFiller, if_neg hc, if_neg hr, if_pos hcom, if_true]
    exact ih (h.of_cons (mt beq_iff_eq.2 hc)) hread
  | case6 => contradiction
  | case7 inComment c text hc hr hcom hgap ih =>
    simp only [List.cons_append, dropFiller, if_neg hc, if_neg hr, if_neg hcom, if_pos hgap]
    exact ih (h.of_cons (mt beq_iff_eq.2 hc)) hread
  | case8 inComment c text hc hr hcom hgap hsharp ih =>
    simp only [List.cons_append, dropFiller, if_neg hc, if_neg hr, if_neg hcom, if_neg hgap,
      if_pos hsharp]
    exact ih (h.of_cons (mt beq_iff_eq.2 hc)) hread
  | case9 inComment c text hc hr hcom hgap hsharp =>
    obtain rfl := Option.some.inj hread
    refine .inr ⟨h, fun more => ?_⟩
    simp only [List.cons_append, dropFiller, if_neg hc, if_neg hr, if_neg hcom, if_neg hgap,
      if_neg hsharp]

theorem dropLine_append {inComment : Bool} {text rest : List Char} (h : EndsLine text)
    (hread : dropLine inComment text = some rest) :
    (rest = [] ∨ EndsLine rest) ∧ ∀ more, dropLine inComment (text ++ more) = some (rest ++ more) := by
  fun_induction dropLine inComment text with
  | case1 => exact absurd rfl h.ne_nil
  | case2 inComment c text hc =>
    obtain rfl := Option.some.inj hread
    refine ⟨h.tail, fun more => ?_⟩
    rw [List.cons_append, dropLine, if_pos hc]
  | case3 inComment c text hc hr hb =>
    obtain rfl := Option.some.inj hread
    have htext : EndsLine text := h.of_cons (mt beq_iff_eq.2 hc)
    rcases List.exists_cons_of_ne_nil htext.ne_nil with ⟨d, text, rfl⟩
    refine ⟨htext.tail, fun more => ?_⟩
    rw [List.cons_append, dropLine, if_neg hc, if_pos hr, Quote.beginsLine_append htext.ne_nil,
      if_pos hb]
    rfl
  | case4 => contradiction
  | case5 c text hc hr hcom ih =>
    simp only [List.cons_append, dropLine, if_neg hc, if_neg hr, if_pos hcom, if_true]
    exact ih (h.of_cons (mt beq_iff_eq.2 hc)) hread
  | case6 => contradiction
  | case7 inComment c text hc hr hcom hgap ih =>
    simp only [List.cons_append, dropLine, if_neg hc, if_neg hr, if_neg hcom, if_pos hgap]
    exact ih (h.of_cons (mt beq_iff_eq.2 hc)) hread
  | case8 inComment c text hc hr hcom hgap hsharp ih =>
    simp only [List.cons_append, dropLine, if_neg hc, if_neg hr, if_neg hcom, if_neg hgap,
      if_pos hsharp]
    exact ih (h.of_cons (mt beq_iff_eq.2 hc)) hread
  | case9 => contradiction

/-- What takes nothing from an empty rest may come after blanks, line breaks and comments. -/
theorem Keeps.dropFiller {α : Type} {text : List Char} {next : List Char → Option (α × List Char)}
    {nextBefore : List Char → List Char → Option (α × List Char)} (h : EndsLine text)
    (hnil : next [] = Option.none)
    (hnext : ∀ rest, EndsLine rest → Keeps (next rest) fun more => nextBefore more (rest ++ more)) :
    Keeps (Toml.dropFiller false text >>= next)
      fun more => Toml.dropFiller false (text ++ more) >>= nextBefore more := by
  intro x last hlast
  rcases Option.bind_eq_some_iff.1 hlast with ⟨rest, hread, hx⟩
  rcases dropFiller_append h hread with ⟨rfl, _⟩ | ⟨hrest, hmore⟩
  . rw [hnil] at hx
    contradiction
  . rcases hnext rest hrest x last hx with ⟨hends, hmore'⟩
    refine ⟨hends, fun more => ?_⟩
    simp only [hmore, Option.bind_eq_bind, Option.bind_some, hmore']

section Values

theorem assignment?_steady {value? : Reader Value} (hvalue : Steady value?) :
    Steady (assignment? value?) := by
  intro text htext
  apply (key?_steady text htext).bind
  intro key rest hrest
  dsimp only
  split
  . next rest =>
    rcases dropGap_append (hrest.of_cons (by decide)) with ⟨hgap, hgapMore⟩
    simp only [List.cons_append, hgapMore]
    apply (hvalue _ hgap).bind
    intro value rest' hrest'
    exact .some hrest' fun more => rfl
  . exact .none _

theorem items?_steady {α : Type} {item? : Reader α} (hitem : Steady item?) (closing : Char)
    (hclosing : closing ≠ '\n') (count : Nat) {text : List Char} (htext : EndsLine text) :
    Keeps (items? item? closing count text)
      fun more => items? item? closing (count + more.length) (text ++ more) := by
  -- The limit is the length of the text, so it grows with what follows.
  induction count generalizing text with
  | zero => exact .none _
  | succ count ih =>
    simp only [Nat.add_right_comm count 1, items?]
    apply Keeps.dropFiller htext rfl
    intro rest hrest
    rcases List.exists_cons_of_ne_nil hrest.ne_nil with ⟨c, rest, rfl⟩
    simp only [List.cons_append]
    by_cases hc : c = closing
    . simp only [hc, beq_self_eq_true, if_true]
      rw [hc] at hrest
      exact .some (hrest.of_cons hclosing) fun more => rfl
    . simp only [beq_iff_eq, hc, if_false]
      apply (hitem _ hrest).bind
      intro item rest hrest
      apply Keeps.dropFiller hrest rfl
      intro rest hrest
      split
      . next rest =>
        apply (ih (hrest.of_cons (by decide))).bind
        intro items rest hrest
        exact .some hrest fun more => rfl
      . next d rest hcomma =>
        split
        . next hd =>
          apply Keeps.some (hrest.of_cons (by rwa [hd]))
          intro more
          rw [List.cons_append]
          split
          . next heq => exact absurd (List.cons.inj heq).1 hcomma
          . next heq =>
            obtain ⟨rfl, rfl⟩ := List.cons.inj heq
            rw [if_pos hd]
          . contradiction
        . exact .none _
      . exact .none _

theorem splitScalar_append {text : List Char} (h : EndsLine text) :
    EndsLine (splitScalar text).2 ∧
      ∀ more, splitScalar (text ++ more) = ((splitScalar text).1, (splitScalar text).2 ++ more) := by
  have hrest := h.span (p := isScalarChar) (by decide)
  simp only [splitScalar, h.span_append (p := isScalarChar) (by decide)]
  split
  . next c rest heq =>
    simp only [heq, List.cons_append]
    rw [heq] at hrest
    split
    . next hdate =>
      have hcons := hrest.of_cons (by decide)
      refine ⟨hcons.span (by decide), fun more => ?_⟩
      rw [← List.cons_append, hcons.span_append (by decide)]
    . exact ⟨hrest, fun more => rfl⟩
  . next hblank =>
    refine ⟨hrest, fun more => ?_⟩
    split
    . next c rest heq =>
      exact absurd heq (hrest.ne_append [' ', c] (by simp) (hblank c) more rest)
    . rfl

theorem value?_steady (depth : Nat) : Steady (value? depth) := by
  induction depth using Nat.strong_induction_on with
  | _ depth ih =>
  intro text htext
  rw [value?.eq_def]
  split
  . simp only [List.cons_append, value?]
    exact (string?_steady _ htext).map fun string => Value.string (String.ofList string)
  . simp only [List.cons_append, value?]
    exact (string?_steady _ htext).map fun string => Value.string (String.ofList string)
  . next rest =>
    cases depth with
    | zero => exact .none _
    | succ depth =>
      have hitems := items?_steady (ih depth (Nat.lt_succ_self depth)) ']' (by decide)
        ('[' :: rest).length (htext.of_cons (by decide))
      simp only [List.cons_append, value?, ← List.length_append] at hitems ⊢
      apply hitems.bind
      intro items rest hrest
      exact .some hrest fun more => rfl
  . next rest =>
    cases depth with
    | zero => exact .none _
    | succ depth =>
      have hitems := items?_steady (assignment?_steady (ih depth (Nat.lt_succ_self depth))) '\x7d'
        (by decide) ('\x7b' :: rest).length (htext.of_cons (by decide))
      simp only [List.cons_append, value?, ← List.length_append] at hitems ⊢
      apply hitems.bind
      intro assignments rest hrest
      dsimp only
      cases ofAssignments? assignments with
      | none => exact .none _
      | some value => exact .some hrest fun more => rfl
  . next hdouble hsingle hbracket hbrace =>
    have hscalar := fun more => value?.eq_7 depth _ (htext.ne_append ['"'] (by decide) hdouble more)
      (htext.ne_append ['\''] (by decide) hsingle more)
      (htext.ne_append ['['] (by decide) hbracket more)
      (htext.ne_append ['\x7b'] (by decide) hbrace more)
    rcases splitScalar_append htext with ⟨hrest, hmore⟩
    simp only [hscalar, hmore]
    cases Value.ofScalar? (splitScalar text).1 with
    | none => exact .none _
    | some value => exact .some hrest fun more => rfl

end Values

end LayerCull.Toml
