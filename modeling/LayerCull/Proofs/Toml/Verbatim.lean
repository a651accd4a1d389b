import LayerCull.Proofs.Toml.Lines

/-!
This module contains which texts come out of a document as they were written: keys of one part without
marks, and strings between double marks of which each character stands for itself (`isVerbatim`).
-/

namespace LayerCull.Toml

/-- The character stands for itself between double marks. -/
def isVerbatim (c : Char) : Bool :=
  isText c && c != '"' && c != '\\'

theorem isVerbatim_iff {c : Char} : isVerbatim c ↔ isText c ∧ c ≠ '"' ∧ c ≠ '\\' := by
  simp [isVerbatim, and_assoc]

namespace Quote

/-- How many marks end a string. -/
def Style.marks (style : Style) : Nat :=
  if style.multiline then 3 else 1

theorem length_of_closing? {style : Style} {text string rest : List Char}
    (h : closing? style text = some (string, rest)) :
    string.length + style.marks + rest.length ≤ text.length := by
  have hmarks : ((text.take 5).takeWhile (· == style.mark)).length ≤ text.length :=
    (List.takeWhile_prefix _).length_le.trans (List.take_prefix 5 text).length_le
  unfold closing? at h
  unfold Style.marks
  cases hstyle : style.multiline with
  | false =>
    simp only [hstyle, Bool.not_false, if_true] at h
    split at h
    . contradiction
    . next hne =>
      have hpos : 0 < ((text.take 5).takeWhile (· == style.mark)).length :=
        List.length_pos_iff.2 (by simpa using hne)
      obtain ⟨rfl, rfl⟩ := Prod.mk.inj (Option.some.inj h)
      simp only [List.length_nil, List.length_drop, Bool.false_eq_true, if_false]
      omega
  | true =>
    simp only [hstyle, Bool.not_true, Bool.false_eq_true, if_false] at h
    split at h
    . obtain ⟨rfl, rfl⟩ := Prod.mk.inj (Option.some.inj h)
      simp only [List.length_drop, if_true]
      omega
    . contradiction

theorem length_of_ends? {style : Style} {pending : Pending} {text string rest : List Char}
    (h : ends? style pending text = some (string, rest)) :
    string.length + style.marks + rest.length ≤ text.length := by
  cases pending with
  | nothing => exact length_of_closing? h
  | skipping => exact length_of_closing? h
  | backslash => contradiction
  | code => contradiction
  | lineEnding => contradiction

theorem length_of_step? {style : Style} {pending next : Pending} {c : Char} {rest piece : List Char}
    (h : step? style pending c rest = some (piece, next)) : piece.length ≤ 1 := by
  unfold step? plain? at h
  grind

/-- No character stands for more than one. -/
theorem length_of_body {style : Style} {pending : Pending} {text string rest : List Char}
    (h : body style pending text = some (string, rest)) :
    string.length + style.marks + rest.length ≤ text.length := by
  induction text generalizing pending string with
  | nil => contradiction
  | cons c text ih =>
    rcases body_cons_eq_some_iff.1 h with hends | ⟨_, piece, next, string', hstep, hbody, rfl⟩
    . exact length_of_ends? hends
    . have hpiece := length_of_step? hstep
      have hrest := ih hbody
      rw [List.length_append, List.length_cons]
      omega

/-- The style of a string of one line between double marks. -/
def double : Style :=
  ⟨'"', false⟩

theorem marks_double : double.marks = 1 :=
  rfl

theorem closing?_double (text : List Char) : closing? double ('"' :: text) = some ([], text) := by
  simp [closing?, double]

theorem closing?_double_of_ne {c : Char} (h : c ≠ '"') (text : List Char) :
    closing? double (c :: text) = none := by
  simp [closing?, double, h]

theorem body_double_of_isVerbatim {value : List Char} (h : ∀ c ∈ value, isVerbatim c)
    (rest : List Char) : body double .nothing (value ++ '"' :: rest) = some (value, rest) := by
  induction value with
  | nil => rfl
  | cons c value ih =>
    rw [List.forall_mem_cons] at h
    rcases isVerbatim_iff.1 h.1 with ⟨htext, hquote, hbackslash⟩
    apply body_cons_eq_some_iff.2
    refine .inr ⟨closing?_double_of_ne hquote _, [c], .nothing, value, ?_, ih h.2, rfl⟩
    simp [step?, plain?, htext, hbackslash]

/-- As many characters as were read come out only if each stood for itself. -/
theorem isVerbatim_of_body_double {text value rest : List Char}
    (h : body double .nothing text = some (value, rest))
    (hlength : text.length = value.length + 1 + rest.length) : ∀ c ∈ value, isVerbatim c := by
  induction text generalizing value with
  | nil => contradiction
  | cons c text ih =>
    rcases body_cons_eq_some_iff.1 h with hends | ⟨hends, piece, next, value', hstep, hbody, rfl⟩
    . by_cases hquote : c = '"'
      . rw [hquote, ends?, closing?_double] at hends
        obtain ⟨rfl, rfl⟩ := Prod.mk.inj (Option.some.inj hends)
        exact List.forall_mem_nil _
      . rw [ends?, closing?_double_of_ne hquote] at hends
        contradiction
    . have hquote : c ≠ '"' := by
        rintro rfl
        rw [ends?, closing?_double] at hends
        contradiction
      -- A backslash takes a character and adds none, so the lengths cannot match after it.
      have hrest := length_of_body hbody
      simp only [step?, plain?, double, Style.escapes, beq_self_eq_true, Bool.and_true, Bool.false_and,
        Bool.or_false] at hstep
      split at hstep
      . obtain ⟨rfl, rfl⟩ := Prod.mk.inj (Option.some.inj hstep)
        rw [List.length_cons, List.nil_append] at hlength
        rw [marks_double] at hrest
        omega
      . next hbackslash =>
        split at hstep
        . next htext =>
          obtain ⟨rfl, rfl⟩ := Prod.mk.inj (Option.some.inj hstep)
          have hvalue := ih hbody (by simp at hlength; omega)
          rw [List.singleton_append, List.forall_mem_cons]
          exact ⟨isVerbatim_iff.2 ⟨htext, hquote, by simpa using hbackslash⟩, hvalue⟩
        . contradiction

end Quote

theorem lineString?_double (text : List Char) :
    lineString? ('"' :: text) = Quote.body Quote.double .nothing text :=
  rfl

theorem string?_of_isVerbatim {value rest : List Char} (h : ∀ c ∈ value, isVerbatim c)
    (hrest : rest.head? ≠ some '"') : string? ('"' :: (value ++ '"' :: rest)) = some (value, rest) := by
  have hline : string? ('"' :: (value ++ '"' :: rest)) =
      lineString? ('"' :: (value ++ '"' :: rest)) := by
    apply string?.eq_3
    . intro more heq
      cases value with
      | nil =>
        rw [(List.cons.inj (List.cons.inj heq).2).2] at hrest
        exact hrest rfl
      | cons c value =>
        rw [List.forall_mem_cons] at h
        exact (isVerbatim_iff.1 h.1).2.1 (List.cons.inj (List.cons.inj heq).2).1
    . intro more heq
      exact absurd (List.cons.inj heq).1 (by decide)
  rw [hline, lineString?_double, Quote.body_double_of_isVerbatim h]

theorem length_dropFirstBreak (text : List Char) : (dropFirstBreak text).length ≤ text.length := by
  unfold dropFirstBreak
  split
  . simp
  . simp only [List.length_cons]
    omega
  . exact Nat.le_refl _

theorem isVerbatim_of_string? {value rest : List Char}
    (h : string? ('"' :: (value ++ ['"'])) = some (value, rest)) : ∀ c ∈ value, isVerbatim c := by
  rw [string?.eq_def] at h
  split at h
  -- Six marks would have to come out of the two that stand around the value.
  . next text heq =>
    have hlength := congrArg List.length heq
    have hbreak := length_dropFirstBreak text
    have hbody := Quote.length_of_body h
    simp [Quote.Style.marks] at hlength hbody
    omega
  . next heq => exact absurd (List.cons.inj heq).1 (by decide)
  . rw [lineString?_double] at h
    have hbody := Quote.length_of_body h
    apply Quote.isVerbatim_of_body_double h
    rw [List.length_append, Quote.marks_double] at hbody
    rw [List.length_append]
    simp only [List.length_singleton] at hbody ⊢
    omega

theorem dropGap_blank_cons {c : Char} (hc : isGap c = false) (rest : List Char) :
    dropGap (' ' :: c :: rest) = c :: rest := by
  rw [dropGap, List.dropWhile_cons_of_pos (by decide), List.dropWhile_cons_of_neg (by simp [hc])]

namespace Key

section Bare

variable {c : Char} {name rest : List Char} (h : ∀ d ∈ c :: name, isBare d)
  (hrest : rest.head?.any isBare = false)

include h

theorem ne_of_isBare {d : Char} (hd : isBare d = false) : c ≠ d := by
  rintro rfl
  have hc := h c List.mem_cons_self
  rw [hd] at hc
  contradiction

include hrest

theorem span_isBare : (c :: name ++ rest).span isBare = (c :: name, rest) := by
  rw [List.span_eq_takeWhile_dropWhile, List.takeWhile_append_of_pos h, List.dropWhile_append_of_pos h]
  cases rest with
  | nil => simp
  | cons d rest =>
    have hd : ¬isBare d := by simpa using hrest
    rw [List.takeWhile_cons_of_neg hd, List.dropWhile_cons_of_neg hd, List.append_nil]

theorem part?_of_isBare : part? (c :: name ++ rest) = some (String.ofList (c :: name), rest) := by
  rw [part?.eq_3, span_isBare h hrest]
  . rfl
  . intro more heq
    exact ne_of_isBare h (by decide) (List.cons.inj heq).1
  . intro more heq
    exact ne_of_isBare h (by decide) (List.cons.inj heq).1

end Bare

theorem parts?_of_isBare (fuel : Nat) (c : Char) (name rest : List Char)
    (h : ∀ d ∈ c :: name, isBare d) (hrest : rest.head?.any isBare = false)
    (hpoint : (dropGap rest).head? ≠ some '.') :
    parts? (fuel + 1) (c :: name ++ rest) = some ([String.ofList (c :: name)], dropGap rest) := by
  have hc : ¬isGap c := by
    have hblank : c ≠ ' ' := ne_of_isBare h (by decide)
    have htab : c ≠ '\t' := ne_of_isBare h (by decide)
    simp [isGap, hblank, htab]
  have hgap : dropGap (c :: name ++ rest) = c :: name ++ rest := by
    rw [dropGap, List.cons_append, List.dropWhile_cons_of_neg hc]
  simp only [parts?, hgap, part?_of_isBare h hrest, Option.bind_eq_bind, Option.bind_some]
  split
  . next heq =>
    rw [heq] at hpoint
    exact absurd rfl hpoint
  . rfl

end Key

end LayerCull.Toml
