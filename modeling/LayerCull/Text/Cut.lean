/-!
This module contains the cutting of a text at the first place where a mark stands.
-/

namespace LayerCull.Text

/-- What stands before the first mark, and after it if there is one. -/
def cut (mark : Char) : List Char → List Char × Option (List Char)
  | [] => ([], none)
  | c :: rest =>
    if c = mark then
      ([], some rest)
    else
      let (before, after) := cut mark rest
      (c :: before, after)

/-- What stands before the last mark and after it. -/
def cutLast? (mark : Char) (text : List Char) : Option (List Char × List Char) :=
  match cut mark text.reverse with
  | (after, some before) => some (before.reverse, after.reverse)
  | (_, none) => none

theorem mark_not_mem_cut (mark : Char) (text : List Char) : mark ∉ (cut mark text).1 := by
  fun_induction cut mark text with
  | case1 => simp
  | case2 => simp
  | case3 c rest hne before after hcut ih => simp_all [Ne.symm hne]

theorem eq_append_of_cut {mark : Char} {text before after : List Char}
    (h : cut mark text = (before, some after)) : text = before ++ mark :: after := by
  fun_induction cut mark text generalizing before after with
  | case1 => cases h
  | case2 => simp_all
  | case3 c rest hne before' after' hcut ih =>
    obtain ⟨rfl, rfl⟩ := Prod.mk.inj h
    simp [ih hcut]

theorem cut_append {mark : Char} {before : List Char} (h : mark ∉ before) (after : List Char) :
    cut mark (before ++ mark :: after) = (before, some after) := by
  induction before with
  | nil => simp [cut]
  | cons c rest ih =>
    simp only [List.mem_cons, not_or] at h
    simp [cut, Ne.symm h.1, ih h.2]

theorem cut_of_not_mem {mark : Char} {text : List Char} (h : mark ∉ text) :
    cut mark text = (text, none) := by
  induction text with
  | nil => rfl
  | cons c rest ih =>
    simp only [List.mem_cons, not_or] at h
    simp [cut, Ne.symm h.1, ih h.2]

theorem eq_of_cut_eq_none {mark : Char} {text before : List Char}
    (h : cut mark text = (before, none)) : before = text ∧ mark ∉ text := by
  fun_induction cut mark text generalizing before with
  | case1 => simp_all
  | case2 => cases h
  | case3 c rest hne before' after' hcut ih =>
    obtain ⟨rfl, rfl⟩ := Prod.mk.inj h
    simp [ih hcut, Ne.symm hne]

theorem length_lt_of_cut {mark : Char} {text before after : List Char}
    (h : cut mark text = (before, some after)) : after.length < text.length := by
  rw [eq_append_of_cut h]
  simp
  omega

end LayerCull.Text
