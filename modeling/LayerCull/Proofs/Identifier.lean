import LayerCull.Diagnosis

/-!
This module contains the meaning of the searches in the server's texts: `Uuid.first?` finds the
leftmost identifier, and a text with a marker names the leftmost identifier in it.
-/

namespace LayerCull

namespace Uuid

def IsDigit (c : Char) : Prop :=
  ('0' ≤ c ∧ c ≤ '9') ∨ ('a' ≤ c ∧ c ≤ 'f')

/-- Five runs of 8, 4, 4, 4 and 12 digits with dashes between them. -/
def Grouped (cs : List Char) : Prop :=
  ∃ a b c d e : List Char, cs = a ++ '-' :: (b ++ '-' :: (c ++ '-' :: (d ++ '-' :: e))) ∧
    [a, b, c, d, e].map List.length = [8, 4, 4, 4, 12] ∧
    ∀ x ∈ a ++ b ++ c ++ d ++ e, IsDigit x

theorem fits_append {ss ts : List Slot} {cs : List Char} :
    fits (ss ++ ts) cs ↔ ∃ a b, cs = a ++ b ∧ fits ss a ∧ fits ts b := by
  induction ss generalizing cs with
  | nil =>
    constructor
    . intro h
      exact ⟨[], cs, rfl, rfl, h⟩
    . rintro ⟨a, b, rfl, ha, hb⟩
      cases a with
      | nil => exact hb
      | cons => simp [fits] at ha
  | cons s ss ih =>
    constructor
    . intro h
      cases cs with
      | nil => simp [fits] at h
      | cons c cs =>
        simp only [List.cons_append, fits, Bool.and_eq_true] at h
        rcases ih.1 h.2 with ⟨a, b, rfl, ha, hb⟩
        refine ⟨c :: a, b, rfl, ?_, hb⟩
        simp [fits, h.1, ha]
    . rintro ⟨a, b, rfl, ha, hb⟩
      cases a with
      | nil => simp [fits] at ha
      | cons c a =>
        simp only [fits, Bool.and_eq_true] at ha
        simp only [List.cons_append, fits, Bool.and_eq_true]
        exact ⟨ha.1, ih.2 ⟨a, b, rfl, ha.2, hb⟩⟩

theorem accepts_digit_iff {c : Char} : Slot.digit.accepts c = true ↔ IsDigit c := by
  simp [Slot.accepts, IsDigit]

theorem fits_digits {n : Nat} {cs : List Char} :
    fits (shape.digits n) cs ↔ cs.length = n ∧ ∀ c ∈ cs, IsDigit c := by
  unfold shape.digits
  induction n generalizing cs with
  | zero => cases cs <;> simp [fits]
  | succ n ih =>
    cases cs with
    | nil => simp [fits, List.replicate_succ]
    | cons c cs =>
      simp only [List.replicate_succ, fits, Bool.and_eq_true, accepts_digit_iff, ih,
        List.length_cons, List.forall_mem_cons]
      constructor
      . rintro ⟨h₁, h₂, h₃⟩
        exact ⟨by omega, h₁, h₃⟩
      . rintro ⟨h₁, h₂, h₃⟩
        exact ⟨h₂, by omega, h₃⟩

theorem fits_dash {cs : List Char} : fits [.dash] cs ↔ cs = ['-'] := by
  rcases cs with _ | ⟨c, _ | ⟨d, cs⟩⟩ <;> simp [fits, Slot.accepts]

theorem shaped_iff_grouped {cs : List Char} : Shaped cs ↔ Grouped cs := by
  unfold Shaped shape
  simp only [fits_append, fits_digits, fits_dash]
  constructor
  . rintro ⟨_, e, rfl, ⟨_, _, rfl, ⟨_, d, rfl, ⟨_, _, rfl, ⟨_, c, rfl, ⟨_, _, rfl, ⟨_, b, rfl,
      ⟨a, _, rfl, ⟨ha, ha'⟩, rfl⟩, hb, hb'⟩, rfl⟩, hc, hc'⟩, rfl⟩, hd, hd'⟩, rfl⟩, he, he'⟩
    refine ⟨a, b, c, d, e, by simp, by simp [ha, hb, hc, hd, he], ?_⟩
    intro x hx
    simp only [List.mem_append] at hx
    rcases hx with (((hx | hx) | hx) | hx) | hx
    . exact ha' x hx
    . exact hb' x hx
    . exact hc' x hx
    . exact hd' x hx
    . exact he' x hx
  . rintro ⟨a, b, c, d, e, rfl, hlen, hdigit⟩
    simp only [List.map_cons, List.map_nil, List.cons.injEq, and_true] at hlen
    rcases hlen with ⟨ha, hb, hc, hd, he⟩
    have hdigit : ∀ ys ∈ [a, b, c, d, e], ∀ x ∈ ys, IsDigit x := by
      intro ys hys x hx
      apply hdigit
      simp only [List.mem_cons, List.not_mem_nil, or_false] at hys
      rcases hys with rfl | rfl | rfl | rfl | rfl <;> simp [hx]
    simp only [List.forall_mem_cons] at hdigit
    rcases hdigit with ⟨ha', hb', hc', hd', he', _⟩
    refine ⟨_, e, ?_, ⟨_, ['-'], rfl, ⟨_, d, rfl, ⟨_, ['-'], rfl, ⟨_, c, rfl, ⟨_, ['-'], rfl,
      ⟨_, b, rfl, ⟨a, ['-'], rfl, ⟨ha, ha'⟩, rfl⟩, hb, hb'⟩, rfl⟩, hc, hc'⟩, rfl⟩, hd, hd'⟩, rfl⟩,
      he, he'⟩
    simp

theorem Shaped.length_eq {cs : List Char} (h : Shaped cs) : cs.length = 36 := by
  rw [length_eq_of_fits h, length_shape]

theorem Shaped.take_append {window : List Char} (h : Shaped window) (later : List Char) :
    (window ++ later).take 36 = window := by
  have hlength := h.length_eq
  rw [List.take_append_of_le_length, List.take_of_length_le]
  . omega
  . omega

/-- The window is a UUID that stands in the text, and none begins further left. -/
def Leftmost (window text : List Char) : Prop :=
  ∃ before after, text = before ++ window ++ after ∧ Shaped window ∧
    ∀ earlier other later, text = earlier ++ other ++ later → Shaped other →
      before.length ≤ earlier.length

theorem not_shaped_of_first?_eq_none {text earlier other later : List Char}
    (h : first? text = none) (htext : text = earlier ++ other ++ later) : ¬Shaped other := by
  induction text generalizing earlier with
  | nil =>
    intro hother
    have := hother.length_eq
    simp only [List.nil_eq, List.append_eq_nil_iff] at htext
    simp [htext.1.2] at this
  | cons c text ih =>
    rw [first?] at h
    split at h
    . contradiction
    . next hhead =>
      cases earlier with
      | nil =>
        intro hother
        apply hhead
        rw [htext, List.nil_append, hother.take_append]
        exact hother
      | cons d earlier =>
        have htail : text = earlier ++ other ++ later := by simpa using (List.cons.inj htext).2
        exact ih h htail

theorem leftmost_of_first?_eq_some {text : List Char} {window : { w : List Char // Shaped w }}
    (h : first? text = some window) : Leftmost window.val text := by
  induction text with
  | nil => contradiction
  | cons c text ih =>
    rw [first?] at h
    split at h
    . next hhead =>
      cases h
      refine ⟨[], (c :: text).drop 36, ?_, hhead, ?_⟩
      . simp only [List.nil_append, List.take_append_drop]
      . intro _ _ _ _ _
        simp
    . next hhead =>
      rcases ih h with ⟨before, after, rfl, hwindow, hleast⟩
      refine ⟨c :: before, after, rfl, hwindow, ?_⟩
      intro earlier other later htext hother
      -- A UUID that began right here would be the window of the failed test.
      cases earlier with
      | nil =>
        exfalso
        apply hhead
        rw [htext, List.nil_append, hother.take_append]
        exact hother
      | cons d earlier =>
        simp only [List.length_cons, Nat.add_le_add_iff_right]
        apply hleast earlier other later _ hother
        simpa using (List.cons.inj htext).2

theorem Leftmost.eq {v w text : List Char} (hv : Leftmost v text) (hw : Leftmost w text) :
    v = w := by
  rcases hv with ⟨before, after, rfl, hshaped, hleast⟩
  rcases hw with ⟨before', after', htext, hshaped', hleast'⟩
  have hlength : before.length = before'.length := by
    apply Nat.le_antisymm
    . exact hleast _ _ _ htext hshaped'
    . exact hleast' _ _ _ rfl hshaped
  rw [List.append_assoc, List.append_assoc] at htext
  have hrest := (List.append_inj htext hlength).2
  apply (List.append_inj hrest _).1
  rw [hshaped.length_eq, hshaped'.length_eq]

/-- The character stands in no UUID. -/
def Breaks (c : Char) : Prop :=
  ∀ slot : Slot, slot.accepts c = false

theorem breaks_iff {c : Char} :
    Breaks c ↔ Slot.digit.accepts c = false ∧ Slot.dash.accepts c = false := by
  constructor
  . intro h
    exact ⟨h .digit, h .dash⟩
  . rintro ⟨hdigit, hdash⟩ slot
    cases slot with
    | digit => exact hdigit
    | dash => exact hdash

instance (c : Char) : Decidable (Breaks c) :=
  decidable_of_iff _ breaks_iff.symm

theorem Breaks.not_mem_of_fits {c : Char} (hc : Breaks c) {ss : List Slot} {cs : List Char}
    (h : fits ss cs) : c ∉ cs := by
  induction ss generalizing cs with
  | nil =>
    cases cs with
    | nil => simp
    | cons => simp [fits] at h
  | cons s ss ih =>
    cases cs with
    | nil => simp
    | cons d cs =>
      simp only [fits, Bool.and_eq_true] at h
      rw [List.mem_cons, not_or]
      refine ⟨?_, ih h.2⟩
      rintro rfl
      rw [hc s] at h
      exact absurd h.1 (by simp)

/-- Wherever one begins to read, a space comes too soon for an identifier. -/
def spaced : List Char → Bool
  | [] => true
  | c :: cs => ((c :: cs).take 36).contains ' ' && spaced cs

theorem first?_append_of_spaced {words : List Char} (h : spaced words) (later : List Char) :
    first? (words ++ later) = first? later := by
  induction words with
  | nil => rfl
  | cons c words ih =>
    rw [spaced, Bool.and_eq_true, List.contains_iff_mem] at h
    rw [List.cons_append, first?, dif_neg]
    . exact ih h.2
    . intro hshaped
      have hspace : Breaks ' ' := by decide
      apply hspace.not_mem_of_fits hshaped
      rw [← List.cons_append, List.take_append]
      exact List.mem_append_left _ h.1

theorem first?_of_shaped {cs : List Char} (h : Shaped cs) : first? cs = some ⟨cs, h⟩ := by
  have htake : cs.take 36 = cs := by
    apply List.take_of_length_le
    exact Nat.le_of_eq h.length_eq
  cases cs with
  | nil => exact absurd h.length_eq (by simp)
  | cons c cs =>
    rw [first?, dif_pos (by rw [htake]; exact h)]
    simp only [htake]

end Uuid

def LayerId.FirstIn (id : LayerId) (text : String) : Prop :=
  Uuid.Leftmost id.text.toList text.toList

theorem LayerId.first?_eq_some {id : LayerId} {text : String}
    (h : Uuid.first? text.toList = some ⟨id.text.toList, id.shaped⟩) :
    LayerId.first? text = some id := by
  rw [LayerId.first?, h, Option.map_some, Option.some.injEq]
  apply LayerId.ext
  simp only [String.ofList_toList]

theorem LayerId.first?_eq_some_iff {id : LayerId} {text : String} :
    LayerId.first? text = some id ↔ id.FirstIn text := by
  unfold LayerId.first? LayerId.FirstIn
  constructor
  . intro h
    rcases Option.map_eq_some_iff.1 h with ⟨⟨window, hwindow⟩, hfirst, rfl⟩
    simpa only [String.toList_ofList] using Uuid.leftmost_of_first?_eq_some hfirst
  . intro h
    cases hfirst : Uuid.first? text.toList with
    | none =>
      rcases h with ⟨before, after, htext, hshaped, _⟩
      exact absurd hshaped (Uuid.not_shaped_of_first?_eq_none hfirst htext)
    | some window =>
      have := (Uuid.leftmost_of_first?_eq_some hfirst).eq h
      rw [Option.map_some, Option.some.injEq]
      apply LayerId.ext
      simp only [this, String.ofList_toList]

def LayerId.AbsentFrom (text : String) : Prop :=
  ∀ id : LayerId, ¬id.text.toList <:+: text.toList

theorem LayerId.first?_eq_none_iff {text : String} :
    LayerId.first? text = none ↔ LayerId.AbsentFrom text := by
  constructor
  . intro h id
    rintro ⟨before, after, htext⟩
    have hnone : Uuid.first? text.toList = none := by
      simpa [LayerId.first?] using h
    exact Uuid.not_shaped_of_first?_eq_none hnone htext.symm id.shaped
  . intro h
    cases hfirst : LayerId.first? text with
    | none => rfl
    | some id =>
      rcases LayerId.first?_eq_some_iff.1 hfirst with ⟨before, after, htext, _⟩
      exact absurd ⟨before, after, htext.symm⟩ (h id)

namespace Text

theorem occursIn_iff {needle text : List Char} : occursIn needle text = true ↔ needle <:+: text := by
  induction text with
  | nil => simp [occursIn]
  | cons c text ih =>
    rw [occursIn, Bool.or_eq_true, List.isPrefixOf_iff_prefix, ih, List.infix_cons_iff]

end Text

namespace Marker

theorem isIn_iff {m : Marker} {text : String} :
    m.isIn text = true ↔ m.phrase.toList <:+: text.toList :=
  Text.occursIn_iff

/-- The marker stands in the text, and the identifier is the first one there. -/
def Names (m : Marker) (text : String) (id : LayerId) : Prop :=
  m.phrase.toList <:+: text.toList ∧ id.FirstIn text

theorem subject?_eq_some_iff {m : Marker} {text : String} {id : LayerId} :
    m.subject? text = some id ↔ m.Names text id := by
  unfold subject? Names
  rw [← isIn_iff, ← LayerId.first?_eq_some_iff]
  split <;> simp [*]

def saying (m : Marker) (id : LayerId) : String :=
  m.phrase ++ " " ++ id.text

theorem names_saying (m : Marker) (id : LayerId) : m.Names (m.saying id) id := by
  constructor
  . simp only [saying, String.toList_append, List.append_assoc]
    exact ⟨[], _, rfl⟩
  . apply LayerId.first?_eq_some_iff.1
    have hspaced : Uuid.spaced (m.phrase ++ " ").toList := by
      cases m <;> decide +kernel
    apply LayerId.first?_eq_some
    rw [saying, String.toList_append, Uuid.first?_append_of_spaced hspaced]
    exact Uuid.first?_of_shaped id.shaped

end Marker

end LayerCull
