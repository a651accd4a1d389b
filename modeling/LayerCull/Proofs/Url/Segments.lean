import LayerCull.Proofs.Url.Escapes
import LayerCull.Url.Segments
import Mathlib.Data.List.Induction

/-!
This module contains how a path comes about from its segments: what the pieces of a text are, and that
a segment of dots takes earlier ones away while any other one stays.
-/

namespace LayerCull.Url

namespace Percent

open Text.Digits (isHex)

theorem inPath_of_isHex {c : Char} (h : isHex c = true) : inPath c = false := by
  have hall : ∀ n < 0x80, isHex (Char.ofNat n) = true → inPath (Char.ofNat n) = false := by decide
  exact Text.forall_of_toNat_lt (P := fun d => isHex d = true → inPath d = false) hall
    (toNat_lt_of_isHex h) h

theorem decode_encode_inPath (text : List Char) : decode (encode inPath text) = decode text :=
  decode_encode rfl (fun _ => inPath_of_isHex) text

end Percent

namespace Segments

section

variable {separates : Char → Bool}

theorem split_append_cons {c : Char} (hc : separates c = true) (front back : List Char) :
    split separates (front ++ c :: back) = split separates front ++ split separates back :=
  List.splitOnP_append_cons front back hc

theorem split_eq_singleton {text : List Char} (h : ∀ c ∈ text, separates c = false) :
    split separates text = [text] :=
  List.splitOnP_eq_singleton h

/-- A character that does not separate joins the first piece. -/
theorem split_cons_of_not_separates {c : Char} (hc : separates c = false) (text : List Char) :
    ∃ first rest, split separates text = first :: rest ∧
      split separates (c :: text) = (c :: first) :: rest := by
  rcases List.exists_cons_of_ne_nil (List.splitOnP_ne_nil separates text) with ⟨first, rest, h⟩
  refine ⟨first, rest, h, ?_⟩
  rw [split, List.splitOnP_cons_eq_if_modifyHead, hc, h]
  rfl

/-- A character at the end that does not separate joins the last piece. -/
theorem split_concat_of_not_separates {c : Char} (hc : separates c = false) (text : List Char) :
    ∃ front last, split separates (text ++ [c]) = front ++ [last ++ [c]] := by
  induction text with
  | nil =>
    refine ⟨[], [], ?_⟩
    apply split_eq_singleton
    simp [hc]
  | cons d text ih =>
    rcases ih with ⟨front, last, hsplit⟩
    cases hd : separates d with
    | true =>
      refine ⟨[] :: front, last, ?_⟩
      rw [List.cons_append, ← List.nil_append (d :: _), split_append_cons hd, hsplit]
      rfl
    | false =>
      rcases split_cons_of_not_separates hd (text ++ [c]) with ⟨first, rest, hfirst, hcons⟩
      rw [hsplit] at hfirst
      rw [List.cons_append, hcons]
      cases front with
      | nil =>
        cases hfirst
        exact ⟨[], d :: last, rfl⟩
      | cons segment front =>
        cases hfirst
        exact ⟨(d :: first) :: front, last, rfl⟩

theorem length_encode_le_of_mem_split {text segment : List Char}
    (h : segment ∈ split separates text) :
    (Utf8.encode segment).length ≤ (Utf8.encode text).length := by
  induction text generalizing segment with
  | nil =>
    obtain rfl := List.mem_singleton.1 h
    exact Nat.le_refl _
  | cons c text ih =>
    have hlt := Utf8.length_encode_lt_cons c text
    cases hc : separates c with
    | true =>
      rw [← List.nil_append (c :: text), split_append_cons hc, List.mem_append] at h
      rcases h with hempty | hlater
      . obtain rfl := List.mem_singleton.1 hempty
        exact Nat.zero_le _
      . exact Nat.le_trans (ih hlater) (Nat.le_of_lt hlt)
    | false =>
      rcases split_cons_of_not_separates hc text with ⟨first, rest, hsplit, hcons⟩
      rw [hcons, List.mem_cons] at h
      rcases h with rfl | hlater
      . have hfirst : (Utf8.encode first).length ≤ (Utf8.encode text).length := by
          apply ih
          rw [hsplit]
          exact List.mem_cons_self
        rw [Utf8.encode_cons c first, Utf8.encode_cons c text, List.length_append,
          List.length_append]
        omega
      . have hsegment : (Utf8.encode segment).length ≤ (Utf8.encode text).length := by
          apply ih
          rw [hsplit]
          exact List.mem_cons_of_mem _ hlater
        omega

/-- Every piece of a text that holds a separator is shorter than the text. -/
theorem length_encode_lt_of_mem_split {text segment : List Char} {c : Char}
    (hc : separates c = true) (hmem : c ∈ text) (h : segment ∈ split separates text) :
    (Utf8.encode segment).length < (Utf8.encode text).length := by
  rcases List.append_of_mem hmem with ⟨front, back, rfl⟩
  have := Utf8.length_encode_lt_cons c back
  rw [split_append_cons hc, List.mem_append] at h
  rw [Utf8.encode_append, List.length_append]
  rcases h with hfront | hback
  . have := length_encode_le_of_mem_split hfront
    omega
  . have := length_encode_le_of_mem_split hback
    omega

end

/-- The segment is a name: it leads neither to this directory nor to the one above. -/
def IsName (segment : List Char) : Prop :=
  dots? segment ≠ some 1 ∧ dots? segment ≠ some 2

instance (segment : List Char) : Decidable (IsName segment) :=
  inferInstanceAs (Decidable (_ ∧ _))

/-- Where a segment leads if others follow it. -/
def step (path : List (List Char)) (segment : List Char) : List (List Char) :=
  match dots? segment with
  | some 1 => path
  | some 2 => up path
  | _ => path ++ [segment]

theorem step_of_isName {segment : List Char} (h : IsName segment) (path : List (List Char)) :
    step path segment = path ++ [segment] := by
  unfold step
  split
  . next hdots => exact absurd hdots h.1
  . next hdots => exact absurd hdots h.2
  . rfl

theorem dots?_of_not_isName {segment : List Char} (h : ¬IsName segment) :
    dots? segment = some 1 ∨ dots? segment = some 2 := by
  rw [IsName, not_and_or, Decidable.not_not, Decidable.not_not] at h
  exact h

theorem follow_cons_of_isName {segment : List Char} (h : IsName segment)
    (path rest : List (List Char)) :
    follow path (segment :: rest) = follow (step path segment) rest := by
  rw [step_of_isName h, follow]
  split
  . next hdots => exact absurd hdots h.1
  . next hdots => exact absurd hdots h.2
  . rfl

/-- A path that ends on dots ends on a directory. -/
theorem follow_cons_of_not_isName {segment : List Char} (h : ¬IsName segment)
    (path rest : List (List Char)) :
    follow path (segment :: rest) =
      follow (step path segment ++ if rest.isEmpty then [[]] else []) rest := by
  rcases dots?_of_not_isName h with hdots | hdots <;> simp [follow, step, hdots]

theorem follow_append {later : List (List Char)} (h : later ≠ []) (path segments : List (List Char)) :
    follow path (segments ++ later) = follow (segments.foldl step path) later := by
  induction segments generalizing path with
  | nil => rfl
  | cons segment segments ih =>
    rw [List.cons_append, List.foldl_cons, ← ih]
    by_cases hname : IsName segment
    . exact follow_cons_of_isName hname _ _
    . rw [follow_cons_of_not_isName hname]
      simp [h]

theorem foldl_step_of_isName {segments : List (List Char)}
    (h : ∀ segment ∈ segments, IsName segment) (path : List (List Char)) :
    segments.foldl step path = path ++ segments := by
  induction segments generalizing path with
  | nil => simp
  | cons segment segments ih =>
    rw [List.forall_mem_cons] at h
    rw [List.foldl_cons, step_of_isName h.1, ih h.2]
    simp

theorem follow_of_isName {segments : List (List Char)} (h : ∀ segment ∈ segments, IsName segment)
    (path : List (List Char)) : follow path segments = path ++ segments := by
  induction segments generalizing path with
  | nil => simp [follow]
  | cons segment segments ih =>
    rw [List.forall_mem_cons] at h
    rw [follow_cons_of_isName h.1, step_of_isName h.1, ih h.2]
    simp

/-- What the segments leave is the beginning of the path, and then some of them. -/
theorem foldl_step_eq (path segments : List (List Char)) :
    ∃ count kept, segments.foldl step path = path.take count ++ kept ∧
      ∀ segment ∈ kept, segment ∈ segments := by
  induction segments using List.reverseRecOn with
  | nil => exact ⟨path.length, [], by simp, by simp⟩
  | append_singleton segments segment ih =>
    rcases ih with ⟨count, kept, heq, hkept⟩
    rw [List.foldl_append, List.foldl_cons, List.foldl_nil, heq]
    have hearlier : ∀ s ∈ kept, s ∈ segments ++ [segment] := by
      intro s hs
      exact List.mem_append_left _ (hkept s hs)
    unfold step
    split
    . exact ⟨count, kept, rfl, hearlier⟩
    . unfold up
      split
      . exact ⟨count, kept, rfl, hearlier⟩
      . cases kept using List.reverseRecOn with
        | nil =>
          -- Nothing of the segments is left, so the old path loses its last one.
          have hcount : min (min count path.length - 1) count = min count path.length - 1 := by
            omega
          refine ⟨min count path.length - 1, [], ?_, by simp⟩
          rw [List.append_nil, List.append_nil, List.dropLast_eq_take, List.length_take,
            List.take_take, hcount]
        | append_singleton kept last =>
          refine ⟨count, kept, ?_, fun s hs => hearlier s (List.mem_append_left _ hs)⟩
          rw [← List.append_assoc, List.dropLast_concat]
    . refine ⟨count, kept ++ [segment], by simp, ?_⟩
      rw [List.forall_mem_append, List.forall_mem_singleton]
      exact ⟨hearlier, by simp⟩

theorem decode_of_dots? {segment : List Char} {count : Nat} (h : dots? segment = some count) :
    Percent.decode segment = Utf8.encode (List.replicate count '.') := by
  fun_induction dots? segment generalizing count with
  | case1 =>
    cases h
    rfl
  | case2 rest ih =>
    rcases Option.map_eq_some_iff.1 h with ⟨later, hlater, rfl⟩
    rw [Percent.decode_cons (by simp), ih hlater, List.replicate_succ,
      Utf8.encode_cons '.' (List.replicate later '.')]
  | case3 rest ih =>
    rcases Option.map_eq_some_iff.1 h with ⟨later, hlater, rfl⟩
    rw [Percent.decode_percent_of_value? rfl rfl, ih hlater, List.replicate_succ,
      Utf8.encode_cons '.' (List.replicate later '.')]
    rfl
  | case4 rest ih =>
    rcases Option.map_eq_some_iff.1 h with ⟨later, hlater, rfl⟩
    rw [Percent.decode_percent_of_value? rfl rfl, ih hlater, List.replicate_succ,
      Utf8.encode_cons '.' (List.replicate later '.')]
    rfl
  | case5 => contradiction

theorem isName_encode_iff {text : List Char} (h : ¬Percent.Escaped text) :
    IsName (Percent.encode Percent.inPath text) ↔ text ≠ ['.'] ∧ text ≠ ['.', '.'] := by
  constructor
  . intro hname
    constructor
    . rintro rfl
      revert hname
      decide
    . rintro rfl
      revert hname
      decide
  . rintro ⟨hone, htwo⟩
    have hdots {count : Nat} (hcount : dots? (Percent.encode Percent.inPath text) = some count) :
        text = List.replicate count '.' := by
      have hbytes := decode_of_dots? hcount
      rw [Percent.decode_encode_inPath, Percent.decode_eq_encode_iff.2 h] at hbytes
      exact Utf8.encode_injective hbytes
    exact ⟨fun hcount => hone (hdots hcount), fun hcount => htwo (hdots hcount)⟩

/-- The character stands for itself in a segment, whatever comes before and after it. -/
def IsPlain (c : Char) : Prop :=
  c.toNat < 0x80 ∧ Percent.inPath c = false ∧ c ≠ '%' ∧ c ≠ '/' ∧ c ≠ '\\'

instance (c : Char) : Decidable (IsPlain c) :=
  inferInstanceAs (Decidable (_ ∧ _))

theorem encode_of_isPlain {text : List Char} (h : ∀ c ∈ text, IsPlain c) :
    Percent.encode Percent.inPath text = text := by
  induction text with
  | nil => rfl
  | cons c text ih =>
    rw [List.forall_mem_cons] at h
    rcases h with ⟨⟨hascii, hpath, _⟩, htext⟩
    have hc : Percent.encodeChar Percent.inPath c = [c] := by
      rw [Percent.encodeChar, hpath, if_neg]
      simpa using hascii
    rw [Percent.encode_cons, hc, ih htext, List.singleton_append]

theorem isName_of_isPlain {text : List Char} (h : ∀ c ∈ text, IsPlain c)
    (hdots : text ≠ ['.'] ∧ text ≠ ['.', '.']) : IsName text := by
  have hescaped : ¬Percent.Escaped text := by
    apply Percent.not_escaped_of_not_mem
    intro hmem
    exact absurd (h _ hmem) (by decide)
  rw [← encode_of_isPlain h, isName_encode_iff hescaped]
  exact hdots

end Segments

end LayerCull.Url
