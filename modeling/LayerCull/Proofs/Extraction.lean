import LayerCull.Proofs.Identifier
import Mathlib.Data.List.Infix

/-!
This module contains what is found in a server's text, whatever the text: `found_iff_window` tells
the place of the identifier that is found, and `found_of_embedded` that an identifier which was
written into a text is found again. For the second, no identifier may begin before the one that was
written and end in it.
-/

namespace LayerCull

namespace Uuid

/-- The 36 characters from a place on, or as many as there are. -/
def window (text : List Char) (start : Nat) : List Char :=
  (text.drop start).take 36

theorem Shaped.window_append {cs : List Char} (h : Shaped cs) (before after : List Char) :
    window (before ++ cs ++ after) before.length = cs := by
  rw [window, List.append_assoc, List.drop_left, h.take_append]

theorem take_append_window (text : List Char) (start : Nat) :
    text.take start ++ window text start ++ (text.drop start).drop 36 = text := by
  rw [window, List.append_assoc, List.take_append_drop, List.take_append_drop]

theorem isInfix_window (text : List Char) (start : Nat) : window text start <:+: text :=
  ⟨_, _, take_append_window text start⟩

/-- The place is the first one where a UUID begins. -/
structure FirstPlace (text : List Char) (start : Nat) : Prop where
  here : Grouped (window text start)
  not_earlier : ∀ earlier < start, ¬Grouped (window text earlier)

theorem Leftmost.firstPlace {cs text : List Char} (h : Leftmost cs text) :
    ∃ start, FirstPlace text start ∧ cs = window text start := by
  rcases h with ⟨before, after, rfl, hshaped, hleast⟩
  have hwindow := hshaped.window_append before after
  refine ⟨before.length, ⟨?_, ?_⟩, hwindow.symm⟩
  . rw [hwindow]
    exact shaped_iff_grouped.1 hshaped
  . intro earlier hearlier hgrouped
    have hle := hleast _ _ _ (take_append_window _ earlier).symm (shaped_iff_grouped.2 hgrouped)
    rw [List.length_take] at hle
    omega

theorem FirstPlace.leftmost {text : List Char} {start : Nat} (h : FirstPlace text start) :
    Leftmost (window text start) text := by
  refine ⟨_, _, (take_append_window text start).symm, shaped_iff_grouped.2 h.here, ?_⟩
  intro earlier other later htext hother
  rw [List.length_take]
  suffices ¬earlier.length < start by omega
  intro hlt
  apply h.not_earlier _ hlt
  rw [htext, hother.window_append]
  exact shaped_iff_grouped.1 hother

end Uuid

namespace LayerId

theorem first?_eq_some_iff_firstPlace {id : LayerId} {text : String} :
    first? text = some id ↔
      ∃ start, Uuid.FirstPlace text.toList start ∧
        id.text.toList = Uuid.window text.toList start := by
  rw [first?_eq_some_iff]
  constructor
  . exact Uuid.Leftmost.firstPlace
  . rintro ⟨start, hplace, htext⟩
    rw [FirstIn, htext]
    exact hplace.leftmost

theorem first?_eq_none_iff_grouped {text : String} :
    first? text = none ↔ ∀ cs, cs <:+: text.toList → ¬Uuid.Grouped cs := by
  rw [first?_eq_none_iff]
  constructor
  . intro h cs hcs hgrouped
    have hshaped := Uuid.shaped_iff_grouped.2 hgrouped
    apply h ⟨String.ofList cs, by rwa [String.toList_ofList]⟩
    rwa [String.toList_ofList]
  . intro h id hid
    exact h _ hid (Uuid.shaped_iff_grouped.1 id.shaped)

theorem first?_eq_none_iff_window {text : String} :
    first? text = none ↔ ∀ start, ¬Uuid.Grouped (Uuid.window text.toList start) := by
  rw [first?_eq_none_iff_grouped]
  constructor
  . intro h start
    exact h _ (Uuid.isInfix_window text.toList start)
  . rintro h cs ⟨before, after, htext⟩ hgrouped
    apply h before.length
    rw [← htext, (Uuid.shaped_iff_grouped.2 hgrouped).window_append]
    exact hgrouped

end LayerId

theorem Marker.subject?_eq_ite (m : Marker) (text : String) :
    m.subject? text = if m.phrase.toList <:+: text.toList then LayerId.first? text else none := by
  simp only [subject?, isIn_iff]

/-- Nothing is found exactly if no 36 characters in a row are a UUID, else the first that are. The
marker may stand anywhere. -/
theorem found_iff_window (text : String) :
    (LayerId.first? text = none ↔ ∀ start, ¬Uuid.Grouped (Uuid.window text.toList start)) ∧
      (∀ id, LayerId.first? text = some id ↔
        ∃ start, Uuid.FirstPlace text.toList start ∧
          id.text.toList = Uuid.window text.toList start) ∧
      badLayer? text =
        (if Marker.metadataFailure.phrase.toList <:+: text.toList then LayerId.first? text
          else none) ∧
      holdingGroup? text =
        if Marker.groupReference.phrase.toList <:+: text.toList then LayerId.first? text else none :=
  ⟨LayerId.first?_eq_none_iff_window, fun _ => LayerId.first?_eq_some_iff_firstPlace,
    Marker.metadataFailure.subject?_eq_ite text, Marker.groupReference.subject?_eq_ite text⟩

namespace Uuid

theorem rejects_of_dash {c : Char} (h : Slot.dash.accepts c = true) :
    Slot.digit.accepts c = false := by
  have hc : c = '-' := by simpa [Slot.accepts] using h
  rw [hc]
  decide

theorem slot_eq_of_accepts {s t : Slot} {c : Char} (hs : s.accepts c) (ht : t.accepts c) :
    s = t := by
  cases s with
  | digit =>
    cases t with
    | digit => rfl
    | dash => exact absurd hs (by simp [rejects_of_dash ht])
  | dash =>
    cases t with
    | digit => exact absurd ht (by simp [rejects_of_dash hs])
    | dash => rfl

theorem accepts_of_fits {ss : List Slot} {cs : List Char} (h : fits ss cs) {place : Nat} {s : Slot}
    {c : Char} (hs : ss[place]? = some s) (hc : cs[place]? = some c) : s.accepts c := by
  induction ss generalizing cs place with
  | nil => simp at hs
  | cons t ss ih =>
    cases cs with
    | nil => simp at hc
    | cons d cs =>
      simp only [fits, Bool.and_eq_true] at h
      cases place with
      | zero =>
        simp only [List.getElem?_cons_zero, Option.some.injEq] at hs hc
        rw [← hs, ← hc]
        exact h.1
      | succ place => exact ih h.2 hs hc

/-- Two UUIDs that have a character in common have it at places of the same kind. -/
theorem Shaped.shape_getElem?_eq {cs ds : List Char} (hcs : Shaped cs) (hds : Shaped ds)
    {place place' : Nat} {c : Char} (hc : cs[place]? = some c) (hd : ds[place']? = some c) :
    shape[place]? = shape[place']? := by
  have hlt : place < shape.length := by
    rw [← length_eq_of_fits hcs]
    exact (List.getElem?_eq_some_iff.1 hc).1
  have hlt' : place' < shape.length := by
    rw [← length_eq_of_fits hds]
    exact (List.getElem?_eq_some_iff.1 hd).1
  rw [List.getElem?_eq_getElem hlt, List.getElem?_eq_getElem hlt', Option.some.injEq]
  apply slot_eq_of_accepts
  . exact accepts_of_fits hcs (List.getElem?_eq_getElem hlt) hc
  . exact accepts_of_fits hds (List.getElem?_eq_getElem hlt') hd

/-- A shape that is laid on itself with its beginning right behind a dash does not match. -/
theorem exists_shape_ne_of_dash : ∀ dash < 36, shape[dash]? = some .dash →
    ∃ place < 36, dash + 1 + place < 36 ∧ shape[dash + 1 + place]? ≠ shape[place]? := by
  decide

theorem not_shaped_of_overlap {front cs : List Char} {last : Char} (hcs : Shaped cs)
    (hlast : ¬IsDigit last) (hlength : front.length < 36) (after : List Char) :
    ¬Shaped ((front ++ last :: (cs ++ after)).take 36) := by
  intro hshaped
  -- The character before the UUID is no digit, so the other one has a dash there.
  have hdash : shape[front.length]? = some .dash := by
    have hget : ((front ++ last :: (cs ++ after)).take 36)[front.length]? = some last := by
      rw [List.getElem?_take_of_lt hlength, List.getElem?_append_right (Nat.le_refl _)]
      simp
    cases hslot : shape[front.length]? with
    | none =>
      rw [List.getElem?_eq_none_iff, length_shape] at hslot
      omega
    | some slot =>
      have haccepts := accepts_of_fits hshaped hslot hget
      cases slot with
      | digit => exact absurd (accepts_digit_iff.1 haccepts) hlast
      | dash => rfl
  rcases exists_shape_ne_of_dash _ hlength hdash with ⟨place, hplace, hwithin, hne⟩
  rw [← hcs.length_eq] at hplace
  apply hne
  apply hshaped.shape_getElem?_eq hcs _ (List.getElem?_eq_getElem hplace)
  rw [List.getElem?_take_of_lt hwithin, List.getElem?_append_right (by omega)]
  have hindex : front.length + 1 + place - front.length = place + 1 := by omega
  rw [hindex, List.getElem?_cons_succ, List.getElem?_append_left hplace,
    List.getElem?_eq_getElem hplace]

/-- A window that begins in the text before a UUID ends there too, or else it overlaps the UUID. -/
theorem firstPlace_append {before cs : List Char} (hbefore : ∀ ds, ds <:+: before → ¬Grouped ds)
    (hlast : ∀ c ∈ before.getLast?, ¬IsDigit c) (hcs : Shaped cs) (after : List Char) :
    FirstPlace (before ++ cs ++ after) before.length := by
  constructor
  case here =>
    rw [hcs.window_append]
    exact shaped_iff_grouped.1 hcs
  case not_earlier =>
    intro earlier hearlier
    rw [window, List.append_assoc, List.drop_append_of_le_length (Nat.le_of_lt hearlier)]
    by_cases hwithin : 36 ≤ (before.drop earlier).length
    . rw [List.take_append_of_le_length hwithin]
      exact hbefore _ (isInfix_window before earlier)
    . rw [← shaped_iff_grouped]
      rcases List.eq_nil_or_concat (before.drop earlier) with hnil | ⟨front, last, hfront⟩
      . rw [List.drop_eq_nil_iff] at hnil
        omega
      . rw [List.concat_eq_append] at hfront
        rw [hfront, List.append_assoc, List.singleton_append]
        rw [hfront, List.length_append, List.length_singleton] at hwithin
        apply not_shaped_of_overlap hcs _ (by omega)
        apply hlast
        rw [← List.take_append_drop earlier before, hfront]
        simp

end Uuid

theorem LayerId.exists_text_eq {text : String} (h : Uuid.Grouped text.toList) :
    ∃ id : LayerId, id.text = text :=
  ⟨⟨text, Uuid.shaped_iff_grouped.2 h⟩, rfl⟩

/-- A UUID that is written into a text, behind one that holds none and does not end with a digit, is
the one that is found. No window that begins before it is a UUID. -/
theorem found_of_embedded {before uuid : String}
    (hbefore : ∀ cs, cs <:+: before.toList → ¬Uuid.Grouped cs)
    (hlast : ∀ c ∈ before.toList.getLast?, ¬Uuid.IsDigit c) (huuid : Uuid.Grouped uuid.toList)
    (after : String) :
    let text := before ++ uuid ++ after
    Uuid.FirstPlace text.toList before.toList.length ∧
      (LayerId.first? text).map LayerId.text = some uuid ∧
      (Marker.metadataFailure.phrase.toList <:+: text.toList →
        (badLayer? text).map LayerId.text = some uuid) ∧
      (Marker.groupReference.phrase.toList <:+: text.toList →
        (holdingGroup? text).map LayerId.text = some uuid) := by
  rcases LayerId.exists_text_eq huuid with ⟨id, rfl⟩
  intro text
  have htext : text.toList = before.toList ++ id.text.toList ++ after.toList := by
    rw [String.toList_append, String.toList_append]
  have hplace : Uuid.FirstPlace text.toList before.toList.length := by
    rw [htext]
    exact Uuid.firstPlace_append hbefore hlast id.shaped after.toList
  have hfirst : LayerId.first? text = some id := by
    rw [LayerId.first?_eq_some_iff_firstPlace]
    refine ⟨_, hplace, ?_⟩
    rw [htext, id.shaped.window_append]
  refine ⟨hplace, ?_, ?_, ?_⟩
  . rw [hfirst, Option.map_some]
  . intro hmarked
    rw [badLayer?, Marker.subject?_eq_ite, if_pos hmarked, hfirst, Option.map_some]
  . intro hmarked
    rw [holdingGroup?, Marker.subject?_eq_ite, if_pos hmarked, hfirst, Option.map_some]

/-- An error text up to the layer, with half a UUID at its end. -/
def cutShort : String :=
  "Error occurred trying to write out metadata for layer: 3f2b8c1e-0d4a-4b6f-9e57-"

def wholeBehind : String :=
  "a1c2d3e4-f506-4b6f-9e57-00d1f6a87c35"

def goingOn : String :=
  "-4e02 Unable to delete layer referenced by layer group"

theorem found_of_embedded_cutShort :
    Uuid.FirstPlace (cutShort ++ wholeBehind ++ goingOn).toList cutShort.toList.length ∧
      (LayerId.first? (cutShort ++ wholeBehind ++ goingOn)).map LayerId.text = some wholeBehind ∧
      (badLayer? (cutShort ++ wholeBehind ++ goingOn)).map LayerId.text = some wholeBehind ∧
      (holdingGroup? (cutShort ++ wholeBehind ++ goingOn)).map LayerId.text = some wholeBehind := by
  have hbefore : ∀ cs, cs <:+: cutShort.toList → ¬Uuid.Grouped cs :=
    LayerId.first?_eq_none_iff_grouped.1 (by decide +kernel)
  have hlast : ∀ c ∈ cutShort.toList.getLast?, ¬Uuid.IsDigit c := by
    have hdash : cutShort.toList.getLast? = some '-' := by decide +kernel
    rw [hdash]
    rintro c ⟨⟩
    rw [← Uuid.accepts_digit_iff, Bool.not_eq_true]
    exact Uuid.rejects_of_dash rfl
  have huuid : Uuid.Grouped wholeBehind.toList := Uuid.shaped_iff_grouped.1 (by decide +kernel)
  rcases found_of_embedded hbefore hlast huuid goingOn with ⟨hplace, hfirst, hbad, hgroup⟩
  rw [String.toList_append, String.toList_append] at hbad hgroup
  exact ⟨hplace, hfirst, hbad (by decide +kernel), hgroup (by decide +kernel)⟩

end LayerCull
