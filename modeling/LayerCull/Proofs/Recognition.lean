import LayerCull.Proofs.Extraction

/-!
This module contains the two ways in which an identifier is recognized: a text is read as one, or
one is searched in a text. `read_iff_found` states that both mean the same identifiers: a text can
be read exactly if the search finds the whole of it, and one that holds an identifier and more is
refused.
-/

namespace LayerCull

namespace LayerId

variable {text : String}

theorem ofText_text (id : LayerId) : ofText id.text = .ok id := by
  rw [ofText, ofText?_text]

/-- A text is read as the identifier that it is, or it is none and is refused as it stands. -/
theorem read_or_refused (text : String) :
    (∃ id : LayerId, id.text = text ∧ ofText text = .ok id) ∨
      (∀ id : LayerId, id.text ≠ text) ∧ ofText text = .error ⟨text⟩ := by
  by_cases hshaped : Uuid.Shaped text.toList
  . left
    exact ⟨⟨text, hshaped⟩, rfl, ofText_text ⟨text, hshaped⟩⟩
  . right
    constructor
    . rintro id rfl
      exact hshaped id.shaped
    . rw [ofText, ofText?, dif_neg hshaped]

theorem ofText_eq_ok_iff {id : LayerId} : ofText text = .ok id ↔ id.text = text := by
  constructor
  . intro h
    rcases read_or_refused text with ⟨other, hother, hread⟩ | ⟨_, hrefused⟩
    . rw [h] at hread
      rw [Except.ok.inj hread, hother]
    . rw [h] at hrefused
      contradiction
  . rintro rfl
    exact ofText_text id

theorem ofText_eq_error_iff {refusal : Malformed} :
    ofText text = .error refusal ↔ refusal = ⟨text⟩ ∧ ∀ id : LayerId, id.text ≠ text := by
  rcases read_or_refused text with ⟨id, hid, hread⟩ | ⟨hnone, hrefused⟩
  . rw [hread]
    constructor
    . intro h
      contradiction
    . rintro ⟨_, hnone⟩
      exact absurd hid (hnone id)
  . rw [hrefused, Except.error.injEq]
    constructor
    . rintro rfl
      exact ⟨rfl, hnone⟩
    . rintro ⟨rfl, _⟩
      rfl

theorem exists_ofText_eq_ok_iff : (∃ id, ofText text = .ok id) ↔ Uuid.Grouped text.toList := by
  simp only [ofText_eq_ok_iff]
  constructor
  . rintro ⟨id, rfl⟩
    exact Uuid.shaped_iff_grouped.1 id.shaped
  . exact exists_text_eq

theorem first?_text (id : LayerId) : first? id.text = some id :=
  first?_eq_some (Uuid.first?_of_shaped id.shaped)

theorem map_text_first?_eq_iff :
    (first? text).map LayerId.text = some text ↔ ∃ id : LayerId, id.text = text := by
  constructor
  . intro h
    rcases Option.map_eq_some_iff.1 h with ⟨id, _, hid⟩
    exact ⟨id, hid⟩
  . rintro ⟨id, rfl⟩
    rw [first?_text, Option.map_some]

/-- All identifiers are of one length, so none is a proper part of another. -/
theorem eq_of_isInfix {id : LayerId} {cs : List Char} (hcs : cs <:+: id.text.toList)
    (hgrouped : Uuid.Grouped cs) : cs = id.text.toList := by
  apply hcs.eq_of_length
  rw [(Uuid.shaped_iff_grouped.2 hgrouped).length_eq, id.shaped.length_eq]

end LayerId

open LayerId in
/-- A text is read as an identifier exactly if it is a UUID, and exactly if the search finds the
whole of it; else it is refused as it stands. Whatever a search finds can be read, and a text with
an identifier in it and anything before or behind is refused. -/
theorem read_iff_found (text : String) :
    ((∃ id, ofText text = .ok id) ↔ Uuid.Grouped text.toList) ∧
      (∀ id, ofText text = .ok id ↔ first? text = some id ∧ id.text = text) ∧
      (∀ refusal, ofText text = .error refusal ↔
        refusal = ⟨text⟩ ∧ (first? text).map LayerId.text ≠ some text) ∧
      (∀ id, id ∈ first? text ∨ id ∈ badLayer? text ∨ id ∈ holdingGroup? text →
        ofText id.text = .ok id) ∧
      ∀ cs, cs <:+: text.toList → cs ≠ text.toList → Uuid.Grouped cs →
        ofText text = .error ⟨text⟩ := by
  refine ⟨exists_ofText_eq_ok_iff, ?_, ?_, ?_, ?_⟩
  . intro id
    rw [ofText_eq_ok_iff]
    constructor
    . rintro rfl
      exact ⟨first?_text id, rfl⟩
    . exact And.right
  . intro refusal
    rw [ofText_eq_error_iff, Ne, map_text_first?_eq_iff, not_exists]
  . intro id _
    exact ofText_text id
  . intro cs hcs hne hgrouped
    rw [ofText_eq_error_iff]
    refine ⟨rfl, ?_⟩
    rintro id rfl
    exact hne (eq_of_isInfix hcs hgrouped)

/-- A line feed behind an identifier is enough. -/
example : LayerId.ofText "3f2b8c1e-0d4a-4b6f-9e57-00d1f6a87c35\n" =
    .error ⟨"3f2b8c1e-0d4a-4b6f-9e57-00d1f6a87c35\n"⟩ := by
  decide +kernel

end LayerCull
