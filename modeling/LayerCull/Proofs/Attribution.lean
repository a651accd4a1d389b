import LayerCull.Proofs.Identifier

/-!
This module contains the place of the identifier that a text with a marker names. No identifier reaches
into a marker, so the identifier is the first one before the marker or, where there is none, the first
one after it: `named_iff_attributes`.
-/

namespace LayerCull

namespace Uuid

theorem first?_append_cons {c : Char} (hc : Breaks c) (before after : List Char) :
    first? (before ++ c :: after) = (first? before).or (first? after) := by
  induction before with
  | nil =>
    have hhead : ¬Shaped ((c :: after).take 36) := by
      intro hshaped
      apply hc.not_mem_of_fits hshaped
      simp
    rw [List.nil_append, first?.eq_2, dif_neg hhead]
    rfl
  | cons d before ih =>
    by_cases hlength : 36 ≤ (d :: before).length
    . -- The window ends before the mark.
      have hwindow : (d :: (before ++ c :: after)).take 36 = (d :: before).take 36 := by
        rw [← List.cons_append, List.take_append_of_le_length hlength]
      rw [List.cons_append, first?, first?]
      simp only [hwindow]
      split
      . rfl
      . exact ih
    . have hlong : ¬Shaped ((d :: (before ++ c :: after)).take 36) := by
        intro hshaped
        apply hc.not_mem_of_fits hshaped
        rw [← List.cons_append, List.take_append, List.mem_append]
        right
        rw [List.take_cons (by omega)]
        simp
      have hshort : ¬Shaped ((d :: before).take 36) := by
        intro hshaped
        have := hshaped.length_eq
        rw [List.length_take] at this
        omega
      rw [List.cons_append, first?, first?, dif_neg hlong, dif_neg hshort]
      exact ih

end Uuid

namespace Text

/-- The text begins with the mark, and the needle stands in what follows it. -/
def heads (mark needle text : List Char) : Bool :=
  mark.isPrefixOf text && occursIn needle (text.drop mark.length)

/-- The needle stands somewhere after the mark. -/
def occursAfter (mark needle : List Char) : List Char → Bool
  | [] => heads mark needle []
  | c :: cs => heads mark needle (c :: cs) || occursAfter mark needle cs

theorem heads_iff {mark needle text : List Char} :
    heads mark needle text = true ↔ ∃ between after, text = mark ++ between ++ needle ++ after := by
  rw [heads, Bool.and_eq_true, List.isPrefixOf_iff_prefix, occursIn_iff]
  constructor
  . rintro ⟨⟨rest, rfl⟩, between, after, hrest⟩
    rw [List.drop_left] at hrest
    exact ⟨between, after, by simp [← hrest]⟩
  . rintro ⟨between, after, rfl⟩
    exact ⟨⟨between ++ needle ++ after, by simp⟩, between, after, by simp⟩

theorem occursAfter_iff {mark needle text : List Char} :
    occursAfter mark needle text = true ↔
      ∃ before between after, text = before ++ mark ++ between ++ needle ++ after := by
  induction text with
  | nil =>
    rw [occursAfter, heads_iff]
    constructor
    . rintro ⟨between, after, htext⟩
      exact ⟨[], between, after, htext⟩
    . rintro ⟨before, between, after, htext⟩
      simp only [List.nil_eq, List.append_eq_nil_iff] at htext
      exact ⟨between, after, by simp [htext]⟩
  | cons c cs ih =>
    rw [occursAfter, Bool.or_eq_true, heads_iff]
    constructor
    . rintro (⟨between, after, htext⟩ | hlater)
      . exact ⟨[], between, after, htext⟩
      . rcases ih.1 hlater with ⟨before, between, after, rfl⟩
        exact ⟨c :: before, between, after, rfl⟩
    . rintro ⟨before, between, after, htext⟩
      cases before with
      | nil => exact .inl ⟨between, after, htext⟩
      | cons d before => exact .inr (ih.2 ⟨before, between, after, (List.cons.inj htext).2⟩)

end Text

namespace Marker

/-- The phrase begins and ends with characters of no UUID, and holds no UUID. -/
theorem exists_phrase_eq (m : Marker) : ∃ first inner last,
    m.phrase.toList = first :: (inner ++ [last]) ∧ Uuid.Breaks first ∧ Uuid.Breaks last ∧
      Uuid.first? inner = none := by
  cases m with
  | metadataFailure =>
    refine ⟨'E', "rror occurred trying to write out metadata for layer".toList, ':', ?_⟩
    decide +kernel
  | groupReference =>
    refine ⟨'U', "nable to delete layer referenced by layer grou".toList, 'p', ?_⟩
    decide +kernel

theorem first?_append_phrase (m : Marker) (before after : List Char) :
    Uuid.first? (before ++ m.phrase.toList ++ after) =
      (Uuid.first? before).or (Uuid.first? after) := by
  rcases m.exists_phrase_eq with ⟨first, inner, last, hphrase, hfirst, hlast, hinner⟩
  calc Uuid.first? (before ++ m.phrase.toList ++ after)
    _ = Uuid.first? (before ++ first :: (inner ++ last :: after)) := by
      simp [hphrase]
    _ = (Uuid.first? before).or (Uuid.first? (inner ++ last :: after)) :=
      Uuid.first?_append_cons hfirst _ _
    _ = (Uuid.first? before).or ((Uuid.first? inner).or (Uuid.first? after)) := by
      rw [Uuid.first?_append_cons hlast]
    _ = (Uuid.first? before).or (Uuid.first? after) := by
      rw [hinner, Option.none_or]

theorem subject?_append (m : Marker) (before after : String) :
    m.subject? (before ++ m.phrase ++ after) =
      (LayerId.first? before).or (LayerId.first? after) := by
  have hmarked : m.isIn (before ++ m.phrase ++ after) = true := by
    rw [isIn_iff, String.toList_append, String.toList_append]
    exact ⟨before.toList, after.toList, rfl⟩
  rw [subject?, if_pos hmarked]
  unfold LayerId.first?
  rw [String.toList_append, String.toList_append, first?_append_phrase]
  cases Uuid.first? before.toList with
  | none => rfl
  | some window => rfl

theorem isIn_iff_exists_append {m : Marker} {text : String} :
    m.isIn text = true ↔ ∃ before after, text = before ++ m.phrase ++ after := by
  rw [isIn_iff]
  constructor
  . rintro ⟨before, after, htext⟩
    refine ⟨String.ofList before, String.ofList after, ?_⟩
    apply String.toList_injective
    simp [← htext]
  . rintro ⟨before, after, rfl⟩
    rw [String.toList_append, String.toList_append]
    exact ⟨before.toList, after.toList, rfl⟩

/-- The identifier stands in the text after the marker. -/
def Precedes (m : Marker) (text : String) (id : LayerId) : Prop :=
  ∃ before between after, text = before ++ m.phrase ++ between ++ id.text ++ after

theorem occursAfter_iff_precedes {m : Marker} {text : String} {id : LayerId} :
    Text.occursAfter m.phrase.toList id.text.toList text.toList = true ↔ m.Precedes text id := by
  rw [Text.occursAfter_iff]
  constructor
  . rintro ⟨before, between, after, htext⟩
    refine ⟨String.ofList before, String.ofList between, String.ofList after, ?_⟩
    apply String.toList_injective
    simp [htext]
  . rintro ⟨before, between, after, rfl⟩
    refine ⟨before.toList, between.toList, after.toList, ?_⟩
    simp

instance (m : Marker) (text : String) (id : LayerId) : Decidable (m.Precedes text id) :=
  decidable_of_iff _ occursAfter_iff_precedes

theorem precedes_of_firstIn {m : Marker} {before after : String} {id : LayerId}
    (h : id.FirstIn after) : m.Precedes (before ++ m.phrase ++ after) id := by
  rcases h with ⟨between, rest, hafter, _⟩
  refine ⟨before, String.ofList between, String.ofList rest, ?_⟩
  apply String.toList_injective
  simp [hafter]

/-- The text holds the marker, and the identifier is the first one before the marker or, where there
is none, the first one after it. -/
structure Attributes (m : Marker) (text : String) (id : LayerId) : Prop where
  marked : ∃ before after, text = before ++ m.phrase ++ after
  first : ∀ before after, text = before ++ m.phrase ++ after →
    (LayerId.first? before).or (LayerId.first? after) = some id
  precedes : ∀ before after, text = before ++ m.phrase ++ after → LayerId.AbsentFrom before →
    m.Precedes text id

theorem subject?_eq_some_iff_attributes {m : Marker} {text : String} {id : LayerId} :
    m.subject? text = some id ↔ m.Attributes text id := by
  constructor
  . intro h
    constructor
    case marked =>
      rw [← isIn_iff_exists_append, isIn_iff]
      exact (subject?_eq_some_iff.1 h).1
    case first =>
      rintro before after rfl
      rw [← subject?_append, h]
    case precedes =>
      rintro before after rfl hbefore
      rw [subject?_append, LayerId.first?_eq_none_iff.2 hbefore, Option.none_or,
        LayerId.first?_eq_some_iff] at h
      exact precedes_of_firstIn h
  . rintro ⟨⟨before, after, rfl⟩, hfirst, _⟩
    rw [subject?_append]
    exact hfirst before after rfl

end Marker

/-- The layer that is deleted, and the group, is the first identifier of the answer, be it before or
after the marker. -/
theorem named_iff_attributes (text : String) (id : LayerId) :
    (badLayer? text = some id ↔ Marker.metadataFailure.Attributes text id) ∧
      (holdingGroup? text = some id ↔ Marker.groupReference.Attributes text id) :=
  ⟨Marker.subject?_eq_some_iff_attributes, Marker.subject?_eq_some_iff_attributes⟩

/-- A document that lists a sound layer before it reports a bad one. -/
def listedEarlier : String :=
  "<Layer><Name>piazza:5b1e7c90-8d2f-4a63-b0c4-7e9f1a2b3c4d</Name></Layer><ServiceException>" ++
    "Error occurred trying to write out metadata for layer: " ++
    "piazza:3f2b8c1e-0d4a-4b6f-9e57-a1c2d3e4f506</ServiceException>"

/-- A refusal that repeats the request before it tells the group. -/
def repeatedEarlier : String :=
  "DELETE /geoserver/rest/layers/3f2b8c1e-0d4a-4b6f-9e57-a1c2d3e4f506: " ++
    "Unable to delete layer referenced by layer group 9c0d7a52-61be-4f38-8a24-0b1c2d3e4f5a"

theorem named_of_listedEarlier :
    (∃ id, badLayer? listedEarlier = some id ∧
        ¬Marker.metadataFailure.Precedes listedEarlier id) ∧
      ∃ id, holdingGroup? repeatedEarlier = some id ∧
        ¬Marker.groupReference.Precedes repeatedEarlier id := by
  constructor
  . refine ⟨⟨"5b1e7c90-8d2f-4a63-b0c4-7e9f1a2b3c4d", by decide +kernel⟩, ?_⟩
    decide +kernel
  . refine ⟨⟨"3f2b8c1e-0d4a-4b6f-9e57-a1c2d3e4f506", by decide +kernel⟩, ?_⟩
    decide +kernel

end LayerCull
