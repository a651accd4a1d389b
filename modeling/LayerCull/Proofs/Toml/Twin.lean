import LayerCull.Proofs.Toml.Statements

/-!
This module contains what becomes of documents that differ in one text only (`Fields.Twin`). No line
looks at a text that is there already, so every line is taken by both or by neither, and they go on
differing in that text only: `Draft.Twin.foldlM`.
-/

namespace LayerCull.Toml

theorem rel_bind {α β γ δ : Type} {r : α → β → Prop} {q : γ → δ → Prop} {found : Option α}
    {found' : Option β} {next : α → Option γ} {next' : β → Option δ} (h : Option.Rel r found found')
    (hnext : ∀ x x', r x x' → Option.Rel q (next x) (next' x')) :
    Option.Rel q (found >>= next) (found' >>= next') := by
  cases h with
  | some hx => exact hnext _ _ hx
  | none => exact .none

theorem rel_refl_bind {α γ δ : Type} {q : γ → δ → Prop} (found : Option α)
    {next : α → Option γ} {next' : α → Option δ} (hnext : ∀ x, Option.Rel q (next x) (next' x)) :
    Option.Rel q (found >>= next) (found >>= next') := by
  cases found with
  | some x => exact hnext x
  | none => exact .none

theorem exists_of_rel_some {α β : Type} {r : α → β → Prop} {x : α} {found : Option β}
    (h : Option.Rel r (some x) found) : ∃ x', found = some x' ∧ r x x' := by
  cases h with
  | some hx => exact ⟨_, rfl, hx⟩

namespace Fields

section Set

variable {fields : Fields} {key other : String} {value value' : Value}

theorem lookup_set :
    (set fields key value).lookup other =
      if other = key then (fields.lookup other).map fun _ => value else fields.lookup other := by
  induction fields with
  | nil => simp [set]
  | cons field fields ih =>
    obtain ⟨name, old⟩ := field
    have hcons : set ((name, old) :: fields) key value =
        (name, if name = key then value else old) :: set fields key value := by
      by_cases hkey : name = key <;> simp [set, hkey]
    rw [hcons, List.lookup_cons, List.lookup_cons, ih]
    by_cases hother : other = name
    . subst hother
      by_cases hkey : other = key <;> simp [hkey]
    . simp only [beq_eq_false_iff_ne.2 hother]

theorem lookup_set_self (h : fields.lookup key = some value) :
    (set fields key value').lookup key = some value' := by
  rw [lookup_set, if_pos rfl, h, Option.map_some]

theorem lookup_set_of_ne (hne : other ≠ key) :
    (set fields key value).lookup other = fields.lookup other := by
  rw [lookup_set, if_neg hne]

theorem set_of_lookup_eq_none (h : fields.lookup key = none) : set fields key value = fields := by
  rw [List.lookup_eq_none_iff] at h
  rw [set, List.map_congr_left (g := id), List.map_id]
  rintro ⟨name, old⟩ hmem
  have hne : key ≠ name := bne_iff_ne.1 (h _ hmem)
  simp [hne.symm]

theorem set_set : set (set fields key value) key value' = set fields key value' := by
  rw [set, set, set, List.map_map]
  apply List.map_congr_left
  rintro ⟨name, old⟩ _
  by_cases hkey : name = key <;> simp [hkey]

theorem set_comm (hne : other ≠ key) :
    set (set fields key value) other value' = set (set fields other value') key value := by
  rw [set, set, set, set, List.map_map, List.map_map]
  apply List.map_congr_left
  rintro ⟨name, old⟩ _
  by_cases hkey : name = key
  . simp [hkey, hne.symm]
  . by_cases hother : name = other <;> simp [hkey, hother, hne]

theorem all_set {p : String × Value → Bool} (h : ∀ value, p (key, value)) :
    (set fields key value).all p = fields.all p := by
  rw [set, List.all_map]
  congr 1
  funext ⟨name, old⟩
  by_cases hname : name = key
  . simp [hname, h]
  . simp [hname]

theorem set_append_of_ne (hne : other ≠ key) :
    set (fields ++ [(other, value')]) key value = set fields key value ++ [(other, value')] := by
  simp [set, hne]

theorem set_append_self (h : fields.lookup key = none) :
    set (fields ++ [(key, value)]) key value' = fields ++ [(key, value')] := by
  have hfields : set fields key value' = fields := set_of_lookup_eq_none h
  rw [set] at hfields ⊢
  rw [List.map_append, hfields]
  simp

theorem lookup_append_self (h : fields.lookup key = none) :
    (fields ++ [(key, value)]).lookup key = some value := by
  simp [List.lookup_append, h]

theorem lookup_append_of_some (more : Fields) (h : fields.lookup key = some value) :
    (fields ++ more).lookup key = some value := by
  rw [List.lookup_append, h, Option.some_or]

end Set

end Fields

/-- Two values with the texts `s` and `t` at the end of a path through tables, otherwise alike. -/
inductive Value.Twin (s t : String) : List String → Value → Value → Prop where
  | text : Twin s t [] (.string s) (.string t)
  | table {key path origin fields value value'} (hlookup : fields.lookup key = some value)
      (hvalue : Twin s t path value value') :
      Twin s t (key :: path) (.table origin fields) (.table origin (Fields.set fields key value'))

/-- The fields of two such tables. -/
def Fields.Twin (s t : String) (key : String) (path : List String) (fields fields' : Fields) : Prop :=
  ∃ value value', fields.lookup key = some value ∧ Value.Twin s t path value value' ∧
    fields' = set fields key value'

namespace Fields

variable {s t key other : String} {path : List String} {fields fields' : Fields} {value value' : Value}

namespace Twin

theorem lookup_of_ne (h : Twin s t key path fields fields') (hne : other ≠ key) :
    fields'.lookup other = fields.lookup other := by
  obtain ⟨_, _, _, _, rfl⟩ := h
  exact lookup_set_of_ne hne

theorem ne_of_lookup_eq_none (h : Twin s t key path fields fields')
    (hnone : fields.lookup other = none) : other ≠ key := by
  obtain ⟨value, _, hlookup, _, rfl⟩ := h
  rintro rfl
  rw [hlookup] at hnone
  contradiction

theorem isNone_lookup (h : Twin s t key path fields fields') (other : String) :
    (fields'.lookup other).isNone = (fields.lookup other).isNone := by
  by_cases hother : other = key
  . obtain ⟨_, _, hlookup, _, rfl⟩ := h
    rw [hother, hlookup, lookup_set_self hlookup, Option.isNone_some, Option.isNone_some]
  . rw [h.lookup_of_ne hother]

theorem append (h : Twin s t key path fields fields') (hnone : fields.lookup other = none)
    (value : Value) : Twin s t key path (fields ++ [(other, value)]) (fields' ++ [(other, value)]) := by
  have hne := h.ne_of_lookup_eq_none hnone
  obtain ⟨inner, inner', hlookup, hinner, rfl⟩ := h
  exact ⟨inner, inner', lookup_append_of_some _ hlookup, hinner, (set_append_of_ne hne).symm⟩

theorem set_of_ne (h : Twin s t key path fields fields') (hne : other ≠ key) (value : Value) :
    Twin s t key path (set fields other value) (set fields' other value) := by
  obtain ⟨inner, inner', hlookup, hinner, rfl⟩ := h
  refine ⟨inner, inner', ?_, hinner, set_comm hne⟩
  rw [lookup_set_of_ne hne.symm, hlookup]

theorem set_self (h : Twin s t key path fields fields') (hvalue : Value.Twin s t path value value') :
    Twin s t key path (set fields key value) (set fields' key value') := by
  obtain ⟨inner, inner', hlookup, hinner, rfl⟩ := h
  refine ⟨value, value', lookup_set_self hlookup, hvalue, ?_⟩
  rw [set_set, set_set]

end Twin

/-- The change is made in both of two such tables, or in neither. -/
def Spares (s t : String) (change : Change) : Prop :=
  ∀ key path origin fields fields', Twin s t key path fields fields' →
    Option.Rel (Twin s t key path) (change origin fields) (change origin fields')

theorem spares_assign (plain : Bool) (other : String) (value : Value) :
    Spares s t (assign plain other value) := by
  intro key path origin fields fields' h
  unfold assign
  rw [h.isNone_lookup]
  split
  . next hcond =>
    apply Option.Rel.some
    apply h.append
    simp only [Bool.and_eq_true, Option.isNone_iff_eq_none] at hcond
    exact hcond.2
  . exact .none

theorem assignPath_singleton (key : String) (value : Value) (origin : Origin) (fields : Fields) :
    assignPath [key] value origin fields =
      if fields.lookup key = none then some (fields ++ [(key, value)]) else none := by
  cases hkey : fields.lookup key <;> simp [assignPath, within, assign, hkey]

theorem spares_openTable (other : String) : Spares s t (openTable other) := by
  intro key path origin fields fields' h
  unfold openTable
  by_cases hother : other = key
  . obtain ⟨_, _, hlookup, hinner, heq⟩ := id h
    rw [hother, hlookup, heq, lookup_set_self hlookup, ← heq]
    cases hinner with
    | text => exact .none
    | table hvalue hpath =>
      cases ‹Origin› with
      | implied => exact .some (h.set_self (.table hvalue hpath))
      | header => exact .none
      | dotted => exact .none
      | braces => exact .none
  . rw [h.lookup_of_ne hother]
    split
    . next hnone => exact .some (h.append hnone _)
    . exact .some (h.set_of_ne hother _)
    . exact .none

theorem spares_openItem (other : String) : Spares s t (openItem other) := by
  intro key path origin fields fields' h
  unfold openItem
  by_cases hother : other = key
  . obtain ⟨_, _, hlookup, hinner, rfl⟩ := h
    rw [hother, hlookup, lookup_set_self hlookup]
    cases hinner with
    | text => exact .none
    | table => exact .none
  . rw [h.lookup_of_ne hother]
    split
    . next hnone => exact .some (h.append hnone _)
    . exact .some (h.set_of_ne hother _)
    . exact .none

theorem spares_within (way : Origin) {change : Change} (hchange : Spares s t change)
    (steps : List String) : Spares s t (within way change steps) := by
  induction steps with
  | nil => exact hchange
  | cons other steps ih =>
    intro key path origin fields fields' h
    unfold within
    by_cases hother : other = key
    . obtain ⟨_, _, hlookup, hinner, heq⟩ := id h
      rw [hother, hlookup, heq, lookup_set_self hlookup, ← heq]
      cases hinner with
      | text => exact .none
      | table hvalue hpath =>
        dsimp only
        split
        . exact .none
        . apply rel_bind (ih _ _ _ _ _ ⟨_, _, hvalue, hpath, rfl⟩)
          rintro inner inner' ⟨_, _, hvalue, hpath, rfl⟩
          exact .some (h.set_self (.table hvalue hpath))
    . rw [h.lookup_of_ne hother]
      split
      . next hnone =>
        exact rel_refl_bind _ fun table => .some (h.append hnone _)
      . split
        . exact .none
        . exact rel_refl_bind _ fun table => .some (h.set_of_ne hother _)
      . exact rel_refl_bind _ fun last => rel_refl_bind _ fun last' => .some (h.set_of_ne hother _)
      . exact .none

theorem spares_assignPath (steps : List String) (value : Value) :
    Spares s t (assignPath steps value) := by
  intro key path origin fields fields' h
  unfold assignPath
  cases steps.getLast? with
  | none => exact .none
  | some last => exact spares_within .dotted (spares_assign _ last value) _ _ _ _ _ _ h

theorem rel_openPath {change : String → Change} (hchange : ∀ name, Spares s t (change name))
    (steps : List String) (h : Twin s t key path fields fields') :
    Option.Rel (Twin s t key path) (openPath change steps fields) (openPath change steps fields') := by
  unfold openPath
  cases steps.getLast? with
  | none => exact .none
  | some last => exact spares_within .implied (hchange last) _ _ _ _ _ _ h

end Fields

namespace Draft

variable {s t key : String} {path : List String} {draft draft' : Draft}

/-- Two drafts of such tables, under the same header. -/
def Twin (s t : String) (key : String) (path : List String) (draft draft' : Draft) : Prop :=
  Fields.Twin s t key path draft.root draft'.root ∧ draft'.header = draft.header

theorem Twin.add (h : Twin s t key path draft draft') (statement : Statement) :
    Option.Rel (Twin s t key path) (draft.add statement) (draft'.add statement) := by
  cases statement with
  | assignment steps value =>
    rw [Draft.add, Draft.add, h.2]
    apply rel_bind (Fields.spares_within .implied (Fields.spares_assignPath steps value) _ _ _ _ _ _ h.1)
    intro root root' hroot
    exact .some ⟨hroot, rfl⟩
  | header steps =>
    apply rel_bind (Fields.rel_openPath Fields.spares_openTable steps h.1)
    intro root root' hroot
    exact .some ⟨hroot, rfl⟩
  | itemHeader steps =>
    apply rel_bind (Fields.rel_openPath Fields.spares_openItem steps h.1)
    intro root root' hroot
    exact .some ⟨hroot, rfl⟩

theorem Twin.foldlM (h : Twin s t key path draft draft') (statements : List Statement) :
    Option.Rel (Twin s t key path) (statements.foldlM Draft.add draft)
      (statements.foldlM Draft.add draft') := by
  induction statements generalizing draft draft' with
  | nil => exact .some h
  | cons statement statements ih =>
    rw [List.foldlM_cons, List.foldlM_cons]
    exact rel_bind (h.add statement) fun _ _ hnext => ih hnext

/-- The next line stands under the header of a table with this name. -/
def IsUnder (name : String) (draft : Draft) : Prop :=
  draft.header = [name] ∧ ∃ origin fields, draft.root.lookup name = some (.table origin fields)

variable {name : String}

theorem isUnder_of_header (h : draft.add (.header [name]) = some draft') : IsUnder name draft' := by
  simp only [Draft.add, Fields.openPath, List.getLast?_singleton, List.dropLast_singleton,
    Fields.within, Option.bind_eq_bind, Option.bind_eq_some_iff] at h
  rcases h with ⟨root, hopen, heq⟩
  obtain rfl := Option.some.inj heq
  refine ⟨rfl, ?_⟩
  unfold Fields.openTable at hopen
  split at hopen
  . next hnone =>
    obtain rfl := Option.some.inj hopen
    exact ⟨.header, [], Fields.lookup_append_self hnone⟩
  . next hsome =>
    obtain rfl := Option.some.inj hopen
    exact ⟨.header, _, Fields.lookup_set_self hsome⟩
  . contradiction

theorem IsUnder.add (h : IsUnder name draft) {key : List String} {value : Value}
    (hadd : draft.add (.assignment key value) = some draft') : IsUnder name draft' := by
  rcases h with ⟨hheader, origin, fields, hlookup⟩
  simp only [Draft.add, hheader, Fields.within, hlookup, Option.bind_eq_bind,
    Option.bind_eq_some_iff] at hadd
  rcases hadd with ⟨root, hwithin, heq⟩
  obtain rfl := Option.some.inj heq
  refine ⟨rfl, ?_⟩
  split at hwithin
  . contradiction
  . rcases Option.bind_eq_some_iff.1 hwithin with ⟨fields', _, hset⟩
    obtain rfl := Option.some.inj hset
    exact ⟨origin, fields', Fields.lookup_set_self hlookup⟩

theorem IsUnder.foldlM (h : IsUnder name draft) {lines : List Statement}
    (hlines : ∀ line ∈ lines, ∃ key value, line = .assignment key value)
    (hadd : lines.foldlM Draft.add draft = some draft') : IsUnder name draft' := by
  induction lines generalizing draft with
  | nil =>
    obtain rfl := Option.some.inj hadd
    exact h
  | cons line lines ih =>
    rw [List.forall_mem_cons] at hlines
    rw [List.foldlM_cons, Option.bind_eq_bind, Option.bind_eq_some_iff] at hadd
    rcases hadd with ⟨next, hline, hadd⟩
    obtain ⟨key, value, rfl⟩ := hlines.1
    exact ih (h.add hline) hlines.2 hadd

/-- The lines after the last header assign, and that header opens the table with this name. -/
def EndsUnder (name : String) (statements : List Statement) : Prop :=
  ∃ front lines, statements = front ++ .header [name] :: lines ∧
    ∀ line ∈ lines, ∃ key value, line = .assignment key value

theorem isUnder_of_endsUnder {statements : List Statement} (h : EndsUnder name statements)
    (hadd : statements.foldlM Draft.add draft = some draft') : IsUnder name draft' := by
  obtain ⟨front, lines, rfl, hlines⟩ := h
  rw [List.foldlM_append, Option.bind_eq_bind, Option.bind_eq_some_iff] at hadd
  rcases hadd with ⟨draft, _, hadd⟩
  rw [List.foldlM_cons, Option.bind_eq_bind, Option.bind_eq_some_iff] at hadd
  rcases hadd with ⟨next, hheader, hadd⟩
  exact (isUnder_of_header hheader).foldlM hlines hadd

theorem IsUnder.twin (h : IsUnder name draft) (key s t : String) :
    Option.Rel (Twin s t name [key]) (draft.add (.assignment [key] (.string s)))
      (draft.add (.assignment [key] (.string t))) := by
  rcases h with ⟨hheader, origin, fields, hlookup⟩
  simp only [Draft.add, hheader, Fields.within, hlookup]
  split
  . exact .none
  . rw [Fields.assignPath_singleton, Fields.assignPath_singleton]
    split
    . next hkey =>
      apply Option.Rel.some
      refine ⟨⟨_, _, Fields.lookup_set_self hlookup,
        .table (Fields.lookup_append_self hkey) .text, ?_⟩, rfl⟩
      rw [Fields.set_set, Fields.set_append_self hkey]
    . exact .none

end Draft

end LayerCull.Toml
