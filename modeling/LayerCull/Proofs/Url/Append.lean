import LayerCull.Proofs.Url.Layout

/-!
This module contains what is read from a text that names a server and has segments appended to it.
Everything before the path stays, and the segments follow the ones that are there, unless blanks at
the end of the text are only dropped there.
-/

namespace LayerCull.Url

/-- The characters that no URL holds, wherever they stand in its text. -/
def isBreak (c : Char) : Bool :=
  c == '\t' || c == '\n' || c == '\r'

/-- At the end of the text nothing is dropped that would not be dropped in the middle. -/
def EndsOpen (text : List Char) : Prop :=
  ∀ c ∈ text.reverse.takeWhile clean.isEdge, isBreak c = true

instance (text : List Char) : Decidable (EndsOpen text) :=
  inferInstanceAs (Decidable (∀ _ ∈ _, _))

theorem isBreak_of_isEdge {c : Char} (h : clean.isEdge c = false) : isBreak c = false := by
  rw [Bool.eq_false_iff]
  intro hbreak
  simp only [isBreak, Bool.or_eq_true, beq_iff_eq] at hbreak
  rcases hbreak with (rfl | rfl) | rfl <;> contradiction

theorem clean_of_endsOpen {text : List Char} (h : EndsOpen text) :
    clean text = (text.dropWhile clean.isEdge).filter fun c => !isBreak c := by
  have hdropped : ((text.dropWhile clean.isEdge).reverse.takeWhile clean.isEdge).reverse.filter
      (fun c => !isBreak c) = [] := by
    rw [List.filter_eq_nil_iff]
    intro c hc
    have hbreak : isBreak c = true := by
      apply h
      rw [← List.takeWhile_append_dropWhile (p := clean.isEdge) (l := text), List.reverse_append,
        List.takeWhile_append]
      rw [List.mem_reverse] at hc
      split
      . exact List.mem_append_left _ ((List.takeWhile_prefix _).subset hc)
      . exact hc
    simp [hbreak]
  have hsplit : text.dropWhile clean.isEdge =
      ((text.dropWhile clean.isEdge).reverse.dropWhile clean.isEdge).reverse ++
        ((text.dropWhile clean.isEdge).reverse.takeWhile clean.isEdge).reverse := by
    rw [← List.reverse_append, List.takeWhile_append_dropWhile, List.reverse_reverse]
  rw [hsplit, List.filter_append, hdropped, List.append_nil]
  rfl

theorem endsOpen_of_isEdge {text : List Char} (h : ∀ c ∈ text, clean.isEdge c = false) :
    EndsOpen text := by
  intro c hc
  have hedge := List.all_eq_true.1 List.all_takeWhile c hc
  rw [h c (List.mem_reverse.1 ((List.takeWhile_prefix _).subset hc))] at hedge
  contradiction

theorem clean_eq_self {text : List Char} (h : ∀ c ∈ text, clean.isEdge c = false) :
    clean text = text := by
  have hstart : text.dropWhile clean.isEdge = text := by
    cases text with
    | nil => rfl
    | cons c text => rw [List.dropWhile_cons_of_neg (by simp [h c])]
  rw [clean_of_endsOpen (endsOpen_of_isEdge h), hstart, List.filter_eq_self]
  intro c hc
  rw [isBreak_of_isEdge (h c hc)]
  rfl

theorem clean_append {text tail : List Char} (htext : clean text ≠ []) (hopen : EndsOpen text)
    (htail : ∀ c ∈ tail, isBreak c = false) (hne : tail ≠ [])
    (hlast : ∀ c ∈ tail.getLast?, clean.isEdge c = false) :
    clean (text ++ tail) = clean text ++ tail := by
  have hstart : (text.dropWhile clean.isEdge).isEmpty = false := by
    rw [List.isEmpty_eq_false_iff]
    intro hempty
    rw [clean, hempty] at htext
    contradiction
  have hkept : tail.filter (fun c => !isBreak c) = tail := by
    rw [List.filter_eq_self]
    intro c hc
    rw [htail c hc]
    rfl
  have hend : (text.dropWhile clean.isEdge ++ tail).reverse.dropWhile clean.isEdge =
      (text.dropWhile clean.isEdge ++ tail).reverse := by
    rcases (List.eq_nil_or_concat tail).resolve_left hne with ⟨front, last, rfl⟩
    have hedge : clean.isEdge last = false := hlast last (by simp)
    rw [List.concat_eq_append, ← List.append_assoc, List.reverse_append, List.reverse_singleton,
      List.singleton_append, List.dropWhile_cons_of_neg (by simp [hedge])]
  rw [clean_of_endsOpen hopen]
  calc clean (text ++ tail)
    _ = (text.dropWhile clean.isEdge ++ tail).filter fun c => !isBreak c := by
      unfold clean
      rw [List.dropWhile_append, if_neg (by simp [hstart]), hend, List.reverse_reverse]
      rfl
    _ = _ := by rw [List.filter_append, hkept]

/-- What is appended to a text that names a server becomes its path and its query. -/
theorem Layout.parse_append (l : Layout) {text tail : List Char} {a : Authority}
    {query : Option (List Char)} (hclean : clean text = l.render)
    (ha : readAuthority .server (l.scheme.map Char.toLower) l.authority true = .ok a)
    (hopen : EndsOpen text) (htail : ∀ mark ∈ ['?', '#'], mark ∉ tail)
    (hquery : ∀ q ∈ query, '#' ∉ q)
    (hbreak : ∀ c ∈ '/' :: tail ++ renderAfter '?' query, isBreak c = false)
    (hlast : ∀ c ∈ ('/' :: tail ++ renderAfter '?' query).getLast?, clean.isEdge c = false) :
    parse (text ++ ('/' :: tail ++ renderAfter '?' query)) =
      .ok ((l.append tail htail).url a query) := by
  have hne : clean text ≠ [] := by
    rw [hclean, render]
    simp
  have happended : clean (text ++ ('/' :: tail ++ renderAfter '?' query)) =
      (l.append tail htail).render ++ renderAfter '?' query := by
    rw [clean_append hne hopen hbreak (by simp) hlast, hclean]
    simp [render, append]
  rw [(l.append tail htail).parse_eq happended hquery]
  exact congrArg (Except.map _) ha

/-- The character stays in a path that it is written in. -/
def StaysInPath (c : Char) : Prop :=
  c ≠ '?' ∧ c ≠ '#' ∧ isBreak c = false

instance (c : Char) : Decidable (StaysInPath c) :=
  inferInstanceAs (Decidable (_ ∧ _))

theorem Path.render_cons (name : List Char) (names : List (List Char)) :
    (Path.segments (name :: names)).render = '/' :: (name ++ (Path.segments names).render) := by
  simp [Path.render]

theorem eq_or_exists_of_mem_render {names : List (List Char)} {c : Char}
    (h : c ∈ (Path.segments names).render) : c = '/' ∨ ∃ name ∈ names, c ∈ name := by
  rw [Path.render, List.mem_flatMap] at h
  rcases h with ⟨name, hname, hc⟩
  rw [List.mem_cons] at hc
  exact hc.imp_right fun hc => ⟨name, hname, hc⟩

theorem split_render (name : List Char) (names : List (List Char)) :
    Segments.split Kind.server.separates (name ++ (Path.segments names).render) =
      (name :: names).flatMap (Segments.split Kind.server.separates) := by
  induction names generalizing name with
  | nil => simp [Path.render]
  | cons next names ih =>
    rw [Path.render_cons, Segments.split_append_cons rfl, ih, ← List.flatMap_cons]

/-- Names that are written behind a text fall into segments, which follow the ones of the text. -/
theorem Layout.parse_append_render (l : Layout) {text name : List Char}
    {names : List (List Char)} {a : Authority} {query : Option (List Char)}
    (hclean : clean text = l.render)
    (ha : readAuthority .server (l.scheme.map Char.toLower) l.authority true = .ok a)
    (hopen : EndsOpen text) (hnames : ∀ n ∈ name :: names, ∀ c ∈ n, StaysInPath c)
    (hlast : ∀ c ∈ (Path.segments (name :: names)).render.getLast?, clean.isEdge c = false)
    (hquery : ∀ q ∈ query, ∀ c ∈ q, c ≠ '#' ∧ clean.isEdge c = false) :
    parse (text ++ ((Path.segments (name :: names)).render ++ renderAfter '?' query)) = .ok
      { l.url a query with
        path := .segments (Segments.follow [] (written l.path ++
          ((name :: names).flatMap (Segments.split Kind.server.separates)).map
            (Percent.encode Percent.inPath))) } := by
  have hstays : ∀ c ∈ (Path.segments (name :: names)).render, StaysInPath c := by
    intro c hc
    rcases eq_or_exists_of_mem_render hc with rfl | ⟨n, hn, hc⟩
    . decide
    . exact hnames n hn c hc
  rw [Path.render_cons] at hstays hlast ⊢
  have htail : ∀ mark ∈ ['?', '#'], mark ∉ name ++ (Path.segments names).render := by
    intro mark hmark hmem
    have hmarked : ∀ m ∈ ['?', '#'], ¬StaysInPath m := by decide
    exact hmarked mark hmark (hstays mark (List.mem_cons_of_mem _ hmem))
  have hafter : ∀ c ∈ renderAfter '?' query, clean.isEdge c = false := by
    intro c hc
    cases query with
    | none => contradiction
    | some q =>
      rw [renderAfter, List.mem_cons] at hc
      rcases hc with rfl | hc
      . rfl
      . exact (hquery q rfl c hc).2
  have hbreak : ∀ c ∈ '/' :: (name ++ (Path.segments names).render) ++ renderAfter '?' query,
      isBreak c = false := by
    intro c hc
    rw [List.mem_append] at hc
    rcases hc with hc | hc
    . exact (hstays c hc).2.2
    . exact isBreak_of_isEdge (hafter c hc)
  have hend : ∀ c ∈ ('/' :: (name ++ (Path.segments names).render) ++
      renderAfter '?' query).getLast?, clean.isEdge c = false := by
    intro c hc
    rw [List.getLast?_append, Option.mem_def, Option.or_eq_some_iff] at hc
    rcases hc with hc | ⟨_, hc⟩
    . exact hafter c (List.mem_of_mem_getLast? hc)
    . exact hlast c hc
  have hpath : ((l.append _ htail).url a query).path =
      .segments (Segments.follow [] (written l.path ++
        ((name :: names).flatMap (Segments.split Kind.server.separates)).map
          (Percent.encode Percent.inPath))) := by
    rw [path_url_append, split_render]
  rw [l.parse_append hclean ha hopen htail (fun q hq hmem => (hquery q hq _ hmem).1 rfl) hbreak hend,
    ← hpath]
  rfl

/-- The text of a segment that is kept as it is. -/
structure IsSegment (name : List Char) : Prop where
  isPlain : ∀ c ∈ name, Segments.IsPlain c
  isName : Segments.IsName name

theorem isEdge_of_isPlain {c : Char} (h : Segments.IsPlain c) : clean.isEdge c = false := by
  rw [Bool.eq_false_iff]
  intro hedge
  have hall : ∀ n < 0x21, Percent.inPath (Char.ofNat n) = true := by decide
  have hpath := Text.forall_of_toNat_lt (P := fun d => Percent.inPath d = true) hall
    (Nat.lt_succ_of_le (of_decide_eq_true hedge))
  rw [h.2.1] at hpath
  contradiction

theorem staysInPath_of_isPlain {c : Char} (h : Segments.IsPlain c) : StaysInPath c := by
  refine ⟨?_, ?_, isBreak_of_isEdge (isEdge_of_isPlain h)⟩
  . rintro rfl
    revert h
    decide
  . rintro rfl
    revert h
    decide

theorem split_of_isPlain {name : List Char} (h : ∀ c ∈ name, Segments.IsPlain c) :
    Segments.split Kind.server.separates name = [name] := by
  apply Segments.split_eq_singleton
  intro c hc
  rcases h c hc with ⟨_, _, _, hslash, hbackslash⟩
  simp [Kind.separates, hslash, hbackslash]

theorem pieces_of_isPlain {names : List (List Char)}
    (h : ∀ name ∈ names, ∀ c ∈ name, Segments.IsPlain c) :
    (names.flatMap (Segments.split Kind.server.separates)).map (Percent.encode Percent.inPath) =
      names := by
  induction names with
  | nil => rfl
  | cons name names ih =>
    rw [List.forall_mem_cons] at h
    rw [List.flatMap_cons, List.map_append, split_of_isPlain h.1, ih h.2, List.map_singleton,
      Segments.encode_of_isPlain h.1]
    rfl

/-- Segments that are kept as they are follow the ones that the text has; dots at its end take away
the segment before them. -/
theorem Layout.parse_append_segments (l : Layout) {text name : List Char}
    {names : List (List Char)} {a : Authority} {query : Option (List Char)}
    (hclean : clean text = l.render)
    (ha : readAuthority .server (l.scheme.map Char.toLower) l.authority true = .ok a)
    (hopen : EndsOpen text) (hnames : ∀ n ∈ name :: names, IsSegment n)
    (hquery : ∀ q ∈ query, ∀ c ∈ q, c ≠ '#' ∧ clean.isEdge c = false) :
    parse (text ++ ((Path.segments (name :: names)).render ++ renderAfter '?' query)) = .ok
      { l.url a query with
        path := .segments ((written l.path).foldl Segments.step [] ++ name :: names) } := by
  have hplain : ∀ n ∈ name :: names, ∀ c ∈ n, Segments.IsPlain c :=
    fun n hn => (hnames n hn).isPlain
  have hstays : ∀ n ∈ name :: names, ∀ c ∈ n, StaysInPath c :=
    fun n hn c hc => staysInPath_of_isPlain (hplain n hn c hc)
  have hlast : ∀ c ∈ (Path.segments (name :: names)).render.getLast?, clean.isEdge c = false := by
    intro c hc
    rcases eq_or_exists_of_mem_render (List.mem_of_mem_getLast? hc) with rfl | ⟨n, hn, hc⟩
    . rfl
    . exact isEdge_of_isPlain (hplain n hn c hc)
  rw [l.parse_append_render hclean ha hopen hstays hlast hquery, pieces_of_isPlain hplain,
    Segments.follow_append (by simp),
    Segments.follow_of_isName fun n hn => (hnames n hn).isName]

end LayerCull.Url
