import LayerCull.Proofs.Url.Segments
import LayerCull.Url.Parse
import Mathlib.Data.List.TakeDrop

/-!
This module contains the layout of a URL that names a server: scheme, slashes, authority and path.
A text is read part by part, and more text behind the path changes nothing before it.
-/

namespace LayerCull.Url

theorem splitScheme?_append {scheme : List Char}
    (h : (scheme.head?.any Char.isAlpha && scheme.all splitScheme?.belongs) = true)
    (rest : List Char) :
    splitScheme? (scheme ++ ':' :: rest) = some (scheme.map Char.toLower, rest) := by
  have hcolon : ':' ∉ scheme := by
    intro hmem
    rw [Bool.and_eq_true, List.all_eq_true] at h
    exact absurd (h.2 _ hmem) (by decide)
  rw [splitScheme?, Text.cut_append hcolon]
  simp only [h, if_true]

theorem exists_of_splitScheme?_eq_some {text lower rest : List Char}
    (h : splitScheme? text = some (lower, rest)) : ∃ scheme, text = scheme ++ ':' :: rest ∧
      (scheme.head?.any Char.isAlpha && scheme.all splitScheme?.belongs) = true ∧
      lower = scheme.map Char.toLower := by
  unfold splitScheme? at h
  split at h
  . next scheme later hcut =>
    split at h
    . next hscheme =>
      cases h
      exact ⟨scheme, Text.eq_append_of_cut hcut, hscheme, rfl⟩
    . contradiction
  . contradiction

theorem parse_of_splitScheme? {text scheme rest before hierarchy : List Char}
    {query fragment : Option (List Char)} (hscheme : splitScheme? (clean text) = some (scheme, rest))
    (hfragment : Text.cut '#' rest = (before, fragment))
    (hquery : Text.cut '?' before = (hierarchy, query)) :
    parse text = (readHierarchy scheme hierarchy (query.isSome || fragment.isSome)).map fun url =>
      { url with
        query := query.map (Percent.encode
          (if kindOf scheme = .other then Percent.inQuery else Percent.inSpecialQuery))
        fragment := fragment.map (Percent.encode Percent.inFragment) } := by
  rw [parse, hscheme]
  simp only [hfragment, hquery]
  rfl

theorem exists_of_bind_eq_ok {ε α β : Type} {x : Except ε α} {f : α → Except ε β} {b : β}
    (h : x >>= f = .ok b) : ∃ a, x = .ok a ∧ f a = .ok b := by
  cases x with
  | error e => contradiction
  | ok a => exact ⟨a, rfl, h⟩

theorem scheme_of_readServer {kind : Kind} {scheme text : List Char} {followed : Bool} {url : Url}
    (h : readServer kind scheme text followed = .ok url) : url.scheme = scheme := by
  rcases exists_of_bind_eq_ok h with ⟨a, _, hurl⟩
  obtain rfl := Except.ok.inj hurl
  rfl

theorem scheme_of_withoutHost {scheme text : List Char} {url : Url}
    (h : readLocal.withoutHost scheme text = .ok url) : url.scheme = scheme := by
  cases h
  rfl

theorem scheme_of_withHost {scheme text : List Char} {url : Url}
    (h : readLocal.withHost scheme text = .ok url) : url.scheme = scheme := by
  unfold readLocal.withHost at h
  dsimp only at h
  split at h
  . exact scheme_of_withoutHost h
  . rcases exists_of_bind_eq_ok h with ⟨host, _, hurl⟩
    obtain rfl := Except.ok.inj hurl
    rfl

theorem scheme_of_readLocal {scheme text : List Char} {url : Url}
    (h : readLocal scheme text = .ok url) : url.scheme = scheme := by
  unfold readLocal at h
  split at h
  . split at h
    . exact scheme_of_withHost h
    . exact scheme_of_withoutHost h
  . exact scheme_of_withoutHost h

theorem scheme_of_readHierarchy {scheme text : List Char} {followed : Bool} {url : Url}
    (h : readHierarchy scheme text followed = .ok url) : url.scheme = scheme := by
  unfold readHierarchy at h
  split at h
  . exact scheme_of_readServer h
  . exact scheme_of_readLocal h
  . split at h
    . exact scheme_of_readServer h
    . cases h
      rfl
    . cases h
      rfl

/-- A mark without a user, or no text at all, leaves no host to read. -/
theorem readAuthority_followed (scheme text : List Char) (followed : Bool) :
    readAuthority .server scheme text followed = readAuthority .server scheme text true := by
  unfold readAuthority
  generalize (Text.cutLast? '@' text).getD ([], text) = cut
  rcases cut with ⟨written, machine⟩
  cases hlonely : written.isEmpty && machine.isEmpty with
  | false => simp [hlonely]
  | true =>
    -- An empty host is an error in any case, so it does not matter what follows.
    rw [Bool.and_eq_true, List.isEmpty_iff, List.isEmpty_iff] at hlonely
    rcases hlonely with ⟨rfl, rfl⟩
    cases followed <;> cases readAuthority.marked text <;> rfl

theorem readAuthority_nil (scheme : List Char) (followed : Bool) :
    readAuthority .server scheme [] followed = .error .emptyHost := by
  cases followed <;> rfl

theorem rest_of_readPort {scheme text rest : List Char} {port : Option Nat}
    (h : readPort .server scheme text = .ok (port, rest)) : rest = [] := by
  unfold readPort at h
  dsimp only at h
  split at h
  . contradiction
  . next hfits =>
    rw [not_or, Decidable.not_not] at hfits
    rcases hfits.2 with hempty | ⟨hkind, _⟩
    . rw [List.isEmpty_iff] at hempty
      split at h
      . exact (Prod.mk.inj (Except.ok.inj h)).2.symm.trans hempty
      . exact (Prod.mk.inj (Except.ok.inj h)).2.symm.trans hempty
    . contradiction

/-- An authority has a host that was read, and its port is the end of it. -/
theorem exists_of_readAuthority {scheme text : List Char} {followed : Bool} {a : Authority}
    (h : readAuthority .server scheme text followed = .ok a) :
    (∃ written, readHost .server written = .ok a.host) ∧ a.rest = [] := by
  unfold readAuthority at h
  dsimp only at h
  split at h
  . contradiction
  . rcases exists_of_bind_eq_ok h with ⟨host, hhost, hrest⟩
    split at hrest
    . contradiction
    . split at hrest
      . rcases exists_of_bind_eq_ok hrest with ⟨⟨port, rest⟩, hport, ha⟩
        obtain rfl := Except.ok.inj ha
        exact ⟨⟨_, hhost⟩, rest_of_readPort hport⟩
      . obtain rfl := Except.ok.inj hrest
        exact ⟨⟨_, hhost⟩, rfl⟩

theorem rest_of_readAuthority {scheme text : List Char} {followed : Bool} {a : Authority}
    (h : readAuthority .server scheme text followed = .ok a) : a.rest = [] :=
  (exists_of_readAuthority h).2

theorem Host.render_ne_nil_of_ofName {text : List Char} {host : Host} (h : ofName text = .ok host) :
    host.render ≠ [] := by
  unfold ofName at h
  split at h
  . split at h
    . contradiction
    . next hplain =>
      split at h
      . split at h
        . obtain rfl := Except.ok.inj h
          simp [render, Ipv4.render]
        . contradiction
      . obtain rfl := Except.ok.inj h
        rw [List.isEmpty_iff] at hplain
        exact hplain
  . contradiction

theorem Host.render_ne_nil_of_parse {text : List Char} {host : Host} (h : parse text = .ok host) :
    host.render ≠ [] := by
  unfold parse at h
  split at h
  . unfold bracketed at h
    split at h
    . obtain rfl := Except.ok.inj h
      exact List.cons_ne_nil _ _
    . contradiction
  . exact render_ne_nil_of_ofName h

theorem render_ne_nil_of_readAuthority {scheme text : List Char} {followed : Bool} {a : Authority}
    (h : readAuthority .server scheme text followed = .ok a) : a.host.render ≠ [] := by
  rcases (exists_of_readAuthority h).1 with ⟨written, hhost⟩
  unfold readHost at hhost
  rw [if_neg (by decide)] at hhost
  split at hhost
  . contradiction
  . exact Host.render_ne_nil_of_parse hhost

/-- The segments as the text of a path has them, before any of them leads to another directory. -/
def written : List Char → List (List Char)
  | [] => []
  | _ :: rest => (Segments.split Kind.server.separates rest).map (Percent.encode Percent.inPath)

theorem written_append (path tail : List Char) : written (path ++ '/' :: tail) = written path ++
    (Segments.split Kind.server.separates tail).map (Percent.encode Percent.inPath) := by
  cases path with
  | nil => rfl
  | cons c path =>
    rw [List.cons_append, written, written, Segments.split_append_cons rfl, List.map_append]

theorem readPath_eq {path : List Char} (h : ∀ c ∈ path.head?, Kind.server.separates c = true) :
    readPath .server path =
      .segments (if path = [] then [[]] else Segments.follow [] (written path)) := by
  cases path with
  | nil => rfl
  | cons c path => simp [readPath, written, h c rfl, Segments.ofText]

/-- The parts of a text that names a server, without a query or a fragment. -/
structure Layout where
  scheme : List Char
  slashes : List Char
  authority : List Char
  path : List Char
  scheme_fits : (scheme.head?.any Char.isAlpha && scheme.all splitScheme?.belongs) = true
  scheme_server : kindOf (scheme.map Char.toLower) = .server
  slashes_separate : ∀ c ∈ slashes, Kind.server.separates c = true
  authority_whole : ∀ c ∈ authority, Kind.server.separates c = false
  authority_ne_nil : authority ≠ []
  path_separate : ∀ c ∈ path.head?, Kind.server.separates c = true
  not_mem : ∀ mark ∈ ['?', '#'], mark ∉ slashes ++ authority ++ path

namespace Layout

def render (l : Layout) : List Char :=
  l.scheme ++ ':' :: (l.slashes ++ l.authority ++ l.path)

/-- The URL, once the authority is read. -/
def url (l : Layout) (a : Authority) (query : Option (List Char)) : Url where
  scheme := l.scheme.map Char.toLower
  user := a.user
  host := some a.host
  port := a.port
  path := readPath .server l.path
  query := query.map (Percent.encode Percent.inSpecialQuery)

theorem dropWhile_slashes (l : Layout) :
    (l.slashes ++ l.authority ++ l.path).dropWhile Kind.server.separates = l.authority ++ l.path := by
  rw [List.append_assoc, List.dropWhile_append_of_pos l.slashes_separate]
  cases hauthority : l.authority with
  | nil => exact absurd hauthority l.authority_ne_nil
  | cons c authority =>
    have hc : Kind.server.separates c = false := by
      apply l.authority_whole
      rw [hauthority]
      exact List.mem_cons_self
    rw [List.cons_append, List.dropWhile_cons_of_neg (by simp [hc])]

theorem span_authority (l : Layout) :
    (l.authority ++ l.path).span (fun c => !Kind.server.separates c) = (l.authority, l.path) := by
  have hwhole : ∀ c ∈ l.authority, (!Kind.server.separates c) = true := by
    intro c hc
    rw [l.authority_whole c hc]
    rfl
  rw [List.span_eq_takeWhile_dropWhile, List.takeWhile_append_of_pos hwhole,
    List.dropWhile_append_of_pos hwhole]
  cases hpath : l.path with
  | nil => simp
  | cons c path =>
    have hc : Kind.server.separates c = true := by
      apply l.path_separate
      rw [hpath]
      rfl
    rw [List.takeWhile_cons_of_neg (by simp [hc]), List.dropWhile_cons_of_neg (by simp [hc]),
      List.append_nil]

theorem readHierarchy_eq (l : Layout) (followed : Bool) :
    readHierarchy (l.scheme.map Char.toLower) (l.slashes ++ l.authority ++ l.path) followed =
      (readAuthority .server (l.scheme.map Char.toLower) l.authority true).map (l.url · none) := by
  simp only [readHierarchy, l.scheme_server]
  rw [l.dropWhile_slashes, readServer, l.span_authority]
  dsimp only
  rw [readAuthority_followed]
  cases ha : readAuthority .server (l.scheme.map Char.toLower) l.authority true with
  | error fault => rfl
  | ok a =>
    have hrest := rest_of_readAuthority ha
    simp [Except.map, url, hrest]

theorem parse_eq (l : Layout) {text : List Char} {query : Option (List Char)}
    (htext : clean text = l.render ++ renderAfter '?' query) (hquery : ∀ q ∈ query, '#' ∉ q) :
    parse text =
      (readAuthority .server (l.scheme.map Char.toLower) l.authority true).map (l.url · query) := by
  have hscheme : splitScheme? (clean text) = some (l.scheme.map Char.toLower,
      l.slashes ++ l.authority ++ l.path ++ renderAfter '?' query) := by
    rw [htext, render, List.append_assoc, List.cons_append, splitScheme?_append l.scheme_fits]
  have hmark : '?' ∉ l.slashes ++ l.authority ++ l.path := l.not_mem '?' (by simp)
  have hhash : '#' ∉ l.slashes ++ l.authority ++ l.path := l.not_mem '#' (by simp)
  have hfragment : '#' ∉ l.slashes ++ l.authority ++ l.path ++ renderAfter '?' query := by
    rw [List.mem_append, not_or]
    refine ⟨hhash, ?_⟩
    cases query with
    | none => simp [renderAfter]
    | some q => simp [renderAfter, hquery q]
  have hcut : Text.cut '?' (l.slashes ++ l.authority ++ l.path ++ renderAfter '?' query) =
      (l.slashes ++ l.authority ++ l.path, query) := by
    cases query with
    | none => rw [renderAfter, List.append_nil, Text.cut_of_not_mem hmark]
    | some q => rw [renderAfter, Text.cut_append hmark]
  rw [parse_of_splitScheme? hscheme (Text.cut_of_not_mem hfragment) hcut, l.readHierarchy_eq,
    l.scheme_server]
  cases readAuthority .server (l.scheme.map Char.toLower) l.authority true with
  | error fault => rfl
  | ok a => rfl

theorem authority_ne_nil_of_readHierarchy {scheme text : List Char} {followed : Bool} {url : Url}
    (hserver : kindOf scheme = .server) (h : readHierarchy scheme text followed = .ok url) :
    ((text.dropWhile Kind.server.separates).takeWhile fun c => !Kind.server.separates c) ≠ [] := by
  intro hempty
  simp only [readHierarchy, hserver] at h
  rw [readServer, List.span_eq_takeWhile_dropWhile, hempty] at h
  rcases exists_of_bind_eq_ok h with ⟨a, ha, _⟩
  rw [readAuthority_nil] at ha
  contradiction

/-- The layout of a text that is read up to its slashes, its authority and its path. -/
theorem exists_of_readHierarchy {scheme rest : List Char} {followed : Bool} {url : Url}
    (hfits : (scheme.head?.any Char.isAlpha && scheme.all splitScheme?.belongs) = true)
    (hserver : kindOf (scheme.map Char.toLower) = .server)
    (hmarks : ∀ mark ∈ ['?', '#'], mark ∉ rest)
    (h : readHierarchy (scheme.map Char.toLower) rest followed = .ok url) :
    ∃ l : Layout, l.scheme = scheme ∧ l.slashes ++ l.authority ++ l.path = rest := by
  have hrest : rest.takeWhile Kind.server.separates ++
      (rest.dropWhile Kind.server.separates).takeWhile (fun c => !Kind.server.separates c) ++
      (rest.dropWhile Kind.server.separates).dropWhile (fun c => !Kind.server.separates c) =
        rest := by
    rw [List.append_assoc, List.takeWhile_append_dropWhile, List.takeWhile_append_dropWhile]
  refine ⟨⟨scheme, _, _, _, hfits, hserver, ?_, ?_, authority_ne_nil_of_readHierarchy hserver h, ?_,
    ?_⟩, rfl, hrest⟩
  . intro c hc
    exact List.all_eq_true.1 List.all_takeWhile c hc
  . intro c hc
    have := List.all_eq_true.1 List.all_takeWhile c hc
    simpa using this
  . intro c hc
    have := List.head?_dropWhile_not (fun c => !Kind.server.separates c)
      (rest.dropWhile Kind.server.separates)
    rw [Option.mem_def.1 hc] at this
    simpa using this
  . rw [hrest]
    exact hmarks

theorem exists_of_parse_eq_ok {text : List Char} {url : Url} (h : parse text = .ok url)
    (hserver : kindOf url.scheme = .server) (hquery : url.query = none)
    (hfragment : url.fragment = none) :
    ∃ l : Layout, ∃ a, clean text = l.render ∧
      readAuthority .server (l.scheme.map Char.toLower) l.authority true = .ok a ∧
      url = l.url a none := by
  cases hscheme : splitScheme? (clean text) with
  | none =>
    rw [parse, hscheme] at h
    contradiction
  | some found =>
    rcases found with ⟨lower, rest⟩
    rcases hbefore : Text.cut '#' rest with ⟨before, fragment⟩
    rcases hhierarchy : Text.cut '?' before with ⟨hierarchy, query⟩
    rw [parse_of_splitScheme? hscheme hbefore hhierarchy] at h
    cases hread : readHierarchy lower hierarchy (query.isSome || fragment.isSome) with
    | error fault =>
      rw [hread] at h
      contradiction
    | ok read =>
      rw [hread] at h
      obtain rfl := Except.ok.inj h
      obtain rfl := scheme_of_readHierarchy hread
      obtain rfl := Option.map_eq_none_iff.1 hquery
      obtain rfl := Option.map_eq_none_iff.1 hfragment
      rcases Text.eq_of_cut_eq_none hbefore with ⟨rfl, hhash⟩
      rcases Text.eq_of_cut_eq_none hhierarchy with ⟨rfl, hmark⟩
      rcases exists_of_splitScheme?_eq_some hscheme with ⟨scheme, hclean, hfits, hlower⟩
      dsimp only at hserver
      rw [hlower] at hread hserver
      have hmarks : ∀ mark ∈ ['?', '#'], mark ∉ hierarchy := by
        simp [hmark, hhash]
      rcases exists_of_readHierarchy hfits hserver hmarks hread with ⟨l, rfl, hl⟩
      rw [← hl, l.readHierarchy_eq] at hread
      cases ha : readAuthority .server (l.scheme.map Char.toLower) l.authority true with
      | error fault =>
        rw [ha] at hread
        contradiction
      | ok a =>
        rw [ha] at hread
        obtain rfl := Except.ok.inj hread
        refine ⟨l, a, ?_, ha, rfl⟩
        rw [hclean, render, hl]

/-- The same text with a slash and more behind it. -/
def append (l : Layout) (tail : List Char) (htail : ∀ mark ∈ ['?', '#'], mark ∉ tail) : Layout :=
  { l with
    path := l.path ++ '/' :: tail
    path_separate := by
      intro c hc
      cases hpath : l.path with
      | nil =>
        rw [hpath] at hc
        cases hc
        rfl
      | cons d path =>
        apply l.path_separate
        rw [hpath] at hc ⊢
        exact hc
    not_mem := by
      intro mark hmark
      rw [← List.append_assoc, List.mem_append, List.mem_cons, not_or, not_or]
      refine ⟨l.not_mem mark hmark, ?_, htail mark hmark⟩
      rintro rfl
      simp at hmark }

theorem path_url (l : Layout) (a : Authority) (query : Option (List Char)) :
    (l.url a query).path =
      .segments (if l.path = [] then [[]] else Segments.follow [] (written l.path)) :=
  readPath_eq l.path_separate

theorem path_url_append (l : Layout) {tail : List Char}
    (htail : ∀ mark ∈ ['?', '#'], mark ∉ tail) (a : Authority) (query : Option (List Char)) :
    ((l.append tail htail).url a query).path =
      .segments (Segments.follow [] (written l.path ++
        (Segments.split Kind.server.separates tail).map (Percent.encode Percent.inPath))) := by
  rw [path_url, append, if_neg (by simp), written_append]

end Layout

end LayerCull.Url
