import LayerCull.Proofs.Endpoint

/-!
This module contains the place of the workspace in the address of a layer group. A workspace that
passes the check is one segment of the address, and is read back from it, exactly if it has no
backslash, is not dots, and holds no escape: `keepsWorkspace_iff`.
-/

namespace LayerCull

theorem Check.breaksSegment_of_pathSegment_eq_ok {field value : String}
    (h : Check.pathSegment field value = .ok ()) :
    ∀ c ∈ value.toList, Check.breaksSegment c = false := by
  rcases Url.exists_of_bind_eq_ok h with ⟨_, _, hensure⟩
  unfold Check.ensure at hensure
  split at hensure
  . next hall =>
    rw [Bool.not_eq_true', List.any_eq_false] at hall
    intro c hc
    exact Bool.eq_false_iff.2 (hall c hc)
  . contradiction

namespace Url.Segments

theorem length_up_le (path : List (List Char)) : (up path).length ≤ path.length := by
  unfold up
  split
  . exact Nat.le_refl _
  . simp

theorem length_step_le_of_not_isName {segment : List Char} (h : ¬IsName segment)
    (path : List (List Char)) : (step path segment).length ≤ path.length := by
  rcases dots?_of_not_isName h with hdots | hdots
  . simp only [step, hdots]
    exact Nat.le_refl _
  . simp only [step, hdots]
    exact length_up_le path

/-- If the pieces of the text lead one segment further, they do so to one of them. -/
theorem mem_of_foldl_step_eq {path segments : List (List Char)} {segment : List Char}
    (h : segments.foldl step path = path ++ [segment]) : segment ∈ segments := by
  rcases foldl_step_eq path segments with ⟨count, kept, heq, hkept⟩
  rw [h] at heq
  have hlength := congrArg List.length heq
  simp only [List.length_append, List.length_singleton, List.length_take] at hlength
  rcases List.eq_nil_or_concat kept with rfl | ⟨front, last, rfl⟩
  . rw [List.length_nil] at hlength
    omega
  . rw [List.concat_eq_append, ← List.append_assoc] at heq
    have hlast := (List.append_inj' heq rfl).2
    rw [List.singleton_inj.1 hlast]
    exact hkept last (by simp)

end Url.Segments

namespace Http.Address

open Url (Kind)
open Url.Percent (Escaped)

/-- The segments of the address of a group that come before the workspace, and after it. -/
def groupFront : List (List Char) :=
  ["geoserver".toList, "rest".toList, "workspaces".toList]

def groupBack (group : LayerId) : List (List Char) :=
  ["layergroups".toList, (group.text ++ ".json").toList]

/-- The address of the group has one segment for the workspace, which decodes to it, and nothing else
that could say where the group is. -/
def KeepsWorkspace (config : Config) (group : LayerId) : Prop :=
  ∃ url segment, Url.parse (layerGroup config group).toList = .ok url ∧
    url.path = .segments (groupFront ++ [segment] ++ groupBack group) ∧
    url.query = none ∧ url.fragment = none ∧
    Url.Percent.decode segment = Utf8.encode config.workspace.toList

/-- What the pieces of the workspace make of the segments before them. -/
def walk (workspace : List Char) : List (List Char) :=
  ((Url.Segments.split Kind.server.separates workspace).map
    (Url.Percent.encode Url.Percent.inPath)).foldl Url.Segments.step groupFront

theorem walk_of_not_mem {workspace : List Char}
    (h : ∀ c ∈ workspace, Kind.server.separates c = false) :
    walk workspace =
      Url.Segments.step groupFront (Url.Percent.encode Url.Percent.inPath workspace) := by
  rw [walk, Url.Segments.split_eq_singleton h]
  rfl

theorem separates_of_not_mem {workspace : List Char} (hslash : '/' ∉ workspace)
    (hbackslash : '\\' ∉ workspace) : ∀ c ∈ workspace, Kind.server.separates c = false := by
  intro c hc
  rw [Bool.eq_false_iff]
  intro hseparates
  simp only [Kind.separates, Bool.or_eq_true, Bool.and_eq_true, beq_iff_eq] at hseparates
  rcases hseparates with rfl | ⟨_, rfl⟩
  . exact hslash hc
  . exact hbackslash hc

theorem walk_eq_iff {workspace : List Char} (hslash : '/' ∉ workspace) :
    (∃ segment, walk workspace = groupFront ++ [segment] ∧
        Url.Percent.decode segment = Utf8.encode workspace) ↔
      '\\' ∉ workspace ∧ workspace ≠ ['.'] ∧ workspace ≠ ['.', '.'] ∧ ¬Escaped workspace := by
  constructor
  . rintro ⟨segment, hwalk, hdecode⟩
    have hmem := Url.Segments.mem_of_foldl_step_eq hwalk
    rw [List.mem_map] at hmem
    rcases hmem with ⟨piece, hpiece, rfl⟩
    rw [Url.Percent.decode_encode_inPath] at hdecode
    have hbackslash : '\\' ∉ workspace := by
      -- A workspace in pieces leaves room for one of them, and that one is too short.
      intro hmem
      have hshort := Url.Segments.length_encode_lt_of_mem_split rfl hmem hpiece
      have hle := Url.Percent.length_decode_le piece
      rw [hdecode] at hle
      omega
    have hwhole := separates_of_not_mem hslash hbackslash
    rw [Url.Segments.split_eq_singleton hwhole] at hpiece
    obtain rfl := List.mem_singleton.1 hpiece
    have hescaped := Url.Percent.decode_eq_encode_iff.1 hdecode
    have hname : Url.Segments.IsName (Url.Percent.encode Url.Percent.inPath piece) := by
      -- Dots would have made the path no longer.
      apply Decidable.byContradiction
      intro hdots
      have hlength := Url.Segments.length_step_le_of_not_isName hdots groupFront
      rw [← walk_of_not_mem hwhole, hwalk, List.length_append, List.length_singleton] at hlength
      omega
    rcases (Url.Segments.isName_encode_iff hescaped).1 hname with ⟨hone, htwo⟩
    exact ⟨hbackslash, hone, htwo, hescaped⟩
  . rintro ⟨hbackslash, hone, htwo, hescaped⟩
    have hname := (Url.Segments.isName_encode_iff hescaped).2 ⟨hone, htwo⟩
    refine ⟨Url.Percent.encode Url.Percent.inPath workspace, ?_, ?_⟩
    . rw [walk_of_not_mem (separates_of_not_mem hslash hbackslash),
        Url.Segments.step_of_isName hname]
    . rw [Url.Percent.decode_encode_inPath, Url.Percent.decode_eq_encode_iff.2 hescaped]

/-- An endpoint that is a scheme, a host and perhaps a port. -/
def IsSite (endpoint : String) : Prop :=
  ∃ site, endpoint = "http://" ++ site ∧
    ∀ c ∈ site.toList, 0x20 < c.toNat ∧ Kind.server.separates c = false

theorem isEdge_of_isSite {endpoint : String} (h : IsSite endpoint) :
    ∀ c ∈ endpoint.toList, Url.clean.isEdge c = false := by
  rcases h with ⟨site, rfl, hsite⟩
  intro c hc
  have hscheme : ∀ d ∈ "http://".toList, Url.clean.isEdge d = false := by decide
  rw [String.toList_append, List.mem_append] at hc
  rcases hc with hc | hc
  . exact hscheme c hc
  . exact decide_eq_false (Nat.not_le_of_lt (hsite c hc).1)

theorem parts_of_site {site : String} {l : Url.Layout} (hl : ("http://" ++ site).toList = l.render) :
    l.scheme.map Char.toLower = "http".toList ∧
      l.slashes ++ l.authority ++ l.path = '/' :: '/' :: site.toList := by
  have htext : ("http://" ++ site).toList = "http".toList ++ ':' :: ('/' :: '/' :: site.toList) := by
    rw [String.toList_append]
    rfl
  have hsplit := congrArg Url.splitScheme? hl
  rw [htext, Url.splitScheme?_append (by decide), Url.Layout.render,
    Url.splitScheme?_append l.scheme_fits] at hsplit
  exact Prod.mk.inj (Option.some.inj hsplit.symm)

theorem scheme_of_isSite {endpoint : String} (h : IsSite endpoint) {l : Url.Layout}
    (hl : Url.clean endpoint.toList = l.render) : l.scheme.map Char.toLower = "http".toList := by
  rw [Url.clean_eq_self (isEdge_of_isSite h)] at hl
  rcases h with ⟨site, rfl, _⟩
  exact (parts_of_site hl).1

/-- A separator in such an endpoint would have to be one of the two before the host. -/
theorem path_of_isSite {endpoint : String} (h : IsSite endpoint) {l : Url.Layout}
    (hl : Url.clean endpoint.toList = l.render) : l.path = [] := by
  rw [Url.clean_eq_self (isEdge_of_isSite h)] at hl
  rcases h with ⟨site, rfl, hsite⟩
  have hrest := (parts_of_site hl).2.symm
  have hsite' : site.toList.dropWhile Kind.server.separates = site.toList := by
    cases hchars : site.toList with
    | nil => rfl
    | cons c chars =>
      have hc : Kind.server.separates c = false := by
        apply (hsite c _).2
        rw [hchars]
        exact List.mem_cons_self
      rw [List.dropWhile_cons_of_neg (by simp [hc])]
  have hpath : site.toList = l.authority ++ l.path := by
    rw [← l.dropWhile_slashes, ← hrest, List.dropWhile_cons_of_pos rfl,
      List.dropWhile_cons_of_pos rfl, hsite']
  cases hl : l.path with
  | nil => rfl
  | cons c path =>
    have hseparates : Kind.server.separates c = true := by
      apply l.path_separate
      rw [hl]
      rfl
    have hc : c ∈ site.toList := by
      rw [hpath, hl]
      simp
    rw [(hsite c hc).2] at hseparates
    contradiction

theorem base_of_isSite {config : Config} (hsite : IsSite config.endpoint) {l : Url.Layout}
    (hl : Url.clean config.endpoint.toList = l.render) : base config = config.endpoint := by
  apply String.toList_injective
  rw [base, Config.toList_dropTrailingSlashes]
  apply Url.withoutSlashes_eq_self
  intro hlast
  have hseparates := l.separates_getLast?_render_iff.2 (by simp [path_of_isSite hsite hl])
  rw [← hl, Url.clean_eq_self (isEdge_of_isSite hsite)] at hseparates
  have := hseparates '/' hlast
  contradiction

/-- The names that the address of a group has behind the endpoint, as they are written. -/
def groupNames (workspace : List Char) (group : LayerId) : List (List Char) :=
  ["rest".toList, "workspaces".toList, workspace, "layergroups".toList,
    (group.text ++ ".json").toList]

theorem toList_layerGroup {config : Config} (hbase : base config = config.endpoint)
    (group : LayerId) : (layerGroup config group).toList = config.endpoint.toList ++
      (Url.Path.segments ("geoserver".toList :: groupNames config.workspace.toList group)).render := by
  rw [layerGroup, hbase]
  simp [Url.Path.render, groupNames]

theorem isPlain_of_front : ∀ name ∈ groupFront, ∀ c ∈ name, Url.Segments.IsPlain c := by
  decide

theorem isSegment_of_back (group : LayerId) : ∀ name ∈ groupBack group, Url.IsSegment name := by
  rw [groupBack, List.forall_mem_cons, List.forall_mem_singleton]
  exact ⟨isSegment_of_isPlain (by decide) (by decide), isSegment_document group⟩

theorem groupNames_eq (workspace : List Char) (group : LayerId) :
    "geoserver".toList :: groupNames workspace group =
      groupFront ++ [workspace] ++ groupBack group := rfl

theorem pieces_groupNames (workspace : List Char) (group : LayerId) :
    (("geoserver".toList :: groupNames workspace group).flatMap
        (Url.Segments.split Kind.server.separates)).map (Url.Percent.encode Url.Percent.inPath) =
      groupFront ++ (Url.Segments.split Kind.server.separates workspace).map
        (Url.Percent.encode Url.Percent.inPath) ++ groupBack group := by
  rw [groupNames_eq, List.flatMap_append, List.flatMap_append, List.map_append, List.map_append,
    Url.pieces_of_isPlain isPlain_of_front,
    Url.pieces_of_isPlain fun name hname => (isSegment_of_back group name hname).isPlain,
    List.flatMap_singleton]

/-- The address ends on the name of a document, whatever the workspace is. -/
theorem isEdge_of_getLast?_render (workspace : List Char) (group : LayerId) :
    ∀ c ∈ (Url.Path.segments ("geoserver".toList :: groupNames workspace group)).render.getLast?,
      Url.clean.isEdge c = false := by
  intro c hc
  have hne : (Url.Path.segments (groupBack group)).render ≠ [] := by
    rw [groupBack, Url.Path.render_cons]
    simp
  rw [groupNames_eq, Url.Path.render_append, List.getLast?_append,
    List.getLast?_eq_some_getLast hne, Option.some_or] at hc
  have hmem := List.getLast_mem hne
  rw [Option.some.inj hc] at hmem
  rcases Url.eq_or_exists_of_mem_render hmem with rfl | ⟨name, hname, hc⟩
  . rfl
  . exact Url.isEdge_of_isPlain ((isSegment_of_back group name hname).isPlain c hc)

theorem staysInPath_of_breaksSegment {c : Char} (h : Check.breaksSegment c = false) :
    Url.StaysInPath c := by
  simp only [Check.breaksSegment, Bool.or_eq_false_iff, beq_eq_false_iff_ne] at h
  rcases h with ⟨⟨⟨_, hmark⟩, hhash⟩, hblank⟩
  refine ⟨hmark, hhash, ?_⟩
  rw [Bool.eq_false_iff]
  intro hbreak
  simp only [Url.isBreak, Bool.or_eq_true, beq_iff_eq] at hbreak
  rcases hbreak with (rfl | rfl) | rfl
  . contradiction
  . contradiction
  . contradiction

theorem exists_parse_layerGroup {config : Config} {endpointField workspaceField : String}
    (hsite : IsSite config.endpoint) (hendpoint : Check.url endpointField config.endpoint = .ok ())
    (hworkspace : Check.pathSegment workspaceField config.workspace = .ok ()) (group : LayerId) :
    ∃ url, Url.parse (layerGroup config group).toList = .ok url ∧
      url.path = .segments (walk config.workspace.toList ++ groupBack group) ∧
      url.query = none ∧ url.fragment = none := by
  rcases Check.exists_of_url_eq_ok hendpoint with ⟨url, hurl, hserver, hquery, hfragment⟩
  rcases Url.Layout.exists_of_parse_eq_ok hurl hserver hquery hfragment with
    ⟨l, a, hclean, ha, rfl⟩
  have hstays : ∀ name ∈ "geoserver".toList :: groupNames config.workspace.toList group,
      ∀ c ∈ name, Url.StaysInPath c := by
    rw [groupNames_eq, List.forall_mem_append, List.forall_mem_append, List.forall_mem_singleton]
    refine ⟨⟨?_, ?_⟩, ?_⟩
    . intro name hname c hc
      exact Url.staysInPath_of_isPlain (isPlain_of_front name hname c hc)
    . intro c hc
      exact staysInPath_of_breaksSegment (Check.breaksSegment_of_pathSegment_eq_ok hworkspace c hc)
    . intro name hname c hc
      exact Url.staysInPath_of_isPlain ((isSegment_of_back group name hname).isPlain c hc)
  have hfront : ∀ name ∈ groupFront, Url.Segments.IsName name := by decide
  have hnone : ∀ q ∈ (none : Option (List Char)), ∀ c ∈ q, c ≠ '#' ∧ Url.clean.isEdge c = false := by
    simp
  have hparse := l.parse_append_render hclean ha
    (Url.endsOpen_of_isEdge (isEdge_of_isSite hsite)) hstays (isEdge_of_getLast?_render _ _) hnone
  rw [Url.renderAfter, List.append_nil, ← toList_layerGroup (base_of_isSite hsite hclean),
    path_of_isSite hsite hclean, pieces_groupNames, Url.written, List.nil_append,
    Url.Segments.follow_append (by simp [groupBack]), List.foldl_append,
    Url.Segments.foldl_step_of_isName hfront,
    Url.Segments.follow_of_isName fun name hname => (isSegment_of_back group name hname).isName]
    at hparse
  exact ⟨_, hparse, rfl, rfl, rfl⟩

/-- A workspace that passes the check is one segment, and is read back from it, exactly if it holds
no backslash and no escape and is not a row of one or two dots. -/
theorem keepsWorkspace_iff {config : Config} {endpointField workspaceField : String}
    (hsite : IsSite config.endpoint) (hendpoint : Check.url endpointField config.endpoint = .ok ())
    (hworkspace : Check.pathSegment workspaceField config.workspace = .ok ()) (group : LayerId) :
    KeepsWorkspace config group ↔
      '\\' ∉ config.workspace.toList ∧ config.workspace ≠ "." ∧ config.workspace ≠ ".." ∧
        ¬Escaped config.workspace.toList := by
  rcases exists_parse_layerGroup hsite hendpoint hworkspace group with
    ⟨url, hurl, hpath, hquery, hfragment⟩
  have hslash : '/' ∉ config.workspace.toList := by
    intro hmem
    exact absurd (Check.breaksSegment_of_pathSegment_eq_ok hworkspace '/' hmem) (by decide)
  have hdots : config.workspace ≠ "." ∧ config.workspace ≠ ".." ↔
      config.workspace.toList ≠ ['.'] ∧ config.workspace.toList ≠ ['.', '.'] := by
    have hone : ".".toList = ['.'] := by decide
    have htwo : "..".toList = ['.', '.'] := by decide
    rw [← htwo, ← hone, Ne, Ne, Ne, Ne, String.toList_inj, String.toList_inj]
  rw [← and_assoc (b := _ ≠ ".."), hdots, and_assoc, ← walk_eq_iff hslash]
  constructor
  . rintro ⟨read, segment, hread, hsegments, _, _, hdecode⟩
    rw [hurl] at hread
    obtain rfl := Except.ok.inj hread
    rw [hpath, Url.Path.segments.injEq] at hsegments
    exact ⟨segment, List.append_cancel_right hsegments, hdecode⟩
  . rintro ⟨segment, hwalk, hdecode⟩
    refine ⟨url, segment, hurl, ?_, hquery, hfragment, hdecode⟩
    rw [hpath, hwalk]

def withWorkspace (workspace : String) : Config :=
  { Config.ofEndpoint "http://127.0.0.1:1" "admin" "geoserver" with workspace }

theorem keepsWorkspace_iff_percentSign :
    IsSite (withWorkspace "50%-été").endpoint ∧
      Check.url "geoserver.endpoint" (withWorkspace "50%-été").endpoint = .ok () ∧
      Check.pathSegment "geoserver.workspace" (withWorkspace "50%-été").workspace = .ok () ∧
      KeepsWorkspace (withWorkspace "50%-été") Script.sampleGroup := by
  have hsite : IsSite (withWorkspace "50%-été").endpoint :=
    ⟨"127.0.0.1:1", by decide +kernel, by decide +kernel⟩
  have hendpoint : Check.url "geoserver.endpoint" (withWorkspace "50%-été").endpoint = .ok () := by
    decide +kernel
  have hworkspace :
      Check.pathSegment "geoserver.workspace" (withWorkspace "50%-été").workspace = .ok () := by
    decide +kernel
  have hescaped : ¬Escaped (withWorkspace "50%-été").workspace.toList := by
    rw [← Url.Percent.decode_eq_encode_iff]
    decide +kernel
  refine ⟨hsite, hendpoint, hworkspace, ?_⟩
  rw [keepsWorkspace_iff hsite hendpoint hworkspace]
  exact ⟨by decide +kernel, by decide +kernel, by decide +kernel, hescaped⟩

/-- A backslash makes two segments of the workspace, and two dots take a segment away. -/
theorem not_keepsWorkspace_of_backslash_of_dots :
    Check.url "geoserver.endpoint" (withWorkspace "a\\b").endpoint = .ok () ∧
      Check.pathSegment "geoserver.workspace" "a\\b" = .ok () ∧
      Check.pathSegment "geoserver.workspace" ".." = .ok () ∧
      ¬KeepsWorkspace (withWorkspace "a\\b") Script.sampleGroup ∧
      ¬KeepsWorkspace (withWorkspace "..") Script.sampleGroup := by
  have hbackslash :
      (Url.parse (layerGroup (withWorkspace "a\\b") Script.sampleGroup).toList).map Url.path =
        .ok (.segments (groupFront ++ [['a'], ['b']] ++ groupBack Script.sampleGroup)) := by
    decide +kernel
  have hdots :
      (Url.parse (layerGroup (withWorkspace "..") Script.sampleGroup).toList).map Url.path =
        .ok (.segments (["geoserver".toList, "rest".toList] ++ groupBack Script.sampleGroup)) := by
    decide +kernel
  refine ⟨by decide +kernel, by decide +kernel, by decide +kernel, ?_, ?_⟩
  . rintro ⟨url, segment, hurl, hpath, _⟩
    rw [hurl, Except.map, Except.ok.injEq, hpath, Url.Path.segments.injEq] at hbackslash
    exact absurd (congrArg List.length hbackslash) (by simp [groupFront, groupBack])
  . rintro ⟨url, segment, hurl, hpath, _⟩
    rw [hurl, Except.map, Except.ok.injEq, hpath, Url.Path.segments.injEq] at hdots
    exact absurd (congrArg List.length hdots) (by simp [groupFront, groupBack])

end Http.Address

end LayerCull
