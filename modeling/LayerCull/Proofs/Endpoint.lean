import LayerCull.Http.Address
import LayerCull.Proofs.Identifier
import LayerCull.Proofs.Rounds
import LayerCull.Proofs.Url.Append

/-!
This module contains what becomes of an accepted endpoint when paths are appended to it. The endpoint
is checked as a URL and used as a text, so an address goes astray where the two end differently:
`keepMeaning_iff`.
-/

namespace LayerCull

namespace Url

/-- The text without the slashes at its end. -/
def withoutSlashes (text : List Char) : List Char :=
  (text.reverse.dropWhile (· == '/')).reverse

theorem withoutSlashes_concat_slash (text : List Char) :
    withoutSlashes (text ++ ['/']) = withoutSlashes text := by
  rw [withoutSlashes, List.reverse_append, List.reverse_singleton, List.singleton_append,
    List.dropWhile_cons_of_pos rfl, withoutSlashes]

theorem withoutSlashes_eq_self {text : List Char} (h : text.getLast? ≠ some '/') :
    withoutSlashes text = text := by
  rcases List.eq_nil_or_concat text with rfl | ⟨front, last, rfl⟩
  . rfl
  . rw [List.concat_eq_append, List.getLast?_concat] at h
    rw [List.concat_eq_append, withoutSlashes, List.reverse_append, List.reverse_singleton,
      List.singleton_append, List.dropWhile_cons_of_neg (by simpa using h)]
    simp

theorem getLast?_withoutSlashes (text : List Char) : (withoutSlashes text).getLast? ≠ some '/' := by
  intro h
  have hhead := List.head?_dropWhile_not (· == '/') text.reverse
  rw [withoutSlashes, List.getLast?_reverse] at h
  rw [h] at hhead
  contradiction

theorem length_withoutSlashes_le (text : List Char) :
    (withoutSlashes text).length ≤ text.length := by
  have := (List.dropWhile_suffix (l := text.reverse) (· == '/')).length_le
  rw [List.length_reverse] at this
  rw [withoutSlashes, List.length_reverse]
  exact this

theorem withoutSlashes_eq_self_iff {text : List Char} :
    withoutSlashes text = text ↔ text.getLast? ≠ some '/' := by
  constructor
  . intro h hlast
    rcases List.eq_nil_or_concat text with rfl | ⟨front, last, rfl⟩
    . contradiction
    . rw [List.concat_eq_append, List.getLast?_concat] at hlast
      obtain rfl := Option.some.inj hlast
      rw [List.concat_eq_append, withoutSlashes_concat_slash] at h
      have := length_withoutSlashes_le front
      rw [h, List.length_append, List.length_singleton] at this
      omega
  . exact withoutSlashes_eq_self

theorem gap_suffix_concat_iff {text : List Char} {c : Char} :
    ['/', '/'] <:+ text ++ [c] ↔ c = '/' ∧ text.getLast? = some '/' := by
  constructor
  . rintro ⟨front, h⟩
    rw [List.append_cons] at h
    rcases List.append_inj' h rfl with ⟨rfl, hc⟩
    exact ⟨(List.singleton_inj.1 hc).symm, by simp⟩
  . rintro ⟨rfl, hlast⟩
    rw [List.getLast?_eq_some_iff] at hlast
    rcases hlast with ⟨front, rfl⟩
    exact ⟨front, by simp⟩

theorem exists_encodeChar_eq_concat {set : Char → Bool} {c : Char} (hc : c ≠ '/') :
    ∃ front last, Percent.encodeChar set c = front ++ [last] ∧ last ≠ '/' := by
  unfold Percent.encodeChar
  split
  . rcases (List.eq_nil_or_concat (Utf8.encode [c])).resolve_left
      (List.ne_nil_of_length_pos (Utf8.length_encode_singleton_pos c)) with ⟨bytes, b, hbytes⟩
    have hdigit : Percent.hexDigit (b.toNat % 16) ≠ '/' := by
      intro h
      have hvalue := Percent.value?_hexDigit (Nat.mod_lt b.toNat (by omega : 0 < 16))
      rw [h] at hvalue
      contradiction
    refine ⟨bytes.flatMap Percent.escapeByte ++ ['%', Percent.hexDigit (b.toNat / 16)], _, ?_, hdigit⟩
    rw [hbytes, List.concat_eq_append, List.flatMap_append]
    simp [Percent.escapeByte]
  . exact ⟨[], c, rfl, hc⟩

section

variable {path : List Char} (hpath : ∀ c ∈ path.head?, Kind.server.separates c = true)

theorem exists_written_of_separates {last : Char} (hlast : path.getLast? = some last)
    (hseparates : Kind.server.separates last = true) : ∃ front, written path = front ++ [[]] := by
  cases path with
  | nil => contradiction
  | cons c rest =>
    rcases List.eq_nil_or_concat rest with rfl | ⟨front, d, rfl⟩
    . exact ⟨[], rfl⟩
    . rw [List.concat_eq_append, ← List.cons_append, List.getLast?_concat] at hlast
      obtain rfl := Option.some.inj hlast
      rw [List.concat_eq_append, written, Segments.split_append_cons hseparates, List.map_append]
      exact ⟨_, rfl⟩

include hpath in
theorem exists_written_of_not_separates {last : Char} (hlast : path.getLast? = some last)
    (hseparates : Kind.server.separates last = false) :
    ∃ front segment c, written path = front ++ [segment ++ [c]] ∧ c ≠ '/' := by
  cases path with
  | nil => simp at hlast
  | cons c rest =>
    rcases List.eq_nil_or_concat rest with rfl | ⟨front, d, rfl⟩
    . have hc : Kind.server.separates last = true := hpath last hlast
      rw [hseparates] at hc
      contradiction
    . rw [List.concat_eq_append, ← List.cons_append, List.getLast?_concat] at hlast
      obtain rfl := Option.some.inj hlast
      have hslash : d ≠ '/' := by
        rintro rfl
        exact absurd hseparates (by decide)
      rcases Segments.split_concat_of_not_separates hseparates front with ⟨segments, piece, hsplit⟩
      rcases exists_encodeChar_eq_concat hslash with ⟨escapes, e, hescapes, he⟩
      refine ⟨segments.map (Percent.encode Percent.inPath),
        Percent.encode Percent.inPath piece ++ escapes, e, ?_, he⟩
      rw [List.concat_eq_append, written, hsplit, List.map_append, List.map_singleton,
        Percent.encode, List.flatMap_append, List.flatMap_singleton, hescapes, List.append_assoc]
      rfl

end

theorem Path.render_concat (segments : List (List Char)) (segment : List Char) :
    (Path.segments (segments ++ [segment])).render =
      (Path.segments segments).render ++ '/' :: segment := by
  simp [Path.render]

theorem Path.render_append (front back : List (List Char)) :
    (Path.segments (front ++ back)).render =
      (Path.segments front).render ++ (Path.segments back).render :=
  List.flatMap_append

/-- Where the text ends on a separator, the path keeps an empty segment. -/
theorem withoutSlashes_render_ne {front : List (List Char)} :
    withoutSlashes (Path.segments (Segments.follow [] (front ++ [[]]))).render ≠
      (Path.segments ((front ++ [[]]).foldl Segments.step [])).render := by
  have hname : Segments.IsName [] := by decide
  intro h
  rw [Segments.follow_append (by simp), Segments.follow_cons_of_isName hname, List.foldl_append,
    List.foldl_cons, List.foldl_nil, Segments.follow, Segments.step_of_isName hname,
    Path.render_concat, withoutSlashes_eq_self_iff] at h
  simp at h

theorem withoutSlashes_render_eq_iff_of_concat {front : List (List Char)} {segment : List Char}
    {c : Char} (hc : c ≠ '/') :
    withoutSlashes (Path.segments (Segments.follow [] (front ++ [segment ++ [c]]))).render =
        (Path.segments ((front ++ [segment ++ [c]]).foldl Segments.step [])).render ↔
      ¬['/', '/'] <:+ (Path.segments (Segments.follow [] (front ++ [segment ++ [c]]))).render := by
  rw [Segments.follow_append (by simp), List.foldl_append, List.foldl_cons, List.foldl_nil]
  generalize front.foldl Segments.step [] = path
  by_cases hname : Segments.IsName (segment ++ [c])
  . have hrender : (Path.segments (path ++ [segment ++ [c]])).render =
        (Path.segments path).render ++ '/' :: segment ++ [c] := by
      simp [Path.render_concat]
    rw [Segments.follow_cons_of_isName hname, Segments.follow, Segments.step_of_isName hname, hrender,
      withoutSlashes_eq_self_iff, gap_suffix_concat_iff, List.getLast?_concat]
    simp [hc]
  . rw [Segments.follow_cons_of_not_isName hname, List.isEmpty_nil, if_pos rfl, Segments.follow,
      Path.render_concat, withoutSlashes_concat_slash, withoutSlashes_eq_self_iff,
      gap_suffix_concat_iff]
    simp

/-- Without the slashes at its end, the path is what stands before everything that is appended,
exactly if the text ends on no separator and the path on no empty segment before the last one. -/
theorem withoutSlashes_render_eq_iff {path : List Char}
    (hpath : ∀ c ∈ path.head?, Kind.server.separates c = true) :
    withoutSlashes (readPath .server path).render =
        (Path.segments ((written path).foldl Segments.step [])).render ↔
      (∀ c ∈ path.getLast?, Kind.server.separates c = false) ∧
        ¬['/', '/'] <:+ (readPath .server path).render := by
  cases hlast : path.getLast? with
  | none =>
    obtain rfl := List.getLast?_eq_none_iff.1 hlast
    have hgap : ¬['/', '/'] <:+ (readPath .server []).render := by decide
    exact ⟨fun _ => ⟨by simp, hgap⟩, fun _ => rfl⟩
  | some last =>
    have hne : path ≠ [] := by
      rintro rfl
      simp at hlast
    rw [readPath_eq hpath, if_neg hne]
    cases hseparates : Kind.server.separates last with
    | true =>
      -- The last piece is empty, and stands between the path and what is appended.
      rcases exists_written_of_separates hlast hseparates with ⟨front, hfront⟩
      rw [hfront]
      constructor
      . intro h
        exact absurd h withoutSlashes_render_ne
      . intro h
        have := h.1 last rfl
        rw [hseparates] at this
        contradiction
    | false =>
      rcases exists_written_of_not_separates hpath hlast hseparates with
        ⟨front, segment, c, hfront, hc⟩
      rw [hfront, withoutSlashes_render_eq_iff_of_concat hc]
      simp [hseparates]

/-- The text ends where the path of its URL ends: behind the last character that the parser reads
there is neither a separator nor, after dots, an empty segment. -/
structure EndsWithPath (text : List Char) (url : Url) : Prop where
  not_separated : ∀ c ∈ (clean text).getLast?, Kind.server.separates c = false
  not_gapped : ¬['/', '/'] <:+ url.path.render

theorem Layout.separates_getLast?_render_iff (l : Layout) :
    (∀ c ∈ l.render.getLast?, Kind.server.separates c = false) ↔
      ∀ c ∈ l.path.getLast?, Kind.server.separates c = false := by
  rcases List.eq_nil_or_concat l.path with hpath | ⟨front, last, hpath⟩
  . rcases (List.eq_nil_or_concat l.authority).resolve_left l.authority_ne_nil with
      ⟨front, last, hauthority⟩
    have hwhole : Kind.server.separates last = false := by
      apply l.authority_whole
      simp [hauthority]
    have hrender : l.render = l.scheme ++ ':' :: (l.slashes ++ front) ++ [last] := by
      simp [render, hpath, hauthority]
    rw [hrender, List.getLast?_concat]
    simp [hpath, hwhole]
  . have hrender : l.render = l.scheme ++ ':' :: (l.slashes ++ l.authority ++ front) ++ [last] := by
      simp [render, hpath]
    rw [hrender, hpath, List.concat_eq_append, List.getLast?_concat, List.getLast?_concat]

theorem Layout.endsWithPath_iff (l : Layout) {text : List Char} (hclean : clean text = l.render)
    (a : Authority) : EndsWithPath text (l.url a none) ↔
      withoutSlashes (l.url a none).path.render =
        (Path.segments ((written l.path).foldl Segments.step [])).render := by
  rw [url, withoutSlashes_render_eq_iff l.path_separate, ← l.separates_getLast?_render_iff, ← hclean]
  constructor
  . rintro ⟨hseparated, hgapped⟩
    exact ⟨hseparated, hgapped⟩
  . rintro ⟨hseparated, hgapped⟩
    exact ⟨hseparated, hgapped⟩

end Url

theorem Url.kindOf_of_web {scheme : List Char}
    (h : String.ofList scheme = "http" ∨ String.ofList scheme = "https") :
    Url.kindOf scheme = .server := by
  rcases h with h | h
  . rw [← String.toList_ofList (l := scheme), h]
    decide
  . rw [← String.toList_ofList (l := scheme), h]
    decide

theorem Check.exists_of_url_eq_ok {field value : String} (h : Check.url field value = .ok ()) :
    ∃ url, Url.parse value.toList = .ok url ∧ Url.kindOf url.scheme = .server ∧
      url.query = none ∧ url.fragment = none := by
  unfold Check.url at h
  split at h
  . contradiction
  . split at h
    . contradiction
    . next url hurl =>
      dsimp only at h
      split at h
      . next hscheme =>
        split at h
        . contradiction
        . next hplain =>
          rw [Bool.or_eq_true, not_or, Option.not_isSome_iff_eq_none,
            Option.not_isSome_iff_eq_none] at hplain
          exact ⟨url, hurl, Url.kindOf_of_web hscheme, hplain⟩
      . contradiction

theorem Uuid.isPlain_of_not_breaks {c : Char} (h : ¬Uuid.Breaks c) : Url.Segments.IsPlain c := by
  have hascii : c.toNat < 0x80 := by
    rw [Uuid.breaks_iff, not_and_or, Bool.not_eq_false, Bool.not_eq_false] at h
    simp only [Uuid.Slot.accepts, Bool.or_eq_true, Bool.and_eq_true, decide_eq_true_eq,
      beq_iff_eq] at h
    rcases h with (⟨_, hdigit⟩ | ⟨_, hletter⟩) | rfl
    . exact Nat.lt_of_le_of_lt hdigit (by decide)
    . exact Nat.lt_of_le_of_lt hletter (by decide)
    . decide
  have hall : ∀ n < 0x80, ¬Uuid.Breaks (Char.ofNat n) → Url.Segments.IsPlain (Char.ofNat n) := by
    decide
  exact Text.forall_of_toNat_lt (P := fun d => ¬Uuid.Breaks d → Url.Segments.IsPlain d) hall
    hascii h

theorem LayerId.isPlain_of_mem (id : LayerId) {c : Char} (hc : c ∈ id.text.toList) :
    Url.Segments.IsPlain c := by
  apply Uuid.isPlain_of_not_breaks
  intro hbreaks
  exact hbreaks.not_mem_of_fits id.shaped hc

theorem Config.toList_dropTrailingSlashes (text : String) :
    (Config.dropTrailingSlashes text).toList = Url.withoutSlashes text.toList :=
  String.toList_ofList

namespace Http.Address

theorem base_ofEndpoint (endpoint username password : String) :
    base (Config.ofEndpoint endpoint username password) =
      (Config.ofEndpoint endpoint username password).endpoint := by
  apply String.toList_injective
  rw [base, Config.toList_dropTrailingSlashes]
  apply Url.withoutSlashes_eq_self
  rw [Config.ofEndpoint, Config.toList_dropTrailingSlashes]
  exact Url.getLast?_withoutSlashes _

/-- The second URL is the first one with more path and with a query. -/
structure Extends (url extended : Url) (path : String) (query : Option String) : Prop where
  scheme : extended.scheme = url.scheme
  user : extended.user = url.user
  host : extended.host = url.host
  port : extended.port = url.port
  path : String.ofList extended.path.render =
    Config.dropTrailingSlashes (String.ofList url.path.render) ++ path
  query : extended.query = query.map String.toList
  fragment : extended.fragment = none

/-- The address can be read, and extends the URL of the endpoint. -/
def Continues (url : Url) (address path : String) (query : Option String) : Prop :=
  ∃ extended, Url.parse address.toList = .ok extended ∧ Extends url extended path query

/-- What the endpoint names is still named by the addresses that are made from it. -/
structure KeepMeaning (config : Config) (url : Url) (id : LayerId) : Prop where
  ofCapabilities : Continues url (capabilities config) "/geoserver/wms"
    (some "request=GetCapabilities&service=wms&version=1.1.1")
  ofLayer : Continues url (layer config id) ("/geoserver/rest/layers/" ++ id.text) none
  ofDocument : Continues url (layer config id ++ ".json")
    ("/geoserver/rest/layers/" ++ id.text ++ ".json") none

theorem continues_iff {l : Url.Layout} {text name : List Char} {names : List (List Char)}
    {a : Url.Authority} {address path : String} {query : Option String}
    (hclean : Url.clean text = l.render)
    (ha : Url.readAuthority .server (l.scheme.map Char.toLower) l.authority true = .ok a)
    (hopen : Url.EndsOpen text) (hnames : ∀ segment ∈ name :: names, Url.IsSegment segment)
    (hquery : ∀ q ∈ query.map String.toList, Url.Percent.encode Url.Percent.inSpecialQuery q = q ∧
      ∀ c ∈ q, c ≠ '#' ∧ Url.clean.isEdge c = false)
    (haddress : address.toList = text ++ ((Url.Path.segments (name :: names)).render ++
      Url.renderAfter '?' (query.map String.toList)))
    (hpath : path.toList = (Url.Path.segments (name :: names)).render) :
    Continues (l.url a none) address path query ↔ Url.EndsWithPath text (l.url a none) := by
  have hparse := l.parse_append_segments hclean ha hopen hnames (fun q hq => (hquery q hq).2)
  rw [← haddress] at hparse
  rw [l.endsWithPath_iff hclean]
  constructor
  . rintro ⟨extended, hextended, hextends⟩
    rw [hparse] at hextended
    obtain rfl := Except.ok.inj hextended
    have h := congrArg String.toList hextends.path
    rw [String.toList_ofList, String.toList_append, Config.toList_dropTrailingSlashes,
      String.toList_ofList, hpath, Url.Path.render_append] at h
    exact (List.append_cancel_right h).symm
  . intro h
    refine ⟨_, hparse, rfl, rfl, rfl, rfl, ?_, ?_, rfl⟩
    . apply String.toList_injective
      rw [String.toList_ofList, String.toList_append, Config.toList_dropTrailingSlashes,
        String.toList_ofList, hpath, h, Url.Path.render_append]
    . cases query with
      | none => rfl
      | some q => exact congrArg some (hquery _ rfl).1

theorem isSegment_of_isPlain {name : List Char} (hplain : ∀ c ∈ name, Url.Segments.IsPlain c)
    (hlength : 2 < name.length) : Url.IsSegment name := by
  refine ⟨hplain, Url.Segments.isName_of_isPlain hplain ?_⟩
  constructor
  . rintro rfl
    contradiction
  . rintro rfl
    contradiction

theorem isSegment_id (id : LayerId) : Url.IsSegment id.text.toList := by
  apply isSegment_of_isPlain (fun c hc => id.isPlain_of_mem hc)
  rw [id.shaped.length_eq]
  decide

theorem isSegment_document (id : LayerId) : Url.IsSegment (id.text ++ ".json").toList := by
  have hsuffix : ∀ c ∈ ".json".toList, Url.Segments.IsPlain c := by decide
  rw [String.toList_append]
  apply isSegment_of_isPlain
  . intro c hc
    rw [List.mem_append] at hc
    rcases hc with hc | hc
    . exact id.isPlain_of_mem hc
    . exact hsuffix c hc
  . rw [List.length_append, id.shaped.length_eq]
    decide

section

variable {config : Config} {l : Url.Layout} {a : Url.Authority}
  (hbase : base config = config.endpoint) (hclean : Url.clean config.endpoint.toList = l.render)
  (ha : Url.readAuthority .server (l.scheme.map Char.toLower) l.authority true = .ok a)
  (hopen : Url.EndsOpen config.endpoint.toList)

include hbase hclean ha hopen

theorem continues_capabilities_iff :
    Continues (l.url a none) (capabilities config) "/geoserver/wms"
        (some "request=GetCapabilities&service=wms&version=1.1.1") ↔
      Url.EndsWithPath config.endpoint.toList (l.url a none) := by
  have hnames : ∀ segment ∈ ["geoserver".toList, "wms".toList], Url.IsSegment segment := by
    rw [List.forall_mem_cons, List.forall_mem_singleton]
    exact ⟨isSegment_of_isPlain (by decide) (by decide),
      isSegment_of_isPlain (by decide) (by decide)⟩
  apply continues_iff hclean ha hopen hnames
  . intro q hq
    obtain rfl := Option.some.inj hq
    decide
  . rw [capabilities, hbase, String.toList_append]
    rfl
  . rfl

theorem continues_layers_iff {last : String} (hlast : Url.IsSegment last.toList) :
    Continues (l.url a none) (base config ++ "/geoserver/rest/layers/" ++ last)
        ("/geoserver/rest/layers/" ++ last) none ↔
      Url.EndsWithPath config.endpoint.toList (l.url a none) := by
  have hnames : ∀ segment ∈ ["geoserver".toList, "rest".toList, "layers".toList, last.toList],
      Url.IsSegment segment := by
    simp only [List.forall_mem_cons]
    exact ⟨isSegment_of_isPlain (by decide) (by decide),
      isSegment_of_isPlain (by decide) (by decide),
      isSegment_of_isPlain (by decide) (by decide), hlast, List.forall_mem_nil _⟩
  apply continues_iff hclean ha hopen hnames
  . intro q hq
    contradiction
  . rw [hbase]
    simp [Url.Path.render, Url.renderAfter]
  . simp [Url.Path.render]

end

/-- An accepted endpoint keeps its meaning exactly if its text and its path end at the same place;
blanks and controls at its end, which only the check drops, are left aside here. -/
theorem keepMeaning_iff {field endpoint username password : String}
    (haccepted : Check.url field (Config.ofEndpoint endpoint username password).endpoint = .ok ())
    (hopen : Url.EndsOpen (Config.ofEndpoint endpoint username password).endpoint.toList)
    (id : LayerId) : ∃ url,
      Url.parse (Config.ofEndpoint endpoint username password).endpoint.toList = .ok url ∧
        (KeepMeaning (Config.ofEndpoint endpoint username password) url id ↔
          Url.EndsWithPath (Config.ofEndpoint endpoint username password).endpoint.toList url) := by
  rcases Check.exists_of_url_eq_ok haccepted with ⟨url, hurl, hserver, hquery, hfragment⟩
  refine ⟨url, hurl, ?_⟩
  rcases Url.Layout.exists_of_parse_eq_ok hurl hserver hquery hfragment with
    ⟨l, a, hclean, ha, rfl⟩
  have hbase := base_ofEndpoint endpoint username password
  generalize Config.ofEndpoint endpoint username password = config at *
  have hdocument : layer config id ++ ".json" =
      base config ++ "/geoserver/rest/layers/" ++ (id.text ++ ".json") := by
    rw [layer, String.append_assoc]
  have hpath : "/geoserver/rest/layers/" ++ id.text ++ ".json" =
      "/geoserver/rest/layers/" ++ (id.text ++ ".json") := String.append_assoc
  constructor
  . intro h
    exact (continues_capabilities_iff hbase hclean ha hopen).1 h.ofCapabilities
  . intro h
    constructor
    case ofCapabilities => exact (continues_capabilities_iff hbase hclean ha hopen).2 h
    case ofLayer => exact (continues_layers_iff hbase hclean ha hopen (isSegment_id id)).2 h
    case ofDocument =>
      rw [hdocument, hpath]
      exact (continues_layers_iff hbase hclean ha hopen (isSegment_document id)).2 h

/-- An endpoint whose path ends on dots. -/
def mapsDirectory : Config :=
  Config.ofEndpoint "http://gis.example.org:8080/maps/." "admin" "geoserver"

theorem keepMeaning_iff_mapsDirectory :
    Check.url "geoserver.endpoint" mapsDirectory.endpoint = .ok () ∧
      Url.EndsOpen mapsDirectory.endpoint.toList ∧
      ∃ url, Url.parse mapsDirectory.endpoint.toList = .ok url ∧
        KeepMeaning mapsDirectory url Script.sampleLayer := by
  have haccepted : Check.url "geoserver.endpoint" mapsDirectory.endpoint = .ok () := by
    decide +kernel
  have hopen : Url.EndsOpen mapsDirectory.endpoint.toList := by
    decide +kernel
  have hrender : (Url.parse mapsDirectory.endpoint.toList).map (fun url => url.path.render) =
      .ok "/maps/".toList := by
    decide +kernel
  have hkept : ∃ url, Url.parse mapsDirectory.endpoint.toList = .ok url ∧
      (KeepMeaning mapsDirectory url Script.sampleLayer ↔
        Url.EndsWithPath mapsDirectory.endpoint.toList url) :=
    keepMeaning_iff haccepted hopen Script.sampleLayer
  rcases hkept with ⟨url, hurl, hiff⟩
  have hends : Url.EndsWithPath mapsDirectory.endpoint.toList url := by
    constructor
    case not_separated =>
      have hlast : (Url.clean mapsDirectory.endpoint.toList).getLast? = some '.' := by
        decide +kernel
      simp [hlast, Url.Kind.separates]
    case not_gapped =>
      have hpath : url.path.render = "/maps/".toList := by
        rw [hurl] at hrender
        exact Except.ok.inj hrender
      rw [hpath]
      decide
  exact ⟨haccepted, hopen, url, hurl, hiff.2 hends⟩

/-- An endpoint with a blank behind its port. -/
def trailingBlank : Config :=
  Config.ofEndpoint "http://127.0.0.1:1 " "admin" "geoserver"

/-- The blank is dropped from the endpoint, but not from an address. -/
theorem not_keepMeaning_of_trailingBlank :
    Check.url "geoserver.endpoint" trailingBlank.endpoint = .ok () ∧
      ∀ url, ¬KeepMeaning trailingBlank url Script.sampleLayer := by
  constructor
  . decide +kernel
  . intro url h
    rcases h.ofCapabilities with ⟨extended, hextended, _⟩
    have hfault : Url.parse (capabilities trailingBlank).toList = .error .invalidPort := by
      decide +kernel
    rw [hfault] at hextended
    contradiction

end Http.Address

end LayerCull
