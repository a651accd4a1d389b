import LayerCull.Proofs.Credentials
import LayerCull.Proofs.Wire
import LayerCull.Proofs.Workspace
import Mathlib.Data.List.Forall2

/-!
This module contains the requests that a cleanup makes of a server whose endpoint is a site in normal
form. `run_encoded` states that they are the calls, one request for each call in the same order and
with the configured credentials where the call shows them, and `wire_injective` that a request tells
which call it is.
-/

namespace LayerCull

open Dialogue

namespace Http

open Url (Kind)

/-- The method and the target by which a call is put. -/
def wire (workspace : String) : Call → Method × String
  | .capabilities => (.get, "/geoserver/wms?request=GetCapabilities&service=wms&version=1.1.1")
  | .deleteLayer id => (.delete, "/geoserver/rest/layers/" ++ id.text)
  | .deleteGroup id =>
    (.delete, "/geoserver/rest/workspaces/" ++ workspace ++ "/layergroups/" ++ id.text ++ ".json")
  | .lookup id => (.get, "/geoserver/rest/layers/" ++ id.text ++ ".json")

section Injective

theorem layer_of_append_eq {front back : String} {layer layer' : LayerId}
    (h : front ++ layer.text ++ back = front ++ layer'.text ++ back) : layer = layer' := by
  have htext := congrArg String.toList h
  simp only [String.toList_append, List.append_left_inj, List.append_right_inj] at htext
  exact LayerId.ext (String.toList_injective htext)

theorem get_ne (id : LayerId) :
    "/geoserver/wms?request=GetCapabilities&service=wms&version=1.1.1" ≠
      "/geoserver/rest/layers/" ++ id.text ++ ".json" := by
  intro h
  have hchar := congrArg (fun text => text.toList[11]?) h
  simp [String.toList_append] at hchar

theorem delete_ne (id group : LayerId) (workspace : String) :
    "/geoserver/rest/layers/" ++ id.text ≠
      "/geoserver/rest/workspaces/" ++ workspace ++ "/layergroups/" ++ group.text ++ ".json" := by
  intro h
  have hchar := congrArg (fun text => text.toList[16]?) h
  simp [String.toList_append] at hchar

theorem group_of_target_eq {workspace workspace' : String} {group group' : LayerId}
    (h : "/geoserver/rest/workspaces/" ++ workspace ++ "/layergroups/" ++ group.text ++ ".json" =
      "/geoserver/rest/workspaces/" ++ workspace' ++ "/layergroups/" ++ group'.text ++ ".json") :
    group = group' := by
  have htext := congrArg String.toList h
  simp only [String.toList_append] at htext
  have hlength : group.text.toList.length = group'.text.toList.length := by
    rw [group.shaped.length_eq, group'.shaped.length_eq]
  apply LayerId.ext
  apply String.toList_injective
  exact (List.append_inj' (List.append_cancel_right htext) hlength).2

end Injective

/-- The method and the target tell the call, whatever the workspaces are. -/
theorem wire_injective {workspace workspace' : String} {call call' : Call}
    (h : wire workspace call = wire workspace' call') : call = call' := by
  cases call with
  | capabilities =>
    cases call' with
    | capabilities => rfl
    | lookup id => exact absurd (congrArg Prod.snd h) (get_ne id)
    | deleteLayer | deleteGroup => cases congrArg Prod.fst h
  | deleteLayer layer =>
    cases call' with
    | deleteLayer layer' =>
      have htarget := congrArg (fun found => found.2 ++ "") h
      rw [layer_of_append_eq htarget]
    | deleteGroup group => exact absurd (congrArg Prod.snd h) (delete_ne layer group _)
    | capabilities | lookup => cases congrArg Prod.fst h
  | deleteGroup group =>
    cases call' with
    | deleteGroup group' => rw [group_of_target_eq (congrArg Prod.snd h)]
    | deleteLayer layer => exact absurd (congrArg Prod.snd h.symm) (delete_ne layer group _)
    | capabilities | lookup => cases congrArg Prod.fst h
  | lookup layer =>
    cases call' with
    | capabilities => exact absurd (congrArg Prod.snd h.symm) (get_ne layer)
    | lookup layer' => rw [layer_of_append_eq (congrArg Prod.snd h)]
    | deleteLayer | deleteGroup => cases congrArg Prod.fst h

/-- The endpoint is a scheme, a host and perhaps a port, and its URL is written as it is, with a slash
behind it. -/
structure IsNormalSite (endpoint : String) : Prop where
  site : Address.IsSite endpoint
  normal : ∃ url, Url.parse endpoint.toList = .ok url ∧ url.user = {} ∧
    String.ofList url.render = endpoint ++ "/"

/-- Letters and digits of ASCII, the underscore and the hyphen. -/
def isNameChar (c : Char) : Bool :=
  ('a' ≤ c && c ≤ 'z') || ('A' ≤ c && c ≤ 'Z') || ('0' ≤ c && c ≤ '9') || c == '_' || c == '-'

section Parse

theorem isPlain_of_isNameChar {c : Char} (h : isNameChar c = true) : Url.Segments.IsPlain c := by
  have hascii : c.toNat < 0x80 := by
    simp only [isNameChar, Bool.or_eq_true, Bool.and_eq_true, decide_eq_true_eq,
      beq_iff_eq] at h
    rcases h with (((⟨_, hlower⟩ | ⟨_, hupper⟩) | ⟨_, hdigit⟩) | rfl) | rfl
    . exact Nat.lt_of_le_of_lt hlower (by decide)
    . exact Nat.lt_of_le_of_lt hupper (by decide)
    . exact Nat.lt_of_le_of_lt hdigit (by decide)
    . decide
    . decide
  have hall : ∀ n < 0x80, isNameChar (Char.ofNat n) = true →
      Url.Segments.IsPlain (Char.ofNat n) := by
    decide
  exact Text.forall_of_toNat_lt (P := fun d => isNameChar d = true → Url.Segments.IsPlain d) hall
    hascii h

theorem isSegment_of_isNameChar {workspace : String}
    (h : ∀ c ∈ workspace.toList, isNameChar c = true) : Url.IsSegment workspace.toList := by
  have hplain : ∀ c ∈ workspace.toList, Url.Segments.IsPlain c :=
    fun c hc => isPlain_of_isNameChar (h c hc)
  have hdot : '.' ∉ workspace.toList := by
    intro hmem
    exact absurd (h '.' hmem) (by decide)
  refine ⟨hplain, Url.Segments.isName_of_isPlain hplain ?_⟩
  constructor
  . intro hone
    rw [hone] at hdot
    exact hdot (by decide)
  . intro htwo
    rw [htwo] at hdot
    exact hdot (by decide)

/-- The names in the path of a call's address, after the first one. -/
def names (workspace : String) : Call → List (List Char)
  | .capabilities => ["wms".toList]
  | .deleteLayer id => ["rest".toList, "layers".toList, id.text.toList]
  | .deleteGroup id => Address.groupNames workspace.toList id
  | .lookup id => ["rest".toList, "layers".toList, (id.text ++ ".json").toList]

def query? : Call → Option (List Char)
  | .capabilities => some "request=GetCapabilities&service=wms&version=1.1.1".toList
  | _ => none

theorem toList_wire (workspace : String) (call : Call) :
    (wire workspace call).2.toList =
      (Url.Path.segments ("geoserver".toList :: names workspace call)).render ++
        Url.renderAfter '?' (query? call) := by
  cases call <;>
    simp [wire, names, query?, Url.Path.render, Url.renderAfter, Address.groupNames]

theorem toList_ofCall {config : Config} (hbase : Address.base config = config.endpoint)
    (call : Call) : (Address.ofCall config call).toList =
      config.endpoint.toList ++ (wire config.workspace call).2.toList := by
  cases call <;>
    simp [Address.ofCall, Address.capabilities, Address.layer, Address.layerGroup, hbase, wire]

theorem isSegment_names {workspace : String} (h : ∀ c ∈ workspace.toList, isNameChar c = true)
    (call : Call) : ∀ name ∈ "geoserver".toList :: names workspace call, Url.IsSegment name := by
  have hgeoserver : Url.IsSegment "geoserver".toList :=
    Address.isSegment_of_isPlain (by decide) (by decide)
  have hrest : Url.IsSegment "rest".toList :=
    Address.isSegment_of_isPlain (by decide) (by decide)
  have hlayers : Url.IsSegment "layers".toList :=
    Address.isSegment_of_isPlain (by decide) (by decide)
  cases call with
  | capabilities =>
    rw [names, List.forall_mem_cons, List.forall_mem_singleton]
    exact ⟨hgeoserver, Address.isSegment_of_isPlain (by decide) (by decide)⟩
  | deleteLayer id =>
    simp only [names, List.forall_mem_cons]
    exact ⟨hgeoserver, hrest, hlayers, Address.isSegment_id id, List.forall_mem_nil _⟩
  | deleteGroup id =>
    simp only [names, Address.groupNames, List.forall_mem_cons]
    exact ⟨hgeoserver, hrest, Address.isSegment_of_isPlain (by decide) (by decide),
      isSegment_of_isNameChar h, Address.isSegment_of_isPlain (by decide) (by decide),
      Address.isSegment_document id, List.forall_mem_nil _⟩
  | lookup id =>
    simp only [names, List.forall_mem_cons]
    exact ⟨hgeoserver, hrest, hlayers, Address.isSegment_document id, List.forall_mem_nil _⟩

theorem query?_plain (call : Call) : ∀ q ∈ query? call,
    Url.Percent.encode Url.Percent.inSpecialQuery q = q ∧
      ∀ c ∈ q, c ≠ '#' ∧ Url.clean.isEdge c = false := by
  intro q hq
  cases call with
  | capabilities =>
    obtain rfl := Option.some.inj hq
    decide
  | deleteLayer | deleteGroup | lookup => contradiction

theorem takeUser_of_no_user {url : Url} (h : url.user = {}) : Request.takeUser url = (none, url) := by
  unfold Request.takeUser
  rw [h]
  have hempty : Utf8.decode? (Url.Percent.decode []) = some [] := by decide +kernel
  rw [hempty]
  rfl

/-- The address of a call is read as the endpoint and the target. -/
theorem exists_parse_ofCall {config : Config} {field : String}
    (hsite : IsNormalSite config.endpoint) (hendpoint : Check.url field config.endpoint = .ok ())
    (hworkspace : ∀ c ∈ config.workspace.toList, isNameChar c = true) (call : Call) :
    ∃ url host, Url.parse (Address.ofCall config call).toList = .ok url ∧ url.user = {} ∧
      url.scheme = "http".toList ∧ url.host = some host ∧ host.render ≠ [] ∧
      config.endpoint.toList = "http://".toList ++ (host.render ++ Url.renderPort url.port) ∧
      url.path.render ++ Url.renderAfter '?' url.query = (wire config.workspace call).2.toList ∧
      url.render = config.endpoint.toList ++ (wire config.workspace call).2.toList := by
  rcases Check.exists_of_url_eq_ok hendpoint with ⟨url, hurl, hserver, hquery, hfragment⟩
  rcases Url.Layout.exists_of_parse_eq_ok hurl hserver hquery hfragment with
    ⟨l, a, hclean, ha, rfl⟩
  have hpath := Address.path_of_isSite hsite.site hclean
  have hscheme := Address.scheme_of_isSite hsite.site hclean
  have hnormal : a.user = {} ∧ (l.url a none).render = config.endpoint.toList ++ ['/'] := by
    rcases hsite.normal with ⟨url, hurl', huser, hrender⟩
    rw [hurl] at hurl'
    obtain rfl := Except.ok.inj hurl'
    refine ⟨huser, ?_⟩
    have htext := congrArg String.toList hrender
    rw [String.toList_ofList, String.toList_append] at htext
    exact htext
  have hfront : config.endpoint.toList =
      "http://".toList ++ (a.host.render ++ Url.renderPort a.port) := by
    have hrender := hnormal.2
    rw [Url.render, l.path_url, if_pos hpath] at hrender
    simp only [Url.Layout.url, Url.renderAfter, Option.map_none, List.append_nil, hscheme,
      Url.renderAuthority, hnormal.1] at hrender
    exact (List.append_cancel_right hrender).symm
  have hparse := l.parse_append_segments hclean ha
    (Url.endsOpen_of_isEdge (Address.isEdge_of_isSite hsite.site)) (isSegment_names hworkspace call)
    (fun q hq => (query?_plain call q hq).2)
  rw [← toList_wire, ← toList_ofCall (Address.base_of_isSite hsite.site hclean), hpath] at hparse
  have hquery : (query? call).map (Url.Percent.encode Url.Percent.inSpecialQuery) = query? call := by
    cases hq : query? call with
    | none => rfl
    | some q => exact congrArg some (query?_plain call q hq).1
  refine ⟨_, a.host, hparse, hnormal.1, hscheme, rfl, Url.render_ne_nil_of_readAuthority ha, hfront,
    ?_, ?_⟩
  . dsimp only [Url.Layout.url]
    rw [hquery, toList_wire]
    rfl
  . rw [hfront, toList_wire, Url.render]
    dsimp only [Url.Layout.url]
    rw [hquery, hscheme, Url.renderAuthority, hnormal.1]
    simp [Url.renderAfter, Url.written]
    rfl

end Parse

/-- The request puts the call, with the configured credentials unless it is the one for the
capabilities. -/
structure Encodes (config : Config) (call : Call) (request : Request) : Prop where
  method : request.method = (wire config.workspace call).1
  address : String.ofList request.url.render = config.endpoint ++ (wire config.workspace call).2
  target : request.target = (wire config.workspace call).2
  authorization : request.authorization =
    match call with
    | .capabilities => []
    | .deleteLayer _ | .deleteGroup _ | .lookup _ =>
      ["Basic " ++ String.ofList (Base64.encode (Utf8.encode
        (config.username ++ ":" ++ config.password).toList))]

/-- The server reads the configured credentials in the request. A name with a colon in it cannot be told
from the password. -/
structure Identifies (config : Config) (request : Request) : Prop where
  text : request.authorization.map Credentials.text? =
    [some (config.username ++ ":" ++ config.password)]
  parts : ':' ∉ config.username.toList →
    request.authorization.map Credentials.read? = [some (config.username, config.password)]

/-- The client sends nothing for the call: it cannot name the host on the wire, or the address is too
long for it. -/
def isRefused (config : Config) (call : Call) : Bool :=
  config.endpoint.toList.any Request.breaksHost ||
    Request.maxLength < (config.endpoint ++ (wire config.workspace call).2).length

/-- The requests put the calls that the client does not refuse, in their order. Each request tells its
call, and who is asking unless it is the one for the capabilities. -/
structure Encoded (config : Config) (upper : Transcript Call Answer Summary)
    (lower : Transcript Request Delivery Summary) : Prop where
  result : lower.result = upper.result
  events : progress lower.entries = progress upper.entries
  sent : List.Forall₂ (Encodes config)
    ((questions upper.entries).filter fun call => !isRefused config call) (questions lower.entries)
  complete : (∀ call ∈ questions upper.entries, isRefused config call = false) →
    List.Forall₂ (Encodes config) (questions upper.entries) (questions lower.entries)
  told : ∀ (other : Config) call call' request request', Encodes config call request →
    Encodes other call' request' → request'.method = request.method →
    request'.target = request.target → call' = call
  identified : ∀ call request, Encodes config call request → call ≠ .capabilities →
    Identifies config request

theorem identifies_of_encodes {config : Config} {call : Call} {request : Request}
    (h : Encodes config call request) (hcall : call ≠ .capabilities) :
    Identifies config request := by
  have hheader := h.authorization
  have htext := Credentials.text?_append_encode (config.username ++ ":" ++ config.password)
  cases call with
  | capabilities => exact absurd rfl hcall
  | deleteLayer | deleteGroup | lookup =>
    dsimp only at hheader
    constructor
    case text => rw [hheader, List.map_singleton, htext]
    case parts =>
      intro hname
      rw [hheader, List.map_singleton, Credentials.read?_of_text? htext hname]

section Encoded

theorem breaksHost_of_isDigit {c : Char} (h : c.isDigit = true) : Request.breaksHost c = false := by
  rw [Bool.eq_false_iff]
  intro hbreaks
  simp only [Request.breaksHost, Bool.or_eq_true, beq_iff_eq] at hbreaks
  rcases hbreaks with ((rfl | rfl) | rfl) | rfl <;> exact absurd h (by decide)

theorem any_breaksHost_renderPort (port : Option Nat) :
    (Url.renderPort port).any Request.breaksHost = false := by
  cases port with
  | none => rfl
  | some port =>
    rw [Url.renderPort, List.any_cons, Nat.toString_eq_ofList_toDigits, String.toList_ofList,
      Bool.or_eq_false_iff, List.any_eq_false]
    refine ⟨by decide, ?_⟩
    intro c hc
    rw [breaksHost_of_isDigit (Nat.isDigit_of_mem_toDigits (by decide) (by decide) hc)]
    exact Bool.false_ne_true

variable {config : Config} {field : String} (hsite : IsNormalSite config.endpoint)
  (hendpoint : Check.url field config.endpoint = .ok ())
  (hworkspace : ∀ c ∈ config.workspace.toList, isNameChar c = true)

include hsite hendpoint hworkspace

/-- Either the call is refused, or its address is read as that of a request that puts the call. -/
theorem encodes_or_isRefused (call : Call) :
    (isRefused config call = true ∧ request? config call = none) ∨
      isRefused config call = false ∧
        ∃ request, request? config call = some request ∧ Encodes config call request := by
  rcases exists_parse_ofCall hsite hendpoint hworkspace call with
    ⟨url, host, hurl, huser, hscheme, hhost, hname, hfront, htarget, hrender⟩
  have htake := takeUser_of_no_user huser
  have hsendable : Request.isSendable url = !isRefused config call := by
    have hlength : url.render.length =
        (config.endpoint ++ (wire config.workspace call).2).length := by
      rw [hrender, ← String.toList_append, String.length_toList]
    have hany : config.endpoint.toList.any Request.breaksHost =
        host.render.any Request.breaksHost := by
      rw [hfront, List.any_append, List.any_append, any_breaksHost_renderPort, Bool.or_false]
      rfl
    have hnamed : host.render.isEmpty = false := List.isEmpty_eq_false_iff.2 hname
    rw [Request.isSendable, isRefused, hscheme, hhost, hlength, hany]
    simp [hnamed, ← decide_not]
  cases hrefused : isRefused config call with
  | true =>
    rw [hrefused] at hsendable
    have hnone := build_eq_error_iff.2 (.inr ⟨url, hurl, by rw [htake]; exact hsendable, rfl⟩)
    rw [request?, hnone]
    exact .inl ⟨rfl, rfl⟩
  | false =>
    rw [hrefused] at hsendable
    have hsome := build_eq_ok_iff.2 ⟨url, hurl, by rw [htake]; exact hsendable, rfl⟩
    rw [request?, hsome, htake]
    refine .inr ⟨rfl, _, rfl, ?_⟩
    constructor
    case method => cases call <;> rfl
    case address =>
      apply String.toList_injective
      rw [String.toList_ofList, String.toList_append]
      exact hrender
    case target =>
      apply String.toList_injective
      rw [Request.target, String.toList_ofList]
      exact htarget
    case authorization =>
      cases call with
      | capabilities => rfl
      | deleteLayer | deleteGroup | lookup =>
        exact congrArg (fun header => [header]) (Credentials.basicCredentials_eq _ _)

theorem encodes_requests (calls : List Call) :
    List.Forall₂ (Encodes config) (calls.filter fun call => !isRefused config call)
      (calls.filterMap (request? config)) := by
  induction calls with
  | nil => exact .nil
  | cons call calls ih =>
    rcases encodes_or_isRefused hsite hendpoint hworkspace call with
      ⟨hrefused, hnone⟩ | ⟨hrefused, request, hsome, hencodes⟩
    . rw [List.filter_cons_of_neg (by simp [hrefused]), List.filterMap_cons_none hnone]
      exact ih
    . rw [List.filter_cons_of_pos (by simp [hrefused]), List.filterMap_cons_some hsome]
      exact .cons hencodes ih

end Encoded

end Http

/-- Over the wire a cleanup makes one request for each call, if the endpoint is a site in normal form
and the workspace is a plain name. -/
theorem Cleanup.run_encoded {config : Config} (hvalid : config.validate = .ok ())
    (hsite : Http.IsNormalSite config.endpoint)
    (hworkspace : ∀ c ∈ config.workspace.toList, Http.isNameChar c = true) (policy : Policy)
    {σ : Type} (respond : Counterpart Http.Request Http.Delivery σ) (state : σ) :
    Http.Encoded config ((Cleanup.run policy).run (Http.answering config respond) state).1
      ((Http.overWire config (Cleanup.run policy)).run respond state).1 := by
  rcases Url.exists_of_bind_eq_ok hvalid with ⟨_, hendpoint, _⟩
  have hcarried := Http.carried_overWire config respond (Cleanup.run policy) state
  have hsent := Http.encodes_requests hsite hendpoint hworkspace
    (questions ((Cleanup.run policy).run (Http.answering config respond) state).1.entries)
  rw [← hcarried.questions_eq] at hsent
  constructor
  case result => exact hcarried.result
  case events => exact hcarried.progress_eq
  case sent => exact hsent
  case complete =>
    intro hall
    rw [List.filter_eq_self.2 (by simpa using hall)] at hsent
    exact hsent
  case told =>
    intro other call call' request request' h h' hmethod htarget
    rw [h.method, h'.method] at hmethod
    rw [h.target, h'.target] at htarget
    exact Http.wire_injective (Prod.ext hmethod htarget)
  case identified => exact fun call request => Http.identifies_of_encodes

/-- A server at hand, under its name and port. -/
def localConfig : Config :=
  Config.ofEndpoint "http://localhost:8080" "admin" "geoserver"

theorem isNormalSite_localConfig : Http.IsNormalSite localConfig.endpoint := by
  have hparse : (Url.parse localConfig.endpoint.toList).map
      (fun url => (url.user, String.ofList url.render)) = .ok ({}, "http://localhost:8080/") := by
    decide +kernel
  constructor
  case site => exact ⟨"localhost:8080", by decide +kernel, by decide +kernel⟩
  case normal =>
    cases hurl : Url.parse localConfig.endpoint.toList with
    | error fault =>
      rw [hurl] at hparse
      contradiction
    | ok url =>
      rw [hurl] at hparse
      have hparts := Prod.mk.inj (Except.ok.inj hparse)
      exact ⟨url, rfl, hparts.1, hparts.2⟩

/-- Reports a layer, refuses to delete it before its group is gone, and finds it gone in the
end. -/
def groupedAndGone : Nat → Http.Delivery
  | 0 => .answered 200 (Utf8.encode (Marker.metadataFailure.saying Script.sampleLayer).toList)
  | 1 => .answered 500 (Utf8.encode (Marker.groupReference.saying Script.sampleGroup).toList)
  | 4 => .answered 404 []
  | _ => .answered 200 []

theorem Cleanup.run_encoded_localConfig :
    localConfig.validate = .ok () ∧ Http.IsNormalSite localConfig.endpoint ∧
      (∀ c ∈ localConfig.workspace.toList, Http.isNameChar c = true) ∧
      (questions ((Http.overWire localConfig (Cleanup.run ⟨1, true, false⟩)).run
          (inTurn groupedAndGone) 0).1.entries).map
          (fun request => (request.method, request.target, request.authorization)) =
        [(.get, "/geoserver/wms?request=GetCapabilities&service=wms&version=1.1.1", []),
          (.delete, "/geoserver/rest/layers/3f2b8c1e-0d4a-4b6f-9e57-a1c2d3e4f506",
            ["Basic YWRtaW46Z2Vvc2VydmVy"]),
          (.delete, "/geoserver/rest/workspaces/piazza/layergroups/" ++
            "9c0d7a52-61be-4f38-8a24-0b1c2d3e4f5a.json", ["Basic YWRtaW46Z2Vvc2VydmVy"]),
          (.delete, "/geoserver/rest/layers/3f2b8c1e-0d4a-4b6f-9e57-a1c2d3e4f506",
            ["Basic YWRtaW46Z2Vvc2VydmVy"]),
          (.get, "/geoserver/rest/layers/3f2b8c1e-0d4a-4b6f-9e57-a1c2d3e4f506.json",
            ["Basic YWRtaW46Z2Vvc2VydmVy"]),
          (.get, "/geoserver/wms?request=GetCapabilities&service=wms&version=1.1.1", [])] ∧
      Http.Encoded localConfig
        ((Cleanup.run ⟨1, true, false⟩).run
          (Http.answering localConfig (inTurn groupedAndGone)) 0).1
        ((Http.overWire localConfig (Cleanup.run ⟨1, true, false⟩)).run
          (inTurn groupedAndGone) 0).1 := by
  have hvalid : localConfig.validate = .ok () := by decide +kernel
  have hworkspace : ∀ c ∈ localConfig.workspace.toList, Http.isNameChar c = true := by
    decide +kernel
  exact ⟨hvalid, isNormalSite_localConfig, hworkspace, by decide +kernel,
    Cleanup.run_encoded hvalid isNormalSite_localConfig hworkspace ⟨1, true, false⟩
      (inTurn groupedAndGone) 0⟩

end LayerCull
