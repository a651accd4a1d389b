import LayerCull.Config.File
import LayerCull.Proofs.Substitution
import LayerCull.Proofs.Toml.Twin
import LayerCull.Proofs.Toml.Verbatim

/-!
This module contains what becomes of a password that a document takes from the environment. References
are replaced before the document is read, so the value is read as a part of the document: it arrives
if each of its characters stands for itself, and otherwise there is a document in which it does not.
-/

namespace LayerCull

namespace Settings

open Toml Reference

/-- The line that gives a text to the password, between double marks. -/
def passwordLine (text : List Char) : List Char :=
  "password = \"".toList ++ text ++ ['"']

theorem toList_passwordStart : "password = \"".toList =
    ['p', 'a', 's', 's', 'w', 'o', 'r', 'd', ' ', '=', ' ', '"'] := by
  decide

/-- The rest of a line is empty. -/
def LineEnds (rest : List Char) : Prop :=
  rest = [] ∨ ∃ more, rest = '\n' :: more ∨ rest = '\r' :: '\n' :: more

theorem LineEnds.expand {rest : List Char} (h : LineEnds rest) (env : Environment) :
    LineEnds (expand env rest) := by
  obtain rfl | ⟨more, rfl | rfl⟩ := h
  . exact .inl (expand_nil env)
  . exact .inr ⟨_, .inl (expand_cons_of_ne env (by decide) more)⟩
  . refine .inr ⟨Reference.expand env more, .inr ?_⟩
    rw [expand_cons_of_ne env (by decide), expand_cons_of_ne env (by decide)]

theorem LineEnds.head?_ne {rest : List Char} (h : LineEnds rest) {c : Char} (hline : c ≠ '\n')
    (hreturn : c ≠ '\r') : rest.head? ≠ some c := by
  obtain rfl | ⟨more, rfl | rfl⟩ := h
  . simp
  . simpa using hline.symm
  . simpa using hreturn.symm

theorem LineEnds.exists_dropLine {rest : List Char} (h : LineEnds rest) :
    ∃ after, dropLine false rest = some after := by
  obtain rfl | ⟨more, rfl | rfl⟩ := h
  . exact ⟨[], rfl⟩
  . exact ⟨more, rfl⟩
  . exact ⟨more, rfl⟩

theorem passwordLine_append (text rest : List Char) : passwordLine text ++ rest =
    'p' :: 'a' :: 's' :: 's' :: 'w' :: 'o' :: 'r' :: 'd' :: ' ' :: '=' :: ' ' :: '"' ::
      (text ++ '"' :: rest) := by
  unfold passwordLine
  rw [toList_passwordStart]
  simp only [List.cons_append, List.append_assoc, List.nil_append]

theorem length_passwordLine_append (text rest : List Char) :
    (passwordLine text ++ rest).length = text.length + rest.length + 13 := by
  rw [passwordLine_append]
  simp only [List.length_cons, List.length_append]
  omega

theorem passwordLine_append_ne_nil (text rest : List Char) : passwordLine text ++ rest ≠ [] := by
  rw [passwordLine_append]
  exact List.cons_ne_nil _ _

theorem dropFiller_passwordLine (text rest : List Char) :
    dropFiller false (passwordLine text ++ rest) = some (passwordLine text ++ rest) := by
  rw [passwordLine_append]
  rfl

theorem statement?_passwordLine (text rest : List Char) :
    statement? (passwordLine text ++ rest) =
      (string? ('"' :: (text ++ '"' :: rest))).map fun (string, rest) =>
        (.assignment ["password"] (.string (String.ofList string)), rest) := by
  rw [passwordLine_append]
  have hname : String.ofList ['p', 'a', 's', 's', 'w', 'o', 'r', 'd'] = "password" := by decide
  have hequals := dropGap_blank_cons (c := '=') (by decide) (' ' :: '"' :: (text ++ '"' :: rest))
  have hquote := dropGap_blank_cons (c := '"') (by decide) (text ++ '"' :: rest)
  have hkey := Key.parts?_of_isBare 79 'p' ['a', 's', 's', 'w', 'o', 'r', 'd']
    (' ' :: '=' :: ' ' :: '"' :: (text ++ '"' :: rest)) (by decide) rfl
    (by rw [hequals, List.head?_cons]; decide)
  rw [hname, hequals] at hkey
  rw [statement?.eq_3, assignment?, key?, maxDepth]
  . simp only [List.cons_append, List.nil_append] at hkey
    rw [hkey]
    simp only [Option.bind_eq_bind, Option.bind_some, hquote]
    rw [value?]
    cases string? ('"' :: (text ++ '"' :: rest)) <;> rfl
  . intro more heq
    exact absurd (List.cons.inj heq).1 (by decide)
  . intro more heq
    exact absurd (List.cons.inj heq).1 (by decide)

theorem reads_passwordLine_iff {text rest after : List Char} (htext : ∀ c ∈ text, isVerbatim c)
    (hrest : LineEnds rest) (hafter : dropLine false rest = some after) {statements : List Statement} :
    Reads (passwordLine text ++ rest) statements ↔ ∃ others,
      statements = .assignment ["password"] (.string (String.ofList text)) :: others ∧
        Reads after others := by
  apply Reads.iff_of_line (dropFiller_passwordLine text rest) (passwordLine_append_ne_nil text rest)
    _ hafter
  rw [statement?_passwordLine, string?_of_isVerbatim htext (hrest.head?_ne (by decide) (by decide))]
  rfl

section Twin

variable {s t : String} {document document' : Fields}

theorem lookupSection?_of_ne (h : Fields.Twin s t "geoserver" ["password"] document document')
    (name : String) (hne : name ≠ "geoserver") (names : List String) :
    lookupSection? document' name names = lookupSection? document name names := by
  rw [lookupSection?, lookupSection?, h.lookup_of_ne hne]

theorem exists_section_of_twin (h : Fields.Twin s t "geoserver" ["password"] document document')
    {names : List String} (hnames : names.contains "password") {found : Section}
    (hfound : lookupSection? document "geoserver" names = some found) :
    ∃ found', lookupSection? document' "geoserver" names = some found' ∧
      found "password" = some (.string s) ∧ found' "password" = some (.string t) ∧
        ∀ name ≠ "password", found' name = found name := by
  obtain ⟨_, _, hlookup, hvalue, rfl⟩ := h
  cases hvalue with
  | table hpassword hstring =>
    cases hstring with
    | text =>
      simp only [lookupSection?, hlookup, section?] at hfound
      simp only [lookupSection?, Fields.lookup_set_self hlookup, section?]
      rw [Fields.all_set fun value => by simp only [hnames, Bool.true_or]]
      split at hfound
      . next hreadable =>
        obtain rfl := Option.some.inj hfound
        refine ⟨_, if_pos hreadable, hpassword, Fields.lookup_set_self hpassword, ?_⟩
        intro name hne
        exact Fields.lookup_set_of_ne hne
      . contradiction

theorem ofDocument?_twin (h : Fields.Twin s t "geoserver" ["password"] document document')
    {settings : Settings} (hread : ofDocument? document = some settings) :
    settings.password = some s ∧
      ofDocument? document' = some { settings with password := some t } := by
  have hall : ∀ p : String × Value → Bool, (∀ value, p ("geoserver", value)) →
      document'.all p = document.all p := by
    intro p hp
    obtain ⟨_, _, _, _, rfl⟩ := h
    exact Fields.all_set hp
  have hcleanup := lookupSection?_of_ne h "cleanup" (by decide)
  have hhttp := lookupSection?_of_ne h "http" (by decide)
  rw [ofDocument?, hall _ fun value => rfl]
  simp only [ofDocument?] at hread
  simp only [hcleanup, hhttp]
  split at hread
  . contradiction
  . next hreadable =>
    simp only [Option.bind_eq_bind, Option.bind_eq_some_iff] at hread
    rcases hread with ⟨geoserver, hgeoserver, cleanup, hcleanup', http, hhttp', endpoint, hendpoint,
      username, husername, password, hpassword, workspace, hworkspace, iterations, hiterations,
      verify, hverify, timeout, htimeout, heq⟩
    obtain rfl := Option.some.inj heq
    rcases exists_section_of_twin h (by decide) hgeoserver with
      ⟨geoserver', hgeoserver', hs, ht, hsame⟩
    have hfield : ∀ name ≠ "password", field? readString? geoserver' name =
        field? readString? geoserver name := by
      intro name hne
      rw [field?, field?, hsame name hne]
    have hread : field? readString? geoserver' "password" = some (some t) := by
      rw [field?, ht]
      rfl
    rw [field?, hs] at hpassword
    obtain rfl := Option.some.inj hpassword
    refine ⟨rfl, ?_⟩
    rw [if_neg hreadable]
    simp only [hgeoserver', hcleanup', hhttp', hfield "endpoint" (by decide),
      hfield "username" (by decide), hfield "workspace" (by decide), hread, hendpoint, husername,
      hworkspace, hiterations, hverify, htimeout, Option.bind_eq_bind, Option.bind_some]
    rfl

end Twin

section Lines

variable {before rest : List Char} {statements : List Statement} {settings : Settings}

/-- The text that is given to the password decides over the password, and nothing else. -/
theorem ofDocument?_of_assigned (h : Draft.EndsUnder "geoserver" statements) {others : List Statement}
    {s : String} {draft : Draft}
    (hdraft : (statements ++ .assignment ["password"] (.string s) :: others).foldlM Draft.add {} =
      some draft) (hread : ofDocument? draft.root = some settings) (t : String) :
    settings.password = some s ∧ ∃ draft',
      (statements ++ .assignment ["password"] (.string t) :: others).foldlM Draft.add {} = some draft' ∧
        ofDocument? draft'.root = some { settings with password := some t } := by
  rw [List.foldlM_append, Option.bind_eq_bind, Option.bind_eq_some_iff] at hdraft
  rcases hdraft with ⟨draft₀, hstart, hdraft⟩
  -- The line makes twins of the two drafts, and no later line tells them apart.
  have htwin := rel_bind ((Draft.isUnder_of_endsUnder h hstart).twin "password" s t)
    fun _ _ hnext => hnext.foldlM others
  rw [← List.foldlM_cons, ← List.foldlM_cons, hdraft] at htwin
  rcases exists_of_rel_some htwin with ⟨draft', hdraft', htwin⟩
  rcases ofDocument?_twin htwin.1 hread with ⟨hpassword, hread'⟩
  refine ⟨hpassword, draft', ?_, hread'⟩
  rw [List.foldlM_append, hstart]
  exact hdraft'

section Before

variable (hbefore : EndsLine before) (hstatements : Reads (dropMark before) statements)

include hbefore hstatements

/-- What stands before the line is read first. -/
theorem parse?_passwordLine {text : List Char} {document : Fields} :
    parse? (before ++ (passwordLine text ++ rest)) = some document ↔ ∃ others draft,
      Reads (passwordLine text ++ rest) others ∧
        (statements ++ others).length ≤ (dropMark before).length + (passwordLine text ++ rest).length ∧
          (statements ++ others).foldlM Draft.add {} = some draft ∧ draft.root = document := by
  rw [parse?_eq_some_iff, dropMark_append hbefore.ne_nil, List.length_append]
  simp only [hstatements.append_iff (.inr hbefore.dropMark)]
  constructor
  . rintro ⟨_, draft, ⟨others, rfl, hothers⟩, hlength, hdraft, hroot⟩
    exact ⟨others, draft, hothers, hlength, hdraft, hroot⟩
  . rintro ⟨others, draft, hothers, hlength, hdraft, hroot⟩
    exact ⟨_, draft, ⟨others, rfl, hothers⟩, hlength, hdraft, hroot⟩

variable (hunder : Draft.EndsUnder "geoserver" statements)

include hunder

theorem passwordLine_arrives (hrest : LineEnds rest) {text : List Char}
    (htext : ∀ c ∈ text, isVerbatim c)
    (hread : (parse? (before ++ (passwordLine [] ++ rest))).bind ofDocument? = some settings) :
    (parse? (before ++ (passwordLine text ++ rest))).bind ofDocument? =
      some { settings with password := some (String.ofList text) } := by
  rcases hrest.exists_dropLine with ⟨after, hafter⟩
  rcases Option.bind_eq_some_iff.1 hread with ⟨document, hparse, hdocument⟩
  rcases (parse?_passwordLine hbefore hstatements).1 hparse with
    ⟨_, draft, hline, hlength, hdraft, rfl⟩
  rcases (reads_passwordLine_iff (List.forall_mem_nil _) hrest hafter).1 hline with
    ⟨others, rfl, hothers⟩
  rcases ofDocument?_of_assigned hunder hdraft hdocument (String.ofList text) with
    ⟨_, draft', hdraft', hdocument'⟩
  apply Option.bind_eq_some_iff.2
  have hline' := (reads_passwordLine_iff htext hrest hafter).2 ⟨others, rfl, hothers⟩
  refine ⟨draft'.root, (parse?_passwordLine hbefore hstatements).2 ?_, hdocument'⟩
  refine ⟨_, draft', hline', ?_, hdraft', rfl⟩
  -- The longer line leaves at least as many statements to the limit.
  rw [length_passwordLine_append, List.length_append, List.length_cons] at hlength ⊢
  rw [List.length_nil] at hlength
  omega

theorem exists_string_of_passwordLine {text : List Char}
    (hread : (parse? (before ++ (passwordLine text ++ rest))).bind ofDocument? = some settings) :
    ∃ string after, string? ('"' :: (text ++ '"' :: rest)) = some (string, after) ∧
      settings.password = some (String.ofList string) := by
  rcases Option.bind_eq_some_iff.1 hread with ⟨document, hparse, hdocument⟩
  rcases (parse?_passwordLine hbefore hstatements).1 hparse with ⟨_, draft, hline, _, hdraft, rfl⟩
  cases hline with
  | nil hfiller =>
    rw [dropFiller_passwordLine] at hfiller
    exact absurd (Option.some.inj hfiller) (passwordLine_append_ne_nil text rest)
  | cons hfiller _ hline _ _ =>
    obtain rfl := Option.some.inj ((dropFiller_passwordLine text rest).symm.trans hfiller)
    rw [statement?_passwordLine, Option.map_eq_some_iff] at hline
    rcases hline with ⟨⟨string, after⟩, hstring, heq⟩
    obtain ⟨rfl, rfl⟩ := Prod.mk.inj heq
    exact ⟨string, after, hstring, (ofDocument?_of_assigned hunder hdraft hdocument "").1⟩

end Before

end Lines

/-- A place where the password is taken from a variable that is named nowhere else: whole lines, of
which the last header is that of the section, and the rest of the text after the line. -/
structure IsPlace (env : Environment) (name : String) (before after : List Char) : Prop where
  endsLine : EndsLine before
  /-- No opening mark before the line makes the line part of a name. -/
  closed : Closed before
  inSection : ∃ statements,
    Reads (dropMark (expand env before)) statements ∧ Draft.EndsUnder "geoserver" statements
  lineEnds : LineEnds after
  not_before : name ∉ names before
  not_after : name ∉ names after

/-- The text, with the reference in its place. -/
def placed (name : String) (before after : List Char) : String :=
  String.ofList (before ++ (passwordLine (written name.toList) ++ after))

/-- The variable has this value. -/
def bound (env : Environment) (name text : String) : Environment :=
  Function.update env name (some text)

theorem expand_bound_of_not_mem {env : Environment} {name : String} {text : List Char}
    (h : name ∉ names text) (value : String) : expand (bound env name value) text = expand env text := by
  apply expand_congr
  intro other hmem
  apply Function.update_of_ne
  rintro rfl
  exact h hmem

theorem expand_passwordLine (env : Environment) {name : String} (hname : IsName name.toList)
    {text : String} (htext : env name = some text) {rest : List Char} :
    expand env (passwordLine (written name.toList) ++ rest) =
      passwordLine text.toList ++ expand env rest := by
  have hvalue : value env name.toList = text.toList := by
    rw [value, String.ofList_toList, htext]
  unfold passwordLine
  rw [List.append_assoc (_ ++ _) ['"'],
    expand_settled_append env (settled_of_not_mem (by rw [toList_passwordStart]; decide)) hname, hvalue,
    List.singleton_append, expand_cons_of_ne env (by decide), List.append_assoc _ ['"'],
    List.singleton_append]

theorem endsLine_expand (env : Environment) {text : List Char} (h : EndsLine text)
    (hclosed : Closed text) : EndsLine (expand env text) := by
  obtain ⟨front, rfl⟩ := List.getLast?_eq_some_iff.1 h
  have hfront : Closed front := hclosed.of_append_singleton (by decide)
  rw [expand_append env hfront (by decide), expand_cons_of_ne env (by decide)]
  simp [EndsLine, Reference.expand, pieces]

theorem expand_placed {env : Environment} {name : String} {before after : List Char}
    (h : IsPlace env name before after) (hname : IsName name.toList) (text : String) :
    expand (bound env name text) (placed name before after).toList =
      expand env before ++ (passwordLine text.toList ++ expand env after) := by
  have htext : bound env name text name = some text := Function.update_self ..
  have hhead : (passwordLine (written name.toList) ++ after).head? ≠ some opening := by
    rw [passwordLine_append, List.head?_cons]
    decide
  rw [placed, String.toList_ofList, expand_append _ h.closed hhead,
    expand_bound_of_not_mem h.not_before, expand_passwordLine _ hname htext,
    expand_bound_of_not_mem h.not_after]

theorem ofText_eq_ok_iff {env : Environment} {text : String} {settings : Settings} :
    ofText env text = .ok settings ↔
      (parse? (expand env text.toList)).bind ofDocument? = some settings := by
  unfold ofText
  cases (parse? (expand env text.toList)).bind ofDocument? <;> simp

theorem ofText_eq_error {env : Environment} {text : String}
    (h : (parse? (expand env text.toList)).bind ofDocument? = none) :
    ofText env text = .error unreadableDocument := by
  rw [ofText, h]

/-- The header of the section, alone on its line. -/
def sectionLine : List Char :=
  "[geoserver]\n".toList

theorem sectionLine_eq : sectionLine =
    '[' :: 'g' :: ['e', 'o', 's', 'e', 'r', 'v', 'e', 'r'] ++ [']', '\n'] := by
  decide

theorem reads_sectionLine : Reads (dropMark sectionLine) [.header ["geoserver"]] := by
  have hmark : dropMark sectionLine = sectionLine := by decide
  have hname : String.ofList ['g', 'e', 'o', 's', 'e', 'r', 'v', 'e', 'r'] = "geoserver" := by decide
  have hgap : dropGap [']', '\n'] = [']', '\n'] := by decide
  have hkey := Key.parts?_of_isBare 79 'g' ['e', 'o', 's', 'e', 'r', 'v', 'e', 'r'] [']', '\n']
    (by decide) (by decide) (by decide)
  have hfiller : dropFiller false sectionLine = some sectionLine := by decide
  rw [hname, hgap] at hkey
  rw [hmark]
  have hend : dropLine false ['\n'] = some [] := by decide
  refine .cons hfiller (by decide) ?_ hend (.nil (by decide))
  rw [sectionLine_eq, List.cons_append, statement?.eq_2, key?, maxDepth, hkey]
  . rfl
  . intro rest heq
    exact absurd (List.cons.inj heq).1 (by decide)

theorem settled_sectionLine : Settled sectionLine :=
  settled_of_not_mem (by decide)

theorem expand_sectionLine (env : Environment) : expand env sectionLine = sectionLine :=
  expand_of_not_refers env settled_sectionLine.not_refers

theorem isPlace_sectionLine (env : Environment) (name : String) : IsPlace env name sectionLine [] := by
  refine ⟨by rw [EndsLine]; decide, settled_sectionLine.closed, ?_, .inl rfl, ?_, ?_⟩
  . rw [expand_sectionLine]
    exact ⟨_, reads_sectionLine, [], [], rfl, List.forall_mem_nil _⟩
  . rw [names_of_not_refers settled_sectionLine.not_refers]
    exact List.not_mem_nil
  . simp [names, pieces]

theorem ofText_placed_sectionLine_iff (env : Environment) {name : String} (hname : IsName name.toList)
    (text : String) (settings : Settings) :
    ofText (bound env name text) (placed name sectionLine []) = .ok settings ↔
      (parse? (sectionLine ++ (passwordLine text.toList ++ []))).bind ofDocument? = some settings := by
  rw [ofText_eq_ok_iff, expand_placed (isPlace_sectionLine env name) hname, expand_sectionLine,
    expand_nil]

/-- A password arrives unchanged, wherever it is taken from a variable, if and only if each of its
characters stands for itself between double marks. -/
theorem password_arrives_iff {name : String} (hname : IsName name.toList) (secret : String) :
    (∀ env before after settings, IsPlace env name before after →
      ofText (bound env name "") (placed name before after) = .ok settings →
        ofText (bound env name secret) (placed name before after) =
          .ok { settings with password := some secret }) ↔
      ∀ c ∈ secret.toList, isVerbatim c := by
  constructor
  . intro harrives
    -- The shortest place there is shows which characters do not arrive.
    have hempty := (ofText_placed_sectionLine_iff (fun _ => none) hname "" { password := some "" }).2
      (by decide +kernel)
    have hsecret := harrives _ _ _ _ (isPlace_sectionLine _ name) hempty
    rw [ofText_placed_sectionLine_iff _ hname] at hsecret
    rcases exists_string_of_passwordLine (by rw [EndsLine]; decide) reads_sectionLine
      ⟨[], [], rfl, List.forall_mem_nil _⟩ hsecret with ⟨string, after, hstring, hpassword⟩
    obtain rfl := Option.some.inj hpassword
    rw [String.toList_ofList] at hstring ⊢
    exact isVerbatim_of_string? hstring
  . intro hverbatim env before after settings hplace hread
    rw [ofText_eq_ok_iff, expand_placed hplace hname] at hread ⊢
    obtain ⟨statements, hstatements, hunder⟩ := hplace.inSection
    have hbefore := endsLine_expand env hplace.endsLine hplace.closed
    have harrives := passwordLine_arrives hbefore hstatements hunder (hplace.lineEnds.expand env)
      hverbatim hread
    rwa [String.ofList_toList] at harrives

/-- The section goes on after the line. -/
def usernameLines : List Char :=
  "\nusername = \"admin\"\n".toList

theorem settled_usernameLines : Settled usernameLines :=
  settled_of_not_mem (by decide)

theorem password_arrives_iff_blanks :
    IsName "PASSWORD".toList ∧
      ofText (bound (fun _ => none) "PASSWORD" "sésame # [7] ='")
          (placed "PASSWORD" sectionLine usernameLines) =
        .ok { username := some "admin", password := some "sésame # [7] ='" } := by
  have hname : IsName "PASSWORD".toList := by decide
  have hplace : IsPlace (fun _ => none) "PASSWORD" sectionLine usernameLines := by
    refine { isPlace_sectionLine (fun _ => none) "PASSWORD" with lineEnds := ?_, not_after := ?_ }
    . exact .inr ⟨_, .inl rfl⟩
    . rw [names_of_not_refers settled_usernameLines.not_refers]
      exact List.not_mem_nil
  have hempty : ofText (bound (fun _ => none) "PASSWORD" "")
      (placed "PASSWORD" sectionLine usernameLines) =
        .ok { username := some "admin", password := some "" } := by
    rw [ofText_eq_ok_iff, expand_placed hplace hname, expand_sectionLine,
      expand_of_not_refers _ settled_usernameLines.not_refers]
    decide +kernel
  exact ⟨hname, (password_arrives_iff hname "sésame # [7] ='").2 (by decide) _ _ _ _ hplace hempty⟩

/-- A mark ends the string early, a backslash begins an escape, and a line break makes lines of the
value. Where an opening mark stands open before the line, nothing in the line is replaced. -/
theorem password_of_marks :
    ofText (bound (fun _ => none) "P" "") "[geoserver]\npassword = \"$\x7bP\x7d\"" =
        .ok { password := some "" } ∧
      ofText (bound (fun _ => none) "P" "a\"b") "[geoserver]\npassword = \"$\x7bP\x7d\"" =
        .error unreadableDocument ∧
      ofText (bound (fun _ => none) "P" "a\\tb") "[geoserver]\npassword = \"$\x7bP\x7d\"" =
        .ok { password := some "a\tb" } ∧
      ofText (bound (fun _ => none) "P" "a\"\nusername = \"eve")
          "[geoserver]\npassword = \"$\x7bP\x7d\"" =
        .ok { password := some "a", username := some "eve" } ∧
      ofText (bound (fun _ => none) "P" "secret")
          "# $\x7b\n[geoserver]\npassword = \"$\x7bP\x7d\"" =
        .ok { password := some "$\x7bP\x7d" } := by
  have hname : IsName "P".toList := by decide
  have hplaced : "[geoserver]\npassword = \"$\x7bP\x7d\"" = placed "P" sectionLine [] := by
    decide +kernel
  rw [hplaced]
  refine ⟨?_, ?_, ?_, ?_, ?_⟩
  . rw [ofText_placed_sectionLine_iff _ hname]
    decide +kernel
  . apply ofText_eq_error
    rw [expand_placed (isPlace_sectionLine _ "P") hname, expand_sectionLine, expand_nil]
    decide +kernel
  . rw [ofText_placed_sectionLine_iff _ hname]
    decide +kernel
  . rw [ofText_placed_sectionLine_iff _ hname]
    decide +kernel
  . have htext : "# $\x7b\n[geoserver]\npassword = \"$\x7bP\x7d\"".toList =
        "# ".toList ++ written "\n[geoserver]\npassword = \"$\x7bP".toList ++ ['"'] := by
      decide +kernel
    have hvalue : value (bound (fun _ => none) "P" "secret")
        "\n[geoserver]\npassword = \"$\x7bP".toList =
        written "\n[geoserver]\npassword = \"$\x7bP".toList := by
      decide +kernel
    rw [ofText_eq_ok_iff, htext,
      expand_settled_append _ (settled_of_not_mem (by decide)) (by decide +kernel), hvalue,
      expand_cons_of_ne _ (by decide), expand_nil]
    decide +kernel

end Settings

end LayerCull
