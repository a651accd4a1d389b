import LayerCull.Text.Cut

/-!
This module contains references to the environment: `$` and a name in braces. Each is replaced by the
value of the variable, once; values are not searched again, and unknown names stay as they are.
-/

namespace LayerCull

/-- The variables that are set. -/
abbrev Environment := String → Option String

namespace Reference

def opening : Char := '\x7b'

def closing : Char := '\x7d'

/-- Cuts a text after its first reference name, if a closing brace ends it. -/
def name? (text : List Char) : Option (List Char × List Char) :=
  match Text.cut closing text with
  | ([], _) | (_, none) => none
  | (name, some rest) => some (name, rest)

theorem cut_of_name? {text name rest : List Char} (h : name? text = some (name, rest)) :
    Text.cut closing text = (name, some rest) := by
  unfold name? at h
  split at h <;> simp_all

/-- A part of a text. -/
inductive Piece where
  | char (c : Char)
  | reference (name : List Char)
  deriving DecidableEq, Repr

def pieces : List Char → List Piece
  | [] => []
  | '$' :: '\x7b' :: text =>
    match _h : name? text with
    | some (name, rest) => .reference name :: pieces rest
    | none => .char '$' :: pieces (opening :: text)
  | c :: text => .char c :: pieces text
termination_by text => text.length
decreasing_by
  . have := Text.length_lt_of_cut (cut_of_name? _h)
    simp
    omega
  . simp
  . simp

/-- A reference is replaced by the value of the variable that it names, if there is one. -/
def Piece.expand (env : Environment) : Piece → List Char
  | .char c => [c]
  | .reference name =>
    match env (String.ofList name) with
    | some text => text.toList
    | none => '$' :: opening :: name ++ [closing]

def expand (env : Environment) (text : List Char) : List Char :=
  (pieces text).flatMap (Piece.expand env)

def Piece.name? : Piece → Option String
  | .char _ => none
  | .reference name => some (String.ofList name)

/-- The names of the variables that a text refers to. -/
def names (text : List Char) : List String :=
  (pieces text).filterMap Piece.name?

/-- No other variable matters. -/
theorem expand_congr {env env' : Environment} {text : List Char}
    (h : ∀ name ∈ names text, env name = env' name) : expand env text = expand env' text := by
  unfold expand
  rw [List.flatMap_def, List.flatMap_def]
  congr 1
  apply List.map_congr_left
  rintro (c | name) hmem
  . rfl
  . have hname : String.ofList name ∈ names text :=
      List.mem_filterMap.2 ⟨.reference name, hmem, rfl⟩
    simp [Piece.expand, h _ hname]

end Reference

end LayerCull
