/-!
This module contains the identifiers of layers and layer groups: texts of the shape of a UUID in
lower-case hexadecimal digits. `LayerId.first?` finds the leftmost one in a text and
`LayerId.ofText` accepts a text that is one.
-/

namespace LayerCull

namespace Uuid

/-- What may stand at one place of a UUID. -/
inductive Slot where
  | digit
  | dash
  deriving DecidableEq, Repr

def Slot.accepts : Slot → Char → Bool
  | .digit, c => ('0' ≤ c && c ≤ '9') || ('a' ≤ c && c ≤ 'f')
  | .dash, c => c == '-'

/-- The 36 places of a UUID: groups of 8, 4, 4, 4 and 12 digits, joined by dashes. -/
def shape : List Slot :=
  digits 8 ++ [.dash] ++ digits 4 ++ [.dash] ++ digits 4 ++ [.dash] ++ digits 4 ++ [.dash] ++
    digits 12
where
  digits (n : Nat) : List Slot := List.replicate n .digit

/-- Every place is taken by a character that it accepts, and nothing is left over. -/
def fits : List Slot → List Char → Bool
  | [], [] => true
  | s :: ss, c :: cs => s.accepts c && fits ss cs
  | _, _ => false

theorem length_shape : shape.length = 36 := rfl

theorem length_eq_of_fits : ∀ {ss : List Slot} {cs : List Char}, fits ss cs → cs.length = ss.length
  | [], [], _ => rfl
  | _ :: ss, _ :: cs, h => by
    simp only [fits, Bool.and_eq_true] at h
    simp [length_eq_of_fits h.2]

/-- The text is a UUID, from its first to its last character. -/
def Shaped (cs : List Char) : Prop :=
  fits shape cs

instance (cs : List Char) : Decidable (Shaped cs) :=
  inferInstanceAs (Decidable (_ = true))

/-- The leftmost stretch of 36 characters that is a UUID. -/
def first? : List Char → Option { window : List Char // Shaped window }
  | [] => none
  | c :: cs =>
    if h : Shaped ((c :: cs).take 36) then
      some ⟨_, h⟩
    else
      first? cs

end Uuid

/-- The name of a layer or of a layer group. -/
structure LayerId where
  text : String
  shaped : Uuid.Shaped text.toList

namespace LayerId

theorem ext {a b : LayerId} (h : a.text = b.text) : a = b := by
  cases a
  cases b
  cases h
  rfl

instance : DecidableEq LayerId := fun a b =>
  if h : a.text = b.text then
    isTrue (ext h)
  else
    isFalse fun e => h (congrArg text e)

instance : ToString LayerId where
  toString := text

instance : Repr LayerId where
  reprPrec id _ := repr id.text

/-- Reads a text that is an identifier and nothing else. -/
def ofText? (text : String) : Option LayerId :=
  if h : Uuid.Shaped text.toList then some ⟨text, h⟩ else none

/-- The refusal of a text that was given as an identifier and is none. -/
structure Malformed where
  text : String
  deriving DecidableEq, Repr

def Malformed.message (refusal : Malformed) : String :=
  "'" ++ refusal.text ++ "' is not a UUID-shaped layer id"

/-- Reads a text as an identifier, or refuses it. -/
def ofText (text : String) : Except Malformed LayerId :=
  match ofText? text with
  | some id => .ok id
  | none => .error ⟨text⟩

/-- The leftmost identifier in a text. -/
def first? (text : String) : Option LayerId :=
  (Uuid.first? text.toList).map fun ⟨window, h⟩ =>
    ⟨String.ofList window, by simpa only [String.toList_ofList] using h⟩

theorem ofText?_text (id : LayerId) : ofText? id.text = some id := by
  simp [ofText?, id.shaped]

end LayerId

end LayerCull
