import LayerCull.Toml.Quote
import LayerCull.Toml.Scalar
import LayerCull.Toml.Table

/-!
This module contains the reading of TOML documents. `Toml.parse?` gives the fields of a document, or
nothing if some line of it breaks the rules.
-/

namespace LayerCull.Toml

/-- Reads a prefix of a text and gives back what follows it. -/
abbrev Reader (α : Type) := List Char → Option (α × List Char)

/-- How deep arrays and braces may nest, and how many parts a key may have. -/
def maxDepth : Nat := 80

/-- Drops blanks, line breaks and comments. -/
def dropFiller (inComment : Bool) : List Char → Option (List Char)
  | [] => some []
  | c :: rest =>
    if c == '\n' then dropFiller false rest
    else if c == '\r' then
      if Quote.beginsLine rest then dropFiller false rest else none
    else if inComment then
      if isText c then dropFiller true rest else none
    else if isGap c then dropFiller false rest
    else if c == '#' then dropFiller true rest
    else some (c :: rest)

/-- Drops blanks and a comment up to the end of the line. -/
def dropLine (inComment : Bool) : List Char → Option (List Char)
  | [] => some []
  | c :: rest =>
    if c == '\n' then some rest
    else if c == '\r' then
      if Quote.beginsLine rest then some (rest.drop 1) else none
    else if inComment then
      if isText c then dropLine true rest else none
    else if isGap c then dropLine false rest
    else if c == '#' then dropLine true rest
    else none

def dropGap (text : List Char) : List Char :=
  text.dropWhile isGap

namespace Key

def isBare (c : Char) : Bool :=
  c.isAlphanum || c == '_' || c == '-'

/-- One part of a key. -/
def part? : Reader String := fun text =>
  match text with
  | '"' :: _ | '\'' :: _ =>
    (lineString? text).map fun (part, rest) => (String.ofList part, rest)
  | _ =>
    let (part, rest) := text.span isBare
    if part.isEmpty then none else some (String.ofList part, rest)

/-- The parts of a key, of which points separate at most so many. -/
def parts? : Nat → Reader (List String)
  | 0 => fun _ => none
  | fuel + 1 => fun text => do
    let (part, rest) ← part? (dropGap text)
    match dropGap rest with
    | '.' :: rest =>
      let (parts, rest) ← parts? fuel rest
      return (part :: parts, rest)
    | rest => return ([part], rest)

end Key

def key? : Reader (List String) :=
  Key.parts? maxDepth

/-- A key, the sign of equality and a value. -/
def assignment? (value? : Reader Value) : Reader (List String × Value) := fun text => do
  let (key, rest) ← key? text
  match rest with
  | '=' :: rest =>
    let (value, rest) ← value? (dropGap rest)
    return ((key, value), rest)
  | _ => none

/-- Items up to a closing mark. Commas separate them, and one more may follow the last. -/
def items? {α : Type} (item? : Reader α) (closing : Char) : Nat → Reader (List α)
  | 0 => fun _ => none
  | fuel + 1 => fun text => do
    match ← dropFiller false text with
    | [] => none
    | c :: rest =>
      if c == closing then
        return ([], rest)
      else
        let (item, rest) ← item? (c :: rest)
        match ← dropFiller false rest with
        | ',' :: rest =>
          let (items, rest) ← items? item? closing fuel rest
          return (item :: items, rest)
        | c :: rest => if c == closing then some ([item], rest) else none
        | [] => none

/-- The table that the assignments between braces make. -/
def ofAssignments? (assignments : List (List String × Value)) : Option Value := do
  let fields ← assignments.foldlM (fun fields (key, value) =>
    Fields.assignPath key value .header fields) []
  return .table .braces fields

/-- A value in which arrays and braces nest at most so deep. -/
def value? (depth : Nat) (text : List Char) : Option (Value × List Char) :=
  match text with
  | '"' :: _ | '\'' :: _ =>
    (string? text).map fun (string, rest) => (.string (String.ofList string), rest)
  | '[' :: rest =>
    match depth with
    | 0 => none
    | depth + 1 => do
      let (items, rest) ← items? (value? depth) ']' text.length rest
      return (.array items, rest)
  | '\x7b' :: rest =>
    match depth with
    | 0 => none
    | depth + 1 => do
      let (assignments, rest) ← items? (assignment? (value? depth)) '\x7d' text.length rest
      return (← ofAssignments? assignments, rest)
  | _ =>
    let (scalar, rest) := splitScalar text
    (Value.ofScalar? scalar).map fun value => (value, rest)

/-- What one line of a document says. -/
inductive Statement where
  | assignment (key : List String) (value : Value)
  | header (key : List String)
  | itemHeader (key : List String)

def statement? : Reader Statement := fun text =>
  match text with
  | '[' :: '[' :: rest => do
    match ← key? rest with
    | (key, ']' :: ']' :: rest) => return (.itemHeader key, rest)
    | _ => none
  | '[' :: rest => do
    match ← key? rest with
    | (key, ']' :: rest) => return (.header key, rest)
    | _ => none
  | _ => do
    let ((key, value), rest) ← assignment? (value? maxDepth) text
    return (.assignment key value, rest)

/-- The statements of a text, each on a line of its own. -/
def statements? : Nat → List Char → Option (List Statement)
  | 0, _ => none
  | fuel + 1, text => do
    match ← dropFiller false text with
    | [] => return []
    | text =>
      let (statement, rest) ← statement? text
      let rest ← dropLine false rest
      return statement :: (← statements? fuel rest)

/-- The document so far, and the header under which the next assignment stands. -/
structure Draft where
  root : Fields := []
  header : List String := []

def Draft.add (draft : Draft) : Statement → Option Draft
  | .assignment key value => do
    let root ← Fields.within .implied (Fields.assignPath key value) draft.header .header draft.root
    return { draft with root }
  | .header key => do
    return ⟨← Fields.openPath Fields.openTable key draft.root, key⟩
  | .itemHeader key => do
    return ⟨← Fields.openPath Fields.openItem key draft.root, key⟩

/-- The fields of a document. A byte order mark may come before it. -/
def parse? (text : List Char) : Option Fields := do
  let text := if text.head? = some '\ufeff' then text.drop 1 else text
  let statements ← statements? (text.length + 1) text
  let draft ← statements.foldlM Draft.add {}
  return draft.root

end LayerCull.Toml
