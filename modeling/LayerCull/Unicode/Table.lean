import LayerCull.Text.Digits

/-!
This module contains tables over code points. A table lists spans of code points in rising order and
says something about each span; code points outside all spans have no entry.
-/

namespace LayerCull.Unicode

/-- The code points from `first` to `last`. -/
structure Span (α : Type) where
  first : Nat
  last : Nat
  value : α
  deriving Repr

abbrev Table (α : Type) := Array (Span α)

/-- A table that only says which code points belong to it. -/
abbrev CharSet := Table Unit

namespace Span

/-- Reads `first-last` or `first`, followed by a note that `value` understands. -/
def ofText {α : Type} (value : List Char → α) (entry : List Char) : Span α :=
  let (first, rest) := entry.span Text.Digits.isHex
  match rest with
  | '-' :: rest =>
    let (last, note) := rest.span Text.Digits.isHex
    ⟨Text.Digits.number 16 first, Text.Digits.number 16 last, value note⟩
  | note => ⟨Text.Digits.number 16 first, Text.Digits.number 16 first, value note⟩

end Span

namespace Table

variable {α : Type}

/-- Reads entries that are separated by blanks and line breaks. -/
def ofText (value : List Char → α) (text : String) : Table α :=
  let entries := text.toList.splitOnP fun c => c == ' ' || c == '\n'
  ((entries.filter fun entry => !entry.isEmpty).map (Span.ofText value)).toArray

/-- The span of a code point, found by halving the table. -/
def find? (table : Table α) (code : Nat) : Option (Span α) :=
  go 0 table.size (Nat.le_refl _)
where
  go (lo hi : Nat) (h : hi ≤ table.size) : Option (Span α) :=
    if hlt : lo < hi then
      let mid := (lo + hi) / 2
      let span := table[mid]
      if code < span.first then
        go lo mid (by omega)
      else if span.last < code then
        go (mid + 1) hi h
      else
        some span
    else
      none
  termination_by hi - lo

def has (table : Table α) (c : Char) : Bool :=
  (table.find? c.toNat).isSome

end Table

/-- Reads a table that only lists spans. -/
def CharSet.ofText (text : String) : CharSet :=
  Table.ofText (fun _ => ()) text

end LayerCull.Unicode
