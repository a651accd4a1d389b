import LayerCull.Url.Percent

/-!
This module contains the segments of a path: how a text falls into segments, and what becomes of the
ones that mean this directory and the one above.
-/

namespace LayerCull.Url.Segments

/-- How many dots a segment of nothing but dots has; an escaped dot is a dot. -/
def dots? : List Char → Option Nat
  | [] => some 0
  | '.' :: rest | '%' :: '2' :: 'e' :: rest | '%' :: '2' :: 'E' :: rest => (dots? rest).map (· + 1)
  | _ => none

/-- The name of a drive: a letter and a colon or a bar. -/
def isDrive : List Char → Bool
  | [letter, mark] => letter.isAlpha && (mark == ':' || mark == '|')
  | _ => false

/-- The directory above. A drive has none. -/
def up (path : List (List Char)) : List (List Char) :=
  if path.getLast?.any isDrive then path else path.dropLast

/-- Follows the segments one by one; a path that ends on a directory ends on an empty segment. -/
def follow (path : List (List Char)) : List (List Char) → List (List Char)
  | [] => path
  | segment :: rest =>
    let ending := if rest.isEmpty then [[]] else []
    match dots? segment with
    | some 1 => follow (path ++ ending) rest
    | some 2 => follow (up path ++ ending) rest
    | _ => follow (path ++ [segment]) rest

/-- Splits a text at the characters that separate. -/
def split (separates : Char → Bool) (text : List Char) : List (List Char) :=
  text.splitOnP separates

def ofText (separates : Char → Bool) (text : List Char) : List (List Char) :=
  follow [] ((split separates text).map (Percent.encode Percent.inPath))

end LayerCull.Url.Segments
