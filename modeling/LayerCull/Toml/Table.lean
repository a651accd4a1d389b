import LayerCull.Toml.Value

/-!
This module contains the growth of tables. A key may be given once, a table may be opened once, and a
dotted key adds only to tables that dotted keys have made.
-/

namespace LayerCull.Toml

namespace Fields

/-- Replaces the value of a key, in its place. -/
def set (fields : Fields) (key : String) (value : Value) : Fields :=
  fields.map fun (k, v) => if k = key then (k, value) else (k, v)

/-- A change of one table, which may refuse. -/
abbrev Change := Origin → Fields → Option Fields

/-- Makes a change at the end of a path. Tables that are missing on the way come into being by the way
that leads there; of the tables under one header the last one is meant. -/
def within (way : Origin) (change : Change) : List String → Change
  | [], origin, fields => change origin fields
  | key :: path, _, fields =>
    match fields.lookup key with
    | none => do
      return fields ++ [(key, .table way (← within way change path way []))]
    | some (.table origin sub) =>
      if origin = .braces ∨ way = .dotted ∧ origin = .header then
        none
      else do
        return set fields key (.table origin (← within way change path origin sub))
    | some (.tables items) => do
      let last ← items.getLast?
      let last ← within way change path .header last
      return set fields key (.tables (items.dropLast ++ [last]))
    | some _ => none

/-- Gives a key its value. A dotted key, `plain` being false, may not end in a table of another
origin. -/
def assign (plain : Bool) (key : String) (value : Value) : Change := fun origin fields =>
  if (plain || origin = .dotted) && (fields.lookup key).isNone then
    some (fields ++ [(key, value)])
  else
    none

/-- Gives the value to a key of one part or more. -/
def assignPath (path : List String) (value : Value) : Change := fun origin fields =>
  match path.getLast? with
  | none => none
  | some key =>
    let way := path.dropLast
    within .dotted (assign way.isEmpty key value) way origin fields

/-- Opens the table of a header, which may have been passed through before. -/
def openTable (key : String) : Change := fun _ fields =>
  match fields.lookup key with
  | none => some (fields ++ [(key, .table .header [])])
  | some (.table .implied sub) => some (set fields key (.table .header sub))
  | some _ => none

/-- Opens one more of the tables under a doubly bracketed header. -/
def openItem (key : String) : Change := fun _ fields =>
  match fields.lookup key with
  | none => some (fields ++ [(key, .tables [[]])])
  | some (.tables items) => some (set fields key (.tables (items ++ [[]])))
  | some _ => none

/-- Opens a table at the end of a path. -/
def openPath (change : String → Change) (path : List String) (root : Fields) : Option Fields :=
  match path.getLast? with
  | none => none
  | some key => within .implied (change key) path.dropLast .header root

end Fields

end LayerCull.Toml
