import LayerCull.Log.Event
import LayerCull.Text.Cut
import LayerCull.Text.Digits

/-!
This module contains which events go into the log. A filter is a list of directives; of those that
concern an event, the one that names its origin most exactly decides.
-/

namespace LayerCull.Log

/-- How many kinds of events are let through, from none to all, errors first. -/
abbrev Verbosity := Nat

def Level.rank : Level → Verbosity
  | .error => 1
  | .warn => 2
  | .info => 3
  | .debug => 4

namespace Verbosity

def all : Verbosity := 5

def names : List (String × Verbosity) :=
  [("off", 0), ("error", 1), ("warn", 2), ("info", 3), ("debug", 4), ("trace", 5)]

/-- Reads a number up to five. -/
def ofNumber? (text : List Char) : Option Verbosity :=
  (Text.Digits.natural? text).filter (· ≤ all)

/-- Reads a number or a name, in letters of either case. -/
def ofText? (text : List Char) : Option Verbosity :=
  match ofNumber? text with
  | some v => some v
  | none => names.lookup (String.ofList (text.map Char.toLower))

/-- Reads what stands after the sign of equality; nothing lets everything through. -/
def ofLevel? (text : List Char) : Option Verbosity :=
  if text.isEmpty then some all else ofText? text

end Verbosity

structure Directive where
  /-- How the path of an event's origin begins; no target is any. -/
  target : Option (List Char) := none
  /-- The names of the fields that an event has to have. -/
  fields : List (List Char) := []
  /-- It waits for a scope that is entered or a value that is met, which never happens. -/
  conditional : Bool := false
  verbosity : Verbosity
  deriving DecidableEq, Repr

namespace Directive

/-- What brackets after a target demand. -/
structure Scope where
  fields : List (List Char) := []
  conditional : Bool := false

/-- Reads brackets, after the first one, and gives back what follows them. -/
def scope? (text : List Char) : Option (Scope × List Char) :=
  let (name, rest) := text.span fun c => c != ']' && c != '\x7b'
  match rest with
  | ']' :: rest => some ({ conditional := true }, rest)
  | '\x7b' :: rest =>
    match Text.cut '\x7d' rest with
    | (c :: field, some (']' :: rest)) =>
      let (fieldName, value) := Text.cut '=' (c :: field)
      some (⟨[fieldName], !name.isEmpty || value.isSome⟩, rest)
    | _ => none
  | _ => none

def begins (c : Char) : Bool :=
  c == '[' || c == '-' || c == ':' || c == '_' || c.isAlphanum || 0x80 ≤ c.toNat

/-- Reads a level alone, a target alone, or a target, brackets or both with a level. -/
def ofText? (text : List Char) : Option Directive :=
  let (name, rest) := text.span fun c => c != '=' && c != '['
  if !text.head?.any begins then
    none
  else
    match rest with
    | '=' :: level => (Verbosity.ofLevel? level).map fun v => { target := some name, verbosity := v }
    | '[' :: rest => do
      let (scope, rest) ← scope? rest
      let verbosity ← match rest with
        | [] => some Verbosity.all
        | '=' :: level => Verbosity.ofLevel? level
        | _ => none
      let target := if name.isEmpty then none else some name
      return { target, fields := scope.fields, conditional := scope.conditional, verbosity }
    | _ =>
      match Verbosity.ofText? name with
      | some v => some { verbosity := v }
      | none => some { target := some name, verbosity := Verbosity.all }

/-- The only field that events have. -/
def messageField : List Char :=
  "message".toList

def concerns (directive : Directive) (target : List Char) : Bool :=
  !directive.conditional && directive.fields.all (· == messageField) &&
    match directive.target with
    | some start => start.isPrefixOf target
    | none => true

/-- How exact a directive is: by the length of its target, and then by its fields. -/
def exactness (directive : Directive) : Nat × Nat :=
  match directive.target with
  | some start => (start.length + 1, directive.fields.length)
  | none => (0, directive.fields.length)

/-- The second directive is no less exact. -/
def yields (first second : Directive) : Bool :=
  let a := first.exactness
  let b := second.exactness
  a.1 < b.1 || (a.1 == b.1 && a.2 ≤ b.2)

end Directive

abbrev Filter := List Directive

namespace Filter

/-- Reads directives that commas separate. Without any, only errors are let through. -/
def ofText? (text : String) : Option Filter := do
  let parts := (text.toList.splitOn ',').filter fun part => !part.isEmpty
  let directives ← parts.mapM Directive.ofText?
  if directives.isEmpty then
    return [{ verbosity := Level.error.rank }]
  else
    return directives

/-- The filter where nobody asks for another one. -/
def standard (verbose : Bool) : Filter :=
  let own := Origin.program.target.toList
  if verbose then
    [{ target := some own, verbosity := Level.debug.rank }, { verbosity := Level.info.rank }]
  else
    [{ target := some own, verbosity := Level.info.rank }]

/-- The filter that is asked for, if it can be read. -/
def choose (wish : Option String) (verbose : Bool) : Filter :=
  (wish.bind ofText?).getD (standard verbose)

/-- The directive that decides about a target: the last among the most exact ones. -/
def deciding? (filter : Filter) (target : List Char) : Option Directive :=
  (filter.filter fun directive => directive.concerns target).foldl
    (fun best directive =>
      match best with
      | some b => if b.yields directive then some directive else some b
      | none => some directive)
    none

def lets (filter : Filter) (event : Event) : Bool :=
  (deciding? filter event.origin.target.toList).any fun directive =>
    event.level.rank ≤ directive.verbosity

end Filter

end LayerCull.Log
