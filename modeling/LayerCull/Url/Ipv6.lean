import LayerCull.Text.Digits

/-!
This module contains internet addresses of eight groups of hexadecimal digits. One row of zero groups
may be left out, and the last two groups may be written as four bytes.
-/

namespace LayerCull.Url.Ipv6

/-- A group of one to four digits. -/
def group? (text : List Char) : Option Nat :=
  if 1 ≤ text.length ∧ text.length ≤ 4 ∧ text.all Text.Digits.isHex then
    some (Text.Digits.number 16 text)
  else
    none

/-- A number up to 255 without needless zeros. -/
def byte? (text : List Char) : Option Nat :=
  let n := Text.Digits.number 10 text
  if 1 ≤ text.length ∧ text.length ≤ 3 ∧ text.all Char.isDigit ∧ n ≤ 255 ∧
      (text.head? = some '0' → text.length = 1) then
    some n
  else
    none

/-- Four bytes, as two groups. -/
def bytes? (text : List Char) : Option (List Nat) :=
  match (text.splitOn '.').mapM byte? with
  | some [a, b, c, d] => some [256 * a + b, 256 * c + d]
  | _ => none

/-- The groups of a text; only its end may be four bytes. -/
def groups? (atEnd : Bool) : List (List Char) → Option (List Nat)
  | [] => some []
  | [last] =>
    match group? last with
    | some g => some [g]
    | none => if atEnd then bytes? last else none
  | text :: rest => do
    return (← group? text) :: (← groups? atEnd rest)

/-- Splits a text at the first two colons in a row. -/
def splitGap : List Char → Option (List Char × List Char)
  | ':' :: ':' :: rest => some ([], rest)
  | [] => none
  | c :: rest => (splitGap rest).map fun (before, after) => (c :: before, after)

/-- The groups that a text between gaps holds. -/
def side? (atEnd : Bool) (text : List Char) : Option (List Nat) :=
  if text.isEmpty then some [] else groups? atEnd (text.splitOn ':')

/-- The eight groups of an address. A gap stands for one zero group or more. -/
def ofText? (text : List Char) : Option (List Nat) :=
  match splitGap text with
  | some (before, after) => do
    let before ← side? false before
    let after ← side? true after
    if before.length + after.length ≤ 7 then
      return before ++ List.replicate (8 - before.length - after.length) 0 ++ after
    else
      none
  | none => do
    let groups ← side? true text
    if groups.length = 8 then some groups else none

/-- How many zero groups each place begins. -/
def zeroRuns : List Nat → List Nat
  | [] => []
  | g :: gs =>
    let runs := zeroRuns gs
    (if g = 0 then runs.headD 0 + 1 else 0) :: runs

/-- The place and the length of the first among the longest rows of zero groups. -/
def longestZeros (groups : List Nat) : Nat × Nat :=
  let runs := zeroRuns groups
  let longest := runs.foldl Nat.max 0
  (runs.findIdx (· = longest), longest)

def joinGroups (groups : List Nat) : List Char :=
  [':'].intercalate (groups.map Text.Digits.hex)

/-- A row of two zero groups or more is left out. -/
def render (groups : List Nat) : List Char :=
  let (place, count) := longestZeros groups
  if 2 ≤ count then
    joinGroups (groups.take place) ++ ':' :: ':' :: joinGroups (groups.drop (place + count))
  else
    joinGroups groups

end LayerCull.Url.Ipv6
