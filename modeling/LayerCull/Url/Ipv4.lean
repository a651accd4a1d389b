import LayerCull.Text.Digits

/-!
This module contains internet addresses of four bytes. They are written in one to four parts, of which
the last fills all bytes that are left; a part may be decimal, octal or hexadecimal.
-/

namespace LayerCull.Url.Ipv4

/-- What one part of a host name is when it is read as a number. -/
inductive Part where
  | notNumber
  /-- The number needs more than four bytes. -/
  | tooLarge
  | number (n : Nat)
  deriving DecidableEq, Repr

def digits (isDigit : Char → Bool) (base : Nat) (text : List Char) : Part :=
  if text.isEmpty then .number 0
  else if text.all isDigit then
    let n := Text.Digits.number base text
    if n < UInt32.size then .number n else .tooLarge
  else .notNumber

/-- `0x` begins a hexadecimal number and `0` an octal one. -/
def Part.ofText : List Char → Part
  | [] => .notNumber
  | '0' :: 'x' :: rest | '0' :: 'X' :: rest => digits Text.Digits.isHex 16 rest
  | '0' :: c :: rest => digits Text.Digits.isOctal 8 (c :: rest)
  | text => digits Char.isDigit 10 text

/-- The parts of a host name; a dot at its end begins no part. -/
def parts (host : List Char) : List (List Char) :=
  let all := host.splitOn '.'
  if all.getLast? = some [] then all.dropLast else all

/-- A host name whose last part is a number is an address, or an error. -/
def endsInNumber (host : List Char) : Bool :=
  match (parts host).getLast? with
  | none => false
  | some last => (!last.isEmpty && last.all Char.isDigit) || Part.ofText last != .notNumber

/-- How many numbers so many bytes can write. -/
def room : Nat → Nat
  | 0 => 1
  | count + 1 => 256 * room count

/-- The number of the address. -/
def ofParts? (numbers : List Part) : Option Nat := do
  let numbers ← numbers.mapM fun
    | .number n => some n
    | _ => none
  let last ← numbers.getLast?
  let front := numbers.dropLast
  if numbers.length ≤ 4 ∧ front.all (· < 256) ∧ last < room (4 - front.length) then
    let high := front.foldl (fun n part => 256 * n + part) 0
    return high * room (4 - front.length) + last
  else
    none

def ofText? (host : List Char) : Option Nat :=
  ofParts? ((parts host).map Part.ofText)

def render (address : Nat) : List Char :=
  let byte (k : Nat) := (toString (address / room k % 256)).toList
  byte 3 ++ '.' :: byte 2 ++ '.' :: byte 1 ++ '.' :: byte 0

end LayerCull.Url.Ipv4
