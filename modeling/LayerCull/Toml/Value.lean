/-!
This module contains the values of a TOML document. A table remembers how it came about, since that
decides what later lines may add to it.
-/

namespace LayerCull.Toml

inductive FloatLiteral where
  /-- The digits times a power of ten. -/
  | decimal (digits : Int) (exponent : Int)
  | infinite (negative : Bool)
  | notNumber
  deriving DecidableEq, Repr

/-- How a table came about. -/
inductive Origin where
  /-- By a header of its own, or as the document itself. -/
  | header
  /-- By a longer header that passes through it. -/
  | implied
  /-- By a dotted key. -/
  | dotted
  /-- By braces; nothing may be added. -/
  | braces
  deriving DecidableEq, Repr

inductive Value where
  | string (text : String)
  | integer (n : Int)
  | float (literal : FloatLiteral)
  | boolean (b : Bool)
  | datetime (text : String)
  | array (items : List Value)
  | table (origin : Origin) (fields : List (String × Value))
  /-- The tables of one doubly bracketed header, in order. -/
  | tables (items : List (List (String × Value)))
  deriving Repr

/-- Keys and values in the order of the document; no key comes twice. -/
abbrev Fields := List (String × Value)

namespace FloatLiteral

/-- Half a step beyond the largest number of double precision, where rounding goes to infinity. -/
def overflowBound : Nat :=
  1 <<< 1024 - 1 <<< 970

/-- The literal is too large for double precision. -/
def overflows : FloatLiteral → Bool
  | .decimal digits exponent =>
    let n := digits.natAbs
    let size := (Nat.toDigits 10 n).length + exponent
    if n = 0 ∨ size < 308 then false
    else if 310 < size then true
    else if 0 ≤ exponent then overflowBound ≤ n * Nat.pow 10 exponent.toNat
    else overflowBound * Nat.pow 10 (-exponent).toNat ≤ n
  | _ => false

end FloatLiteral

namespace Value

/-- How many numbers 128 bits can write. -/
def wideSize : Int :=
  UInt64.size * UInt64.size

mutual

/-- The value fits into what a reader can hold, whether or not it is used. -/
def isReadable : Value → Bool
  | .integer n => -wideSize / 2 ≤ n && n < wideSize
  | .float literal => !literal.overflows
  | .array items => allReadable items
  | .table _ fields => fieldsReadable fields
  | .tables items => tablesReadable items
  | .string _ | .boolean _ | .datetime _ => true

def allReadable : List Value → Bool
  | [] => true
  | item :: items => isReadable item && allReadable items

def fieldsReadable : List (String × Value) → Bool
  | [] => true
  | (_, value) :: fields => isReadable value && fieldsReadable fields

def tablesReadable : List (List (String × Value)) → Bool
  | [] => true
  | fields :: items => fieldsReadable fields && tablesReadable items

end

end Value

end LayerCull.Toml
