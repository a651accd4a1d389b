import LayerCull.Text.Digits
import LayerCull.Toml.Value

/-!
This module contains the values of TOML that are written without marks: booleans, whole numbers,
numbers with a point or an exponent, dates and times.
-/

namespace LayerCull.Toml

open Text

namespace Number

/-- The digits of a number, which underscores may separate but not surround. -/
def digits? (isDigit : Char → Bool) (text : List Char) : Option (List Char) :=
  if (text.splitOn '_').all fun group => !group.isEmpty && group.all isDigit then
    some (text.filter (· != '_'))
  else
    none

/-- Takes a sign off a text. -/
def sign : List Char → Bool × List Char
  | '-' :: rest => (true, rest)
  | '+' :: rest => (false, rest)
  | text => (false, text)

def withSign (negative : Bool) (n : Nat) : Int :=
  if negative then -n else n

/-- Decimal digits, of which a zero is the first only if it is the only one. -/
def decimal? (text : List Char) : Option (List Char) := do
  let digits ← digits? Char.isDigit text
  if digits.head? = some '0' ∧ digits.length ≠ 1 then none else some digits

def integer? (text : List Char) : Option Int :=
  match text with
  | '0' :: 'x' :: rest => (digits? Digits.isHex rest).map fun ds => Digits.number 16 ds
  | '0' :: 'o' :: rest => (digits? Digits.isOctal rest).map fun ds => Digits.number 8 ds
  | '0' :: 'b' :: rest => (digits? Digits.isBinary rest).map fun ds => Digits.number 2 ds
  | _ =>
    let (negative, rest) := sign text
    (decimal? rest).map fun ds => withSign negative (Digits.number 10 ds)

/-- A point and digits, or nothing. -/
def fraction? : List Char → Option (List Char)
  | [] => some []
  | '.' :: rest => digits? Char.isDigit rest
  | _ => none

/-- The exponent after its letter. -/
def exponent? (text : List Char) : Option Int :=
  let (negative, rest) := sign text
  (digits? Char.isDigit rest).map fun ds => withSign negative (Digits.number 10 ds)

def isExponentLetter (c : Char) : Bool :=
  c == 'e' || c == 'E'

/-- A number with a point, an exponent or both. -/
def decimalFloat? (negative : Bool) (text : List Char) : Option FloatLiteral := do
  let (significand, scale) := text.span fun c => !isExponentLetter c
  let (whole, point) := significand.span (· != '.')
  if point.isEmpty && scale.isEmpty then
    none
  let whole ← decimal? whole
  let fraction ← fraction? point
  let exponent ← match scale with
    | [] => some 0
    | _ :: rest => exponent? rest
  return .decimal (withSign negative (Digits.number 10 (whole ++ fraction))) (exponent - fraction.length)

def float? (text : List Char) : Option FloatLiteral :=
  let (negative, rest) := sign text
  if rest = ['i', 'n', 'f'] then some (.infinite negative)
  else if rest = ['n', 'a', 'n'] then some .notNumber
  else decimalFloat? negative rest

end Number

namespace Calendar

/-- Reads a number of exactly so many digits. -/
def field? (count : Nat) (text : List Char) : Option (Nat × List Char) :=
  let digits := text.take count
  if digits.length = count ∧ digits.all Char.isDigit then
    some (Digits.number 10 digits, text.drop count)
  else
    none

/-- Reads a number of two digits after a mark. -/
def after? (mark : Char) : List Char → Option (Nat × List Char)
  | c :: rest => if c = mark then field? 2 rest else none
  | [] => none

def isLeapYear (year : Nat) : Bool :=
  year % 4 = 0 && (year % 100 ≠ 0 || year % 400 = 0)

def daysIn (year month : Nat) : Nat :=
  if month = 2 then (if isLeapYear year then 29 else 28)
  else if month = 4 ∨ month = 6 ∨ month = 9 ∨ month = 11 then 30
  else 31

/-- Reads a date and gives back what follows it. -/
def date? (text : List Char) : Option (List Char) := do
  let (year, rest) ← field? 4 text
  let (month, rest) ← after? '-' rest
  let (day, rest) ← after? '-' rest
  if 1 ≤ month ∧ month ≤ 12 ∧ 1 ≤ day ∧ day ≤ daysIn year month then some rest else none

/-- Reads a fraction of a second. -/
def fraction? : List Char → Option (List Char)
  | '.' :: rest => if rest.head?.any Char.isDigit then some (rest.dropWhile Char.isDigit) else none
  | rest => some rest

/-- Reads a time of day and gives back what follows it. A minute may end on a leap second. -/
def time? (text : List Char) : Option (List Char) := do
  let (hour, rest) ← field? 2 text
  let (minute, rest) ← after? ':' rest
  if 23 < hour ∨ 59 < minute then
    none
  if rest.head? = some ':' then
    let (second, rest) ← after? ':' rest
    if second ≤ 60 then fraction? rest else none
  else
    some rest

/-- The rest is nothing, or the distance from universal time. -/
def isOffset : List Char → Bool
  | [] | ['Z'] | ['z'] => true
  | c :: rest =>
    (c == '+' || c == '-') &&
      match field? 2 rest with
      | some (hours, rest) =>
        match after? ':' rest with
        | some (minutes, []) => hours ≤ 23 && minutes ≤ 59
        | _ => false
      | none => false

def separatesTime (c : Char) : Bool :=
  c == 'T' || c == 't' || c == ' '

/-- The text is a date, a time, or a date with a time. -/
def isDatetime (text : List Char) : Bool :=
  match date? text with
  | some [] => true
  | some (c :: rest) => separatesTime c && (time? rest).any isOffset
  | none => time? text == some []

end Calendar

/-- The characters of values without marks. -/
def isScalarChar (c : Char) : Bool :=
  c.isAlphanum || c == '+' || c == '-' || c == '_' || c == '.' || c == ':'

/-- What a text without marks stands for. -/
def Value.ofScalar? (text : List Char) : Option Value :=
  if text = "true".toList then some (.boolean true)
  else if text = "false".toList then some (.boolean false)
  else if let some n := Number.integer? text then some (.integer n)
  else if let some literal := Number.float? text then some (.float literal)
  else if Calendar.isDatetime text then some (.datetime (String.ofList text))
  else none

/-- Cuts a text after its first value without marks. A blank may stand between date and time. -/
def splitScalar (text : List Char) : List Char × List Char :=
  let (first, rest) := text.span isScalarChar
  match rest with
  | ' ' :: c :: more =>
    if Calendar.date? first == some [] && c.isDigit then
      let (second, rest) := (c :: more).span isScalarChar
      (first ++ ' ' :: second, rest)
    else
      (first, rest)
  | _ => (first, rest)

end LayerCull.Toml
