import LayerCull.Text.Digits
import LayerCull.Text.Utf8

/-!
This module contains percent escapes, and the characters that each part of a URL writes as escapes.
-/

namespace LayerCull.Url

namespace Percent

def hexDigit (n : Nat) : Char :=
  Char.ofNat (if n < 10 then '0'.toNat + n else 'A'.toNat + (n - 10))

/-- A byte as `%` and two digits. -/
def escapeByte (b : UInt8) : List Char :=
  ['%', hexDigit (b.toNat / 16), hexDigit (b.toNat % 16)]

/-- Escapes the characters of a set, and all that is not ASCII. -/
def encodeChar (set : Char → Bool) (c : Char) : List Char :=
  if set c || 0x80 ≤ c.toNat then (Utf8.encode [c]).flatMap escapeByte else [c]

def encode (set : Char → Bool) (text : List Char) : List Char :=
  text.flatMap (encodeChar set)

/-- The bytes of a text, with each escape as the byte that it stands for. -/
def decode : List Char → List UInt8
  | '%' :: a :: b :: rest =>
    match Text.Digits.value? a, Text.Digits.value? b with
    | some high, some low => UInt8.ofNat (16 * high + low) :: decode rest
    | _, _ => Utf8.encode ['%'] ++ decode (a :: b :: rest)
  | c :: rest => Utf8.encode [c] ++ decode rest
  | [] => []

def control (c : Char) : Bool :=
  c.toNat < 0x20 || c.toNat = 0x7F

def inFragment (c : Char) : Bool :=
  control c || c == ' ' || c == '"' || c == '<' || c == '>' || c == '\x60'

def inPath (c : Char) : Bool :=
  inFragment c || c == '#' || c == '?' || c == '\x7b' || c == '\x7d'

def inUserinfo (c : Char) : Bool :=
  inPath c || c == '/' || c == ':' || c == ';' || c == '=' || c == '@' || c == '[' || c == '\\' ||
    c == ']' || c == '^' || c == '|'

def inQuery (c : Char) : Bool :=
  control c || c == ' ' || c == '"' || c == '#' || c == '<' || c == '>'

/-- The query of a scheme that browsers know also escapes the apostrophe. -/
def inSpecialQuery (c : Char) : Bool :=
  inQuery c || c == '\''

end Percent

end LayerCull.Url
