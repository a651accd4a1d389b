/-!
This module contains the encoding of characters as bytes, one to four for each. `Utf8.decode?` refuses
bytes that encode nothing, `Utf8.decodeLossy` puts a replacement character in their place.
-/

namespace LayerCull.Utf8

def encode (text : List Char) : List UInt8 :=
  text.flatMap String.utf8EncodeChar

/-- What the first byte of a character announces. -/
structure Lead where
  /-- The part of the code point that the first byte holds. -/
  bits : Nat
  /-- How many bytes follow. -/
  count : Nat
  /-- The least and the greatest second byte. -/
  least : UInt8 := 0x80
  greatest : UInt8 := 0xBF

def lead? (b : UInt8) : Option Lead :=
  let n := b.toNat
  if n < 0x80 then some { bits := n, count := 0 }
  else if n < 0xC2 then none
  else if n < 0xE0 then some { bits := n - 0xC0, count := 1 }
  else if n = 0xE0 then some { bits := 0, count := 2, least := 0xA0 }
  else if n = 0xED then some { bits := 0xD, count := 2, greatest := 0x9F }
  else if n < 0xF0 then some { bits := n - 0xE0, count := 2 }
  else if n = 0xF0 then some { bits := 0, count := 3, least := 0x90 }
  else if n < 0xF4 then some { bits := n - 0xF0, count := 3 }
  else if n = 0xF4 then some { bits := 4, count := 3, greatest := 0x8F }
  else none

/-- Reads the bytes after the first one. Where they break off, the rest begins. -/
def follow (bits : Nat) : Nat → UInt8 → UInt8 → List UInt8 → Option Char × List UInt8
  | 0, _, _, rest => (some (Char.ofNat bits), rest)
  | _ + 1, _, _, [] => (none, [])
  | count + 1, least, greatest, b :: rest =>
    if least ≤ b ∧ b ≤ greatest then
      follow (64 * bits + b.toNat % 64) count 0x80 0xBF rest
    else
      (none, b :: rest)

/-- Reads one character, or the longest stretch that could have begun one. -/
def read (b : UInt8) (rest : List UInt8) : Option Char × List UInt8 :=
  match lead? b with
  | some lead => follow lead.bits lead.count lead.least lead.greatest rest
  | none => (none, rest)

theorem length_follow_le (bits count : Nat) (least greatest : UInt8) (rest : List UInt8) :
    (follow bits count least greatest rest).2.length ≤ rest.length := by
  fun_induction follow bits count least greatest rest with
  | case1 => simp
  | case2 => simp
  | case3 bits count least greatest b rest h ih => simp; omega
  | case4 => simp

theorem length_read_le (b : UInt8) (rest : List UInt8) :
    (read b rest).2.length ≤ rest.length := by
  unfold read
  split
  . exact length_follow_le ..
  . simp

/-- The characters in turn; `none` stands for bytes that encode nothing. -/
def pieces : List UInt8 → List (Option Char)
  | [] => []
  | b :: rest => (read b rest).1 :: pieces (read b rest).2
termination_by bytes => bytes.length
decreasing_by
  have := length_read_le b rest
  simp
  omega

def decode? (bytes : List UInt8) : Option (List Char) :=
  (pieces bytes).mapM id

def replacement : Char :=
  '\ufffd'

def decodeLossy (bytes : List UInt8) : List Char :=
  (pieces bytes).map fun piece => piece.getD replacement

end LayerCull.Utf8
