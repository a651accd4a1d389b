/-!
This module contains the writing of a label in letters, digits and hyphens. Its basic characters come
first; the others follow as differences between their code points, in numbers of variable length.
-/

namespace LayerCull.Url.Punycode

def digitChar (d : Nat) : Char :=
  Char.ofNat (if d < 26 then 'a'.toNat + d else '0'.toNat + (d - 26))

def digitValue? (c : Char) : Option Nat :=
  if 'a' ≤ c ∧ c ≤ 'z' then some (c.toNat - 'a'.toNat)
  else if 'A' ≤ c ∧ c ≤ 'Z' then some (c.toNat - 'A'.toNat)
  else if '0' ≤ c ∧ c ≤ '9' then some (c.toNat - '0'.toNat + 26)
  else none

/-- A digit below the threshold of its place is the last one of its number. -/
def threshold (bias place : Nat) : Nat :=
  if place ≤ bias then 1 else if bias + 26 ≤ place then 26 else place - bias

theorem threshold_pos (bias place : Nat) : 1 ≤ threshold bias place := by
  unfold threshold
  split
  . omega
  . split <;> omega

theorem threshold_le (bias place : Nat) : threshold bias place ≤ 26 := by
  unfold threshold
  split
  . omega
  . split <;> omega

/-- The bias after a difference, so that the next one of its size takes few digits. -/
def adapt (difference count : Nat) (first : Bool) : Nat :=
  let scaled := if first then difference / 700 else difference / 2
  go 0 (scaled + scaled / count)
where
  go (bias rest : Nat) : Nat :=
    if 455 < rest then
      go (bias + 36) (rest / 35)
    else
      bias + 36 * rest / (rest + 38)
  termination_by rest

def encodeNumber (bias place n : Nat) : List Char :=
  let t := threshold bias place
  if n < t then
    [digitChar n]
  else
    digitChar (t + (n - t) % (36 - t)) :: encodeNumber bias (place + 36) ((n - t) / (36 - t))
termination_by n
decreasing_by
  have := threshold_pos bias place
  have := threshold_le bias place
  exact Nat.lt_of_le_of_lt (Nat.div_le_self _ _) (by omega)

/-- How far the writing has come. -/
structure Progress where
  /-- The characters of the label below this code point are written. -/
  code : Nat := 128
  difference : Nat := 0
  bias : Nat := 72
  written : Nat

def isBasic (c : Char) : Bool :=
  c.toNat < 128

def encode (label : List Char) : List Char :=
  let basic := label.filter isBasic
  let codes := (label.filter fun c => !isBasic c).map Char.toNat
  let head := if basic.isEmpty then [] else basic ++ ['-']
  head ++ go { written := basic.length } (codes.mergeSort.eraseReps)
where
  /-- Passes over the label once for each code point, in rising order. -/
  go (p : Progress) : List Nat → List Char
    | [] => []
    | code :: codes =>
      let p := { p with code, difference := p.difference + (code - p.code) * (p.written + 1) }
      let (digits, p) := label.foldl pass ([], p)
      digits ++ go { p with code := code + 1, difference := p.difference + 1 } codes
  pass : List Char × Progress → Char → List Char × Progress
    | (digits, p), c =>
      if c.toNat < p.code then
        (digits, { p with difference := p.difference + 1 })
      else if c.toNat = p.code then
        (digits ++ encodeNumber p.bias 36 p.difference,
          { p with
            difference := 0
            bias := adapt p.difference (p.written + 1) (p.written = (label.filter isBasic).length)
            written := p.written + 1 })
      else
        (digits, p)

/-- Reads one number; `weight` is what the next digit counts. -/
def decodeNumber (bias place weight n : Nat) : List Char → Option (Nat × List Char)
  | [] => none
  | c :: rest => do
    let d ← digitValue? c
    let t := threshold bias place
    if d < t then
      return (n + d * weight, rest)
    else
      decodeNumber bias (place + 36) (weight * (36 - t)) (n + d * weight) rest

theorem length_decodeNumber {bias place weight n m : Nat} {digits rest : List Char}
    (h : decodeNumber bias place weight n digits = some (m, rest)) :
    rest.length < digits.length := by
  induction digits generalizing place weight n with
  | nil => simp [decodeNumber] at h
  | cons c digits ih =>
    simp only [decodeNumber, Option.bind_eq_bind, Option.bind_eq_some_iff] at h
    obtain ⟨d, -, h⟩ := h
    split at h
    . obtain ⟨-, rfl⟩ := Prod.mk.inj (Option.some.inj h)
      simp
    . simp only [List.length_cons]
      have := ih h
      omega

/-- The character of a code point that a text may hold. -/
def scalar? (code : Nat) : Option Char :=
  if code.isValidChar then some (Char.ofNat code) else none

/-- Puts the characters that the digits describe between the ones that are there, beginning the
search for the place of each one where the last one ended. -/
def insertAll (code position bias : Nat) (label digits : List Char) : Option (List Char) :=
  if digits.isEmpty then
    some label
  else
    match _h : decodeNumber bias 36 1 0 digits with
    | none => none
    | some (difference, rest) =>
      let count := label.length + 1
      let code := code + (position + difference) / count
      let next := (position + difference) % count
      match scalar? code with
      | none => none
      | some c =>
        insertAll code (next + 1) (adapt difference count (position = 0))
          (label.take next ++ c :: label.drop next) rest
termination_by digits.length
decreasing_by exact length_decodeNumber _h

def decode? (text : List Char) : Option (List Char) :=
  let basic := (text.reverse.dropWhile (· != '-')).drop 1 |>.reverse
  let digits := (text.reverse.takeWhile (· != '-')).reverse
  if basic.all isBasic then insertAll 128 0 72 basic digits else none

end LayerCull.Url.Punycode
