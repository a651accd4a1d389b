import LayerCull.Text.Digits

/-!
This module contains the strings of TOML: basic ones with escapes, literal ones without, and both over
one line or several.
-/

namespace LayerCull.Toml

/-- Whether a character may stand in a comment or a string of one line. -/
def isText (c : Char) : Bool :=
  c == '\t' || (0x20 ≤ c.toNat && c.toNat != 0x7F)

def isGap (c : Char) : Bool :=
  c == ' ' || c == '\t'

namespace Quote

/-- What kind of string the opening marks announce. -/
structure Style where
  mark : Char
  multiline : Bool

/-- Only the double mark takes escapes. -/
def Style.escapes (style : Style) : Bool :=
  style.mark == '"'

/-- What has been seen of something that takes more than one character. -/
inductive Pending where
  | nothing
  | backslash
  /-- A code point, of which so many digits are to come. -/
  | code (left value : Nat)
  /-- A backslash and blanks, which have to end their line. -/
  | lineEnding
  /-- Blanks and line breaks after such a line. -/
  | skipping

/-- The character for which a backslash and a letter stand. -/
def shortEscape? : Char → Option Char
  | 'b' => some '\x08'
  | 't' => some '\t'
  | 'n' => some '\n'
  | 'f' => some '\x0c'
  | 'r' => some '\r'
  | 'e' => some '\x1b'
  | '"' => some '"'
  | '\\' => some '\\'
  | _ => none

/-- How many digits of a code point follow the letter. -/
def codeLength? : Char → Option Nat
  | 'x' => some 2
  | 'u' => some 4
  | 'U' => some 8
  | _ => none

/-- The marks that belong to the string and what follows it, if the string ends here. Up to two marks
more than the three that end a string of several lines belong to it. -/
def closing? (style : Style) (text : List Char) : Option (List Char × List Char) :=
  let marks := (text.take 5).takeWhile (· == style.mark)
  if !style.multiline then
    if marks.isEmpty then none else some ([], text.drop 1)
  else if 3 ≤ marks.length then
    some (marks.drop 3, text.drop marks.length)
  else
    none

/-- The rest begins with a line feed, so that a carriage return before it ends a line. -/
def beginsLine (rest : List Char) : Bool :=
  rest.head? == some '\n'

/-- What a character adds to a string where nothing is pending, and what is pending after it. -/
def plain? (style : Style) (c : Char) (rest : List Char) : Option (List Char × Pending) :=
  if c == '\\' && style.escapes then some ([], .backslash)
  else if isText c || style.multiline && (c == '\n' || c == '\r' && beginsLine rest) then
    some ([c], .nothing)
  else none

/-- What a character adds to a string, and what is pending after it. -/
def step? (style : Style) (pending : Pending) (c : Char) (rest : List Char) :
    Option (List Char × Pending) :=
  match pending with
  | .nothing => plain? style c rest
  | .backslash =>
    match shortEscape? c, codeLength? c with
    | some d, _ => some ([d], .nothing)
    | none, some n => some ([], .code n 0)
    | none, none =>
      if !style.multiline then none
      else if c == '\n' then some ([], .skipping)
      else if isGap c || c == '\r' && beginsLine rest then some ([], .lineEnding)
      else none
  | .code left value =>
    match Text.Digits.value? c with
    | none => none
    | some d =>
      let value := 16 * value + d
      if 1 < left then some ([], .code (left - 1) value)
      else if value.isValidChar then some ([Char.ofNat value], .nothing)
      else none
  | .lineEnding =>
    if c == '\n' then some ([], .skipping)
    else if isGap c || c == '\r' && beginsLine rest then some ([], .lineEnding)
    else none
  | .skipping =>
    if c == '\n' || isGap c || c == '\r' && beginsLine rest then some ([], .skipping)
    else plain? style c rest

/-- What `closing?` finds, where nothing is left open. -/
def ends? (style : Style) (pending : Pending) (text : List Char) :
    Option (List Char × List Char) :=
  match pending with
  | .nothing | .skipping => closing? style text
  | _ => none

/-- A string up to its closing marks, and what follows them. -/
def body (style : Style) (pending : Pending) (text : List Char) :
    Option (List Char × List Char) :=
  match text with
  | [] => none
  | c :: rest =>
    match ends? style pending (c :: rest) with
    | some found => some found
    | none => do
      let (piece, pending) ← step? style pending c rest
      let (text, rest) ← body style pending rest
      return (piece ++ text, rest)

end Quote

/-- Drops the line break that may follow the opening marks of several lines. -/
def dropFirstBreak : List Char → List Char
  | '\n' :: rest | '\r' :: '\n' :: rest => rest
  | text => text

/-- A string of one line. -/
def lineString? : List Char → Option (List Char × List Char)
  | '"' :: rest => Quote.body ⟨'"', false⟩ .nothing rest
  | '\'' :: rest => Quote.body ⟨'\'', false⟩ .nothing rest
  | _ => none

/-- A string, whatever its marks. -/
def string? : List Char → Option (List Char × List Char)
  | '"' :: '"' :: '"' :: rest => Quote.body ⟨'"', true⟩ .nothing (dropFirstBreak rest)
  | '\'' :: '\'' :: '\'' :: rest => Quote.body ⟨'\'', true⟩ .nothing (dropFirstBreak rest)
  | text => lineString? text

end LayerCull.Toml
