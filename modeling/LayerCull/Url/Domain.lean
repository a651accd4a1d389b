import LayerCull.Unicode.Bidi
import LayerCull.Unicode.DomainMapping
import LayerCull.Unicode.Joining
import LayerCull.Unicode.Mark
import LayerCull.Unicode.Normal
import LayerCull.Url.Punycode

/-!
This module contains the names of hosts. `Domain.toAscii?` turns a name in any script into the one form
under which it is looked up: lower-case letters, digits and hyphens, with the labels in other scripts
encoded.
-/

namespace LayerCull.Url.Domain

/-- The characters of ASCII that no host name may hold. -/
def forbidden (c : Char) : Bool :=
  c.toNat ≤ 0x20 || c.toNat == 0x7F || "%#/:<>?@[\\]^|".toList.contains c

/-- How a label in another script begins once it is encoded. -/
def encodedMark : List Char :=
  ['x', 'n', '-', '-']

def isAscii (text : List Char) : Bool :=
  text.all fun c => c.toNat < 128

/-- Joiners need a virama before them, or letters on both sides that join. -/
def joinersFit (label : List Char) : Bool :=
  go [] label
where
  /-- The characters before come last to first. -/
  go (before : List Char) : List Char → Bool
    | [] => true
    | c :: after => fits before c after && go (c :: before) after
  fits (before : List Char) (c : Char) (after : List Char) : Bool :=
    if c = '\u200c' then afterVirama before || (joinsAfter before && joinsBefore after)
    else if c = '\u200d' then afterVirama before
    else true
  afterVirama (before : List Char) : Bool :=
    before.head?.any Unicode.isVirama
  nextJoining (text : List Char) : Option Unicode.JoiningType :=
    (text.map Unicode.joiningType).find? (· ≠ .transparent)
  joinsAfter (before : List Char) : Bool :=
    nextJoining before == some .left || nextJoining before == some .dual
  joinsBefore (after : List Char) : Bool :=
    nextJoining after == some .right || nextJoining after == some .dual

def runsRightToLeft : Unicode.BidiClass → Bool
  | .rightToLeft | .arabicLetter => true
  | _ => false

/-- A name with such a label has to keep the directions of its labels apart. -/
def isMixedDirection (label : List Char) : Bool :=
  label.any fun c =>
    let direction := Unicode.bidiClass c
    runsRightToLeft direction || direction == .arabicNumber

/-- The label runs in one direction from its first to its last character. -/
def keepsDirection (label : List Char) : Bool :=
  let classes := label.map Unicode.bidiClass
  let last := classes.reverse.find? (· ≠ .nonspacingMark)
  match classes.head? with
  | none => true
  | some .leftToRight =>
    classes.all (fun d => d == .leftToRight || isNeutral d) &&
      (last == some .leftToRight || last == some .europeanNumber)
  | some first =>
    runsRightToLeft first &&
    classes.all (fun d => runsRightToLeft d || d == .arabicNumber || isNeutral d) &&
      last.any (fun d => runsRightToLeft d || d == .europeanNumber || d == .arabicNumber) &&
      !(classes.contains .europeanNumber && classes.contains .arabicNumber)
where
  isNeutral : Unicode.BidiClass → Bool
    | .europeanNumber | .europeanSeparator | .commonSeparator | .europeanTerminator
    | .otherNeutral | .boundaryNeutral | .nonspacingMark => true
    | _ => false

/-- The label stands as it is: no mark begins it, and joiners are where they may be. -/
def isSound (label : List Char) : Bool :=
  !label.head?.any Unicode.isMark && joinersFit label

/-- How many characters a label in another script may have, before and after it is encoded. -/
def maxLength : Nat := 1000
def maxEncodedLength : Nat := 2000

/-- Reads an encoded label. It must hold a character for which encoding was needed, and be in the form
in which it would have been encoded. -/
def readEncoded? (text : List Char) : Option (List Char) := do
  if text.length > maxEncodedLength then
    none
  let label ← Punycode.decode? text
  if !isAscii label && !encodedMark.isPrefixOf label && Unicode.normalForm label == label &&
      label.all (fun c => Unicode.domainMapping c == some [c]) then
    some label
  else
    none

/-- The label in its own script. -/
def readLabel? (label : List Char) : Option (List Char) := do
  let label ← if encodedMark.isPrefixOf label then readEncoded? (label.drop 4) else some label
  if isAscii label || isSound label then some label else none

def writeLabel? (label : List Char) : Option (List Char) :=
  if isAscii label then some label
  else if label.length ≤ maxLength then some (encodedMark ++ Punycode.encode label)
  else none

/-- A name in letters of ASCII only, none of whose labels is encoded. -/
def isPlain (name : List Char) : Bool :=
  isAscii name &&
    (name.splitOn '.').all fun label => !encodedMark.isPrefixOf (label.map Char.toLower)

/-- The plain form of a name in other scripts. -/
def encode? (name : List Char) : Option (List Char) := do
  let mapped ← name.mapM Unicode.domainMapping
  let labels ← ((Unicode.normalForm mapped.flatten).splitOn '.').mapM readLabel?
  if labels.any isMixedDirection && !labels.all keepsDirection then
    none
  if labels.any fun label => label.any forbidden then
    none
  return ['.'].intercalate (← labels.mapM writeLabel?)

def toAscii? (name : List Char) : Option (List Char) :=
  if isPlain name then
    if name.any forbidden then none else some (name.map Char.toLower)
  else
    encode? name

end LayerCull.Url.Domain
