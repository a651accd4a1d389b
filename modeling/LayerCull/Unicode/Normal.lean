import LayerCull.Unicode.CombiningClass
import LayerCull.Unicode.Decomposition
import Std.Data.HashMap

/-!
This module contains the composed normal form of a text. Characters are taken apart as far as they
go, the marks after each starter are put in order, and what can be put together is put together.
-/

namespace LayerCull.Unicode

namespace Hangul

/-! Syllables of Hangul are composed by arithmetic: a leading consonant, a vowel, and perhaps a
trailing consonant. -/

def syllableBase : Nat := 0xAC00
def leadBase : Nat := 0x1100
def vowelBase : Nat := 0x1161
def trailBase : Nat := 0x11A7
def leadCount : Nat := 19
def vowelCount : Nat := 21
def trailCount : Nat := 28

def decompose? (code : Nat) : Option (List Nat) :=
  let index := code - syllableBase
  if syllableBase ≤ code ∧ index < leadCount * vowelCount * trailCount then
    let lead := leadBase + index / (vowelCount * trailCount)
    let vowel := vowelBase + index % (vowelCount * trailCount) / trailCount
    let trail := index % trailCount
    some (if trail = 0 then [lead, vowel] else [lead, vowel, trailBase + trail])
  else
    none

def compose? (first second : Nat) : Option Nat :=
  if leadBase ≤ first ∧ first < leadBase + leadCount ∧
      vowelBase ≤ second ∧ second < vowelBase + vowelCount then
    some (syllableBase +
      ((first - leadBase) * vowelCount + (second - vowelBase)) * trailCount)
  else if syllableBase ≤ first ∧ first < syllableBase + leadCount * vowelCount * trailCount ∧
      (first - syllableBase) % trailCount = 0 ∧
      trailBase < second ∧ second < trailBase + trailCount then
    some (first + (second - trailBase))
  else
    none

end Hangul

namespace Normal

/-- How often the parts of a character may have parts themselves. -/
def maxDepth : Nat := 8

def decompose (code : Nat) : List Nat :=
  (Hangul.decompose? code).getD (go maxDepth code)
where
  go : Nat → Nat → List Nat
    | 0, code => [code]
    | depth + 1, code =>
      match decompositions.find? code with
      | none => [code]
      | some ⟨_, _, parts⟩ =>
        go depth parts.first ++
          match parts.second with
          | some mark => go depth mark
          | none => []

def classOf (code : Nat) : Nat :=
  combiningClass (Char.ofNat code)

/-- Sorts every stretch of marks by class; marks of one class keep their order. -/
def order (codes : List Nat) : List Nat :=
  go codes []
where
  sorted (marks : List Nat) : List Nat :=
    marks.reverse.mergeSort fun a b => classOf a ≤ classOf b
  go : List Nat → List Nat → List Nat
    | [], marks => sorted marks
    | code :: codes, marks =>
      if classOf code = 0 then sorted marks ++ code :: go codes [] else go codes (code :: marks)

/-- The characters that two others make up. -/
def compositions : Std.HashMap (Nat × Nat) Nat :=
  decompositions.foldl (fun table span =>
    match span.value with
    | ⟨first, some second, true⟩ => table.insert (first, second) span.first
    | _ => table) ∅

def compose? (first second : Nat) : Option Nat :=
  (Hangul.compose? first second).orElse fun _ => compositions[(first, second)]?

/-- Puts marks and vowels into the starter before them, unless a mark of the same or a higher class
stands between. -/
def compose : List Nat → List Nat
  | [] => []
  | code :: codes => if classOf code = 0 then go code [] codes else code :: compose codes
where
  /-- The marks between the starter and the rest come last to first. -/
  go (starter : Nat) (marks : List Nat) : List Nat → List Nat
    | [] => starter :: marks.reverse
    | code :: codes =>
      let class_ := classOf code
      let reaches := match marks with
        | [] => true
        | mark :: _ => classOf mark < class_
      match if reaches then compose? starter code else none with
      | some whole => go whole marks codes
      | none =>
        if class_ = 0 then
          starter :: marks.reverse ++ go code [] codes
        else
          go starter (code :: marks) codes

end Normal

/-- The composed normal form. -/
def normalForm (text : List Char) : List Char :=
  (Normal.compose (Normal.order (text.flatMap fun c => Normal.decompose c.toNat))).map Char.ofNat

end LayerCull.Unicode
