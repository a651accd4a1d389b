import LayerCull.Http.Request
import LayerCull.Text.Cut

/-!
This module contains what a server reads in the header that tells who is asking. The readers make
no use of what writes the header: the 64 characters are given by their ranges, and the standard
library says which bytes are text. `Credentials.text?_append_encode` states that a text is read back
from the header, and `Credentials.read?_of_text?` that the name and the password can be told apart if
there is no colon in the name.
-/

namespace LayerCull

namespace Base64

/-- The number that a character stands for. -/
def value? (c : Char) : Option Nat :=
  if 'A' ≤ c ∧ c ≤ 'Z' then some (c.toNat - 'A'.toNat)
  else if 'a' ≤ c ∧ c ≤ 'z' then some (c.toNat - 'a'.toNat + 26)
  else if '0' ≤ c ∧ c ≤ '9' then some (c.toNat - '0'.toNat + 52)
  else if c = '+' then some 62
  else if c = '/' then some 63
  else none

/-- The three bytes that four characters stand for. -/
def group? (a b c d : Char) : Option (List UInt8) := do
  let w ← value? a
  let x ← value? b
  let y ← value? c
  let z ← value? d
  let n := 262144 * w + 4096 * x + 64 * y + z
  some [.ofNat (n / 65536), .ofNat (n / 256), .ofNat n]

/-- A sign of equality stands in the place of a zero, and for a byte that is not there. -/
def decode? : List Char → Option (List UInt8)
  | [] => some []
  | [a, b, '=', '='] => (group? a b 'A' 'A').map (List.take 1)
  | [a, b, c, '='] => (group? a b c 'A').map (List.take 2)
  | a :: b :: c :: d :: rest => do
    let bytes ← group? a b c d
    let later ← decode? rest
    some (bytes ++ later)
  | _ => none

theorem value?_digit (n : Nat) : value? (digit n) = some (n % 64) := by
  have hall : ∀ m ∈ List.range 64, value? (alphabet.getD m 'A') = some m := by
    decide +kernel
  exact hall (n % 64) (List.mem_range.2 (Nat.mod_lt n (by decide)))

theorem digit_ne_equals (n : Nat) : digit n ≠ '=' := by
  intro h
  have hvalue := value?_digit n
  rw [h] at hvalue
  contradiction

theorem digit_of_mod_eq_zero {n : Nat} (h : n % 64 = 0) : digit n = 'A' := by
  rw [digit, h]
  decide

theorem ofNat_eq_of_mod_eq {n : Nat} {b : UInt8} (h : n % 256 = b.toNat) : UInt8.ofNat n = b := by
  apply UInt8.toNat_inj.1
  rw [UInt8.toNat_ofNat']
  exact h

/-- The digits of three bytes are read as these bytes. -/
theorem group?_digit {a b c : UInt8} {n : Nat}
    (hn : a.toNat * 65536 + b.toNat * 256 + c.toNat = n) :
    group? (digit (n / 262144)) (digit (n / 4096)) (digit (n / 64)) (digit n) = some [a, b, c] := by
  have ha := a.toNat_lt
  have hb := b.toNat_lt
  have hc := c.toNat_lt
  have hjoin : 262144 * (n / 262144 % 64) + 4096 * (n / 4096 % 64) + 64 * (n / 64 % 64) + n % 64 =
      n := by
    omega
  have hfirst : UInt8.ofNat (n / 65536) = a := ofNat_eq_of_mod_eq (by omega)
  have hsecond : UInt8.ofNat (n / 256) = b := ofNat_eq_of_mod_eq (by omega)
  have hthird : UInt8.ofNat n = c := ofNat_eq_of_mod_eq (by omega)
  simp only [group?, value?_digit, Option.bind_eq_bind, Option.bind_some, hjoin, hfirst, hsecond,
    hthird]

theorem decode?_encode (bytes : List UInt8) : decode? (encode bytes) = some bytes := by
  fun_induction encode bytes with
  | case1 => rfl
  | case2 a n =>
    have hgroup := group?_digit (a := a) (b := 0) (c := 0) (n := n) (by simp [n])
    rw [digit_of_mod_eq_zero (n := n / 64) (by omega),
      digit_of_mod_eq_zero (n := n) (by omega)] at hgroup
    rw [decode?, hgroup]
    rfl
  | case3 a b n =>
    have hgroup := group?_digit (a := a) (b := b) (c := 0) (n := n) (by simp [n])
    rw [digit_of_mod_eq_zero (n := n) (by omega)] at hgroup
    rw [decode?, hgroup]
    . rfl
    . exact digit_ne_equals _
  | case4 a b c rest n ih =>
    have hgroup := group?_digit (a := a) (b := b) (c := c) (n := n) rfl
    rw [decode?, hgroup, ih]
    . rfl
    . intro _ h
      exact absurd h (digit_ne_equals _)
    . intro h
      exact absurd h (digit_ne_equals _)

end Base64

theorem Utf8.fromUTF8?_encode (text : List Char) :
    String.fromUTF8? (encode text).toByteArray = some (String.ofList text) := by
  have hbytes : (encode text).toByteArray = (String.ofList text).toByteArray := by
    rw [String.toByteArray_ofList]
    rfl
  rw [hbytes, String.fromUTF8?, dif_pos (String.ofList text).isValidUTF8]
  rfl

namespace Http.Credentials

/-- The name and the password, with a colon between them. -/
def text? (header : String) : Option String :=
  match Text.cut ' ' header.toList with
  | (scheme, some code) =>
    if scheme = "Basic".toList then
      (Base64.decode? code).bind fun bytes => String.fromUTF8? bytes.toByteArray
    else
      none
  | (_, none) => none

/-- The first colon ends the name. -/
def read? (header : String) : Option (String × String) :=
  match (text? header).map fun text => Text.cut ':' text.toList with
  | some (name, some password) => some (String.ofList name, String.ofList password)
  | _ => none

theorem toList_append_encode (text : String) :
    ("Basic " ++ String.ofList (Base64.encode (Utf8.encode text.toList))).toList =
      "Basic".toList ++ ' ' :: Base64.encode (Utf8.encode text.toList) := by
  simp [String.toList_append]

theorem text?_append_encode (text : String) :
    text? ("Basic " ++ String.ofList (Base64.encode (Utf8.encode text.toList))) = some text := by
  have hblank : ' ' ∉ "Basic".toList := by decide
  rw [text?, toList_append_encode, Text.cut_append hblank]
  dsimp only
  rw [if_pos rfl, Base64.decode?_encode, Option.bind_some, Utf8.fromUTF8?_encode,
    String.ofList_toList]

theorem toList_append_colon (name password : String) :
    (name ++ ":" ++ password).toList = name.toList ++ ':' :: password.toList := by
  simp [String.toList_append]

theorem read?_of_text? {header name password : String}
    (h : text? header = some (name ++ ":" ++ password)) (hname : ':' ∉ name.toList) :
    read? header = some (name, password) := by
  rw [read?, h, Option.map_some, toList_append_colon, Text.cut_append hname]
  dsimp only
  rw [String.ofList_toList, String.ofList_toList]

theorem basicCredentials_eq (name password : String) :
    basicCredentials name.toList password.toList =
      "Basic " ++ String.ofList (Base64.encode (Utf8.encode (name ++ ":" ++ password).toList)) := by
  unfold basicCredentials
  rw [toList_append_colon, String.ofList_append, String.ofList_toList]

end Http.Credentials

end LayerCull
