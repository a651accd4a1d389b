import LayerCull.Url.Percent

/-!
This module contains what is read back from a text with escapes. Escaping keeps what a text decodes
to, and a text decodes to itself exactly if it holds no escape.
-/

namespace LayerCull

/-- Whether all characters of a list have a property is decided along the list, and not by going through
all characters there are. -/
instance Text.decidableForallMem {text : List Char} {P : Char → Prop} [DecidablePred P] :
    Decidable (∀ c ∈ text, P c) :=
  List.decidableBAll P text

/-- What holds of the characters with small codes can be tested on the codes. -/
theorem Text.forall_of_toNat_lt {bound : Nat} {P : Char → Prop}
    (h : ∀ n < bound, P (Char.ofNat n)) {c : Char} (hc : c.toNat < bound) : P c := by
  rw [← Char.ofNat_toNat c]
  exact h c.toNat hc

namespace Utf8

theorem encode_cons (c : Char) (rest : List Char) :
    encode (c :: rest) = encode [c] ++ encode rest := by
  simp [encode]

theorem encode_append (front back : List Char) :
    encode (front ++ back) = encode front ++ encode back :=
  List.flatMap_append

theorem encode_injective : Function.Injective encode := by
  intro a b h
  have hbytes : (String.ofList a).toByteArray = (String.ofList b).toByteArray := by
    rw [String.toByteArray_ofList, String.toByteArray_ofList, List.utf8Encode, List.utf8Encode]
    exact congrArg List.toByteArray h
  exact String.ofList_injective (String.toByteArray_inj.1 hbytes)

theorem length_encode_singleton_pos (c : Char) : 0 < (encode [c]).length := by
  simp [encode, String.length_utf8EncodeChar, Char.utf8Size_pos]

theorem length_encode_lt_cons (c : Char) (rest : List Char) :
    (encode rest).length < (encode (c :: rest)).length := by
  rw [encode_cons, List.length_append]
  have := length_encode_singleton_pos c
  omega

end Utf8

namespace Url.Percent

open Text.Digits (isHex value?)

/-- Two digits to the base sixteen begin the text. -/
def BeginsPair (text : List Char) : Prop :=
  ∃ high low rest, text = high :: low :: rest ∧ isHex high = true ∧ isHex low = true

/-- Somewhere a percent sign stands before two digits to the base sixteen. -/
def Escaped (text : List Char) : Prop :=
  ∃ before after, text = before ++ '%' :: after ∧ BeginsPair after

theorem value?_hexDigit {n : Nat} (h : n < 16) : value? (hexDigit n) = some n := by
  have hall : ∀ m ∈ List.range 16, value? (hexDigit m) = some m := by decide
  exact hall n (List.mem_range.2 h)

theorem isHex_percent : isHex '%' = false := by
  decide

theorem beginsPair_cons_cons {high low : Char} {rest : List Char} :
    BeginsPair (high :: low :: rest) ↔ isHex high = true ∧ isHex low = true := by
  constructor
  . rintro ⟨_, _, _, htext, hhigh, hlow⟩
    cases htext
    exact ⟨hhigh, hlow⟩
  . rintro ⟨hhigh, hlow⟩
    exact ⟨high, low, rest, rfl, hhigh, hlow⟩

theorem escaped_cons_iff {c : Char} {rest : List Char} :
    Escaped (c :: rest) ↔ (c = '%' ∧ BeginsPair rest) ∨ Escaped rest := by
  constructor
  . rintro ⟨before, after, htext, hpair⟩
    cases before with
    | nil =>
      cases htext
      exact .inl ⟨rfl, hpair⟩
    | cons d before => exact .inr ⟨before, after, (List.cons.inj htext).2, hpair⟩
  . rintro (⟨rfl, hpair⟩ | ⟨before, after, rfl, hpair⟩)
    . exact ⟨[], rest, rfl, hpair⟩
    . exact ⟨c :: before, after, rfl, hpair⟩

theorem not_escaped_of_not_mem {text : List Char} (h : '%' ∉ text) : ¬Escaped text := by
  rintro ⟨before, after, rfl, _⟩
  apply h
  simp

theorem beginsPair_of_value? {high low : Char} {m n : Nat} (hhigh : value? high = some m)
    (hlow : value? low = some n) (rest : List Char) : BeginsPair (high :: low :: rest) := by
  rw [beginsPair_cons_cons, isHex, isHex, hhigh, hlow]
  exact ⟨rfl, rfl⟩

theorem exists_value?_of_beginsPair {high low : Char} {rest : List Char}
    (h : BeginsPair (high :: low :: rest)) :
    ∃ m n, value? high = some m ∧ value? low = some n := by
  rw [beginsPair_cons_cons, isHex, isHex, Option.isSome_iff_exists, Option.isSome_iff_exists] at h
  rcases h with ⟨⟨m, hm⟩, ⟨n, hn⟩⟩
  exact ⟨m, n, hm, hn⟩

theorem decode_cons {c : Char} {rest : List Char} (h : ¬(c = '%' ∧ BeginsPair rest)) :
    decode (c :: rest) = Utf8.encode [c] ++ decode rest := by
  rw [not_and] at h
  by_cases hc : c = '%'
  . subst hc
    rcases rest with _ | ⟨high, _ | ⟨low, rest⟩⟩
    . rfl
    . rfl
    . rw [decode]
      split
      . next hhigh hlow => exact absurd (beginsPair_of_value? hhigh hlow rest) (h rfl)
      . rfl
  . rw [decode]
    rintro _ _ _ rfl
    contradiction

theorem decode_percent_of_value? {high low : Char} {m n : Nat} (hhigh : value? high = some m)
    (hlow : value? low = some n) (rest : List Char) :
    decode ('%' :: high :: low :: rest) = UInt8.ofNat (16 * m + n) :: decode rest := by
  rw [decode, hhigh, hlow]

theorem decode_escapeByte_append (b : UInt8) (rest : List Char) :
    decode (escapeByte b ++ rest) = b :: decode rest := by
  have hb := b.toNat_lt
  have hhigh : value? (hexDigit (b.toNat / 16)) = some (b.toNat / 16) := value?_hexDigit (by omega)
  have hlow : value? (hexDigit (b.toNat % 16)) = some (b.toNat % 16) := value?_hexDigit (by omega)
  have hsum : 16 * (b.toNat / 16) + b.toNat % 16 = b.toNat := Nat.div_add_mod _ _
  rw [escapeByte, List.cons_append, List.cons_append, List.cons_append, List.nil_append,
    decode_percent_of_value? hhigh hlow, hsum, UInt8.ofNat_toNat]

theorem decode_flatMap_escapeByte_append (bytes : List UInt8) (rest : List Char) :
    decode (bytes.flatMap escapeByte ++ rest) = bytes ++ decode rest := by
  induction bytes with
  | nil => rfl
  | cons b bytes ih =>
    rw [List.flatMap_cons, List.append_assoc, decode_escapeByte_append, ih]
    rfl

theorem encode_cons (set : Char → Bool) (c : Char) (rest : List Char) :
    encode set (c :: rest) = encodeChar set c ++ encode set rest :=
  List.flatMap_cons

/-- An escaped character begins with a percent sign, and so begins no pair. -/
theorem encodeChar_eq (set : Char → Bool) (c : Char) :
    encodeChar set c = [c] ∨ ∃ rest, encodeChar set c = '%' :: rest := by
  unfold encodeChar
  split
  . right
    cases hbytes : Utf8.encode [c] with
    | nil =>
      have := Utf8.length_encode_singleton_pos c
      rw [hbytes] at this
      contradiction
    | cons b bytes => exact ⟨_, rfl⟩
  . exact .inl rfl

theorem decode_encodeChar_append {set : Char → Bool} {c : Char} (h : c ≠ '%') (rest : List Char) :
    decode (encodeChar set c ++ rest) = Utf8.encode [c] ++ decode rest := by
  unfold encodeChar
  split
  . exact decode_flatMap_escapeByte_append _ _
  . exact decode_cons (fun hpair => h hpair.1)

/-- A text is its first escape and the rest, or its first character and the rest. -/
theorem decode_induction {motive : List Char → Prop} (nil : motive [])
    (pair : ∀ high low rest m n, value? high = some m → value? low = some n → motive rest →
      motive ('%' :: high :: low :: rest))
    (cons : ∀ c rest, ¬(c = '%' ∧ BeginsPair rest) → motive rest → motive (c :: rest))
    (text : List Char) : motive text := by
  fun_induction decode text with
  | case1 high low rest m n hlow hhigh ih => exact pair high low rest m n hhigh hlow ih
  | case2 high low rest hpair ih =>
    apply cons _ _ _ ih
    rintro ⟨_, h⟩
    rcases exists_value?_of_beginsPair h with ⟨m, n, hm, hn⟩
    exact hpair m n hm hn
  | case3 c rest hpair ih =>
    apply cons _ _ _ ih
    rintro ⟨rfl, high, low, later, rfl, _⟩
    exact hpair high low later rfl rfl
  | case4 => exact nil

section

variable {set : Char → Bool} (hpercent : set '%' = false)
  (hhex : ∀ c, isHex c = true → set c = false)

include hpercent in
theorem encodeChar_percent : encodeChar set '%' = ['%'] := by
  rw [encodeChar, hpercent]
  rfl

theorem toNat_lt_of_isHex {c : Char} (h : isHex c = true) : c.toNat < 0x80 := by
  unfold isHex value? at h
  split at h
  . next hdigit => exact Nat.lt_of_le_of_lt hdigit.2 (by decide)
  . split at h
    . next hlower => exact Nat.lt_of_le_of_lt hlower.2 (by decide)
    . split at h
      . next hupper => exact Nat.lt_of_le_of_lt hupper.2 (by decide)
      . contradiction

include hhex in
theorem encodeChar_of_isHex {c : Char} (h : isHex c = true) : encodeChar set c = [c] := by
  have := toNat_lt_of_isHex h
  rw [encodeChar, hhex c h, if_neg]
  simp
  omega

/-- A character that is no digit of a pair is escaped with a percent sign, or stays what it is. -/
theorem exists_encodeChar_append_eq {c : Char} (h : isHex c = false) (rest : List Char) :
    ∃ d later, encodeChar set c ++ rest = d :: later ∧ isHex d = false := by
  rcases encodeChar_eq set c with hkept | ⟨later, hescaped⟩
  . exact ⟨c, rest, by rw [hkept, List.singleton_append], h⟩
  . exact ⟨'%', later ++ rest, by rw [hescaped, List.cons_append], isHex_percent⟩

include hhex in
theorem not_beginsPair_encode {text : List Char} (h : ¬BeginsPair text) :
    ¬BeginsPair (encode set text) := by
  rintro ⟨high, low, rest, htext, hhigh, hlow⟩
  cases text with
  | nil => contradiction
  | cons c text =>
    rw [encode_cons] at htext
    cases hc : isHex c with
    | false =>
      rcases exists_encodeChar_append_eq hc (encode set text) with ⟨d, later, heq, hd⟩
      rw [heq] at htext
      cases htext
      simp [hd] at hhigh
    | true =>
      rw [encodeChar_of_isHex hhex hc] at htext
      cases text with
      | nil => simp [encode] at htext
      | cons d text =>
        rw [beginsPair_cons_cons, not_and, Bool.not_eq_true] at h
        rw [encode_cons] at htext
        rcases exists_encodeChar_append_eq (h hc) (encode set text) with ⟨e, later, heq, he⟩
        rw [heq] at htext
        cases htext
        simp [he] at hlow

include hpercent hhex in
theorem decode_encode (text : List Char) : decode (encode set text) = decode text := by
  induction text using decode_induction with
  | nil => rfl
  | pair high low rest m n hhigh hlow ih =>
    have hhigh' : isHex high = true := by simp [isHex, hhigh]
    have hlow' : isHex low = true := by simp [isHex, hlow]
    rw [encode_cons, encode_cons, encode_cons, encodeChar_percent hpercent,
      encodeChar_of_isHex hhex hhigh', encodeChar_of_isHex hhex hlow']
    simp only [List.cons_append, List.nil_append]
    rw [decode_percent_of_value? hhigh hlow, decode_percent_of_value? hhigh hlow, ih]
  | cons c rest hpair ih =>
    rw [encode_cons, decode_cons hpair]
    by_cases hc : c = '%'
    . subst hc
      have hrest : ¬BeginsPair (encode set rest) :=
        not_beginsPair_encode hhex (fun h => hpair ⟨rfl, h⟩)
      rw [encodeChar_percent hpercent, List.singleton_append,
        decode_cons (fun h => hrest h.2), ih]
    . rw [decode_encodeChar_append hc, ih]

end

/-- An escape makes the text shorter; without one it stays what it is. -/
theorem decode_cases (text : List Char) :
    (Escaped text ∧ (decode text).length < (Utf8.encode text).length) ∨
      (¬Escaped text ∧ decode text = Utf8.encode text) := by
  induction text using decode_induction with
  | nil =>
    right
    exact ⟨not_escaped_of_not_mem List.not_mem_nil, rfl⟩
  | pair high low rest m n hhigh hlow ih =>
    left
    constructor
    . rw [escaped_cons_iff]
      exact .inl ⟨rfl, beginsPair_of_value? hhigh hlow rest⟩
    . have hrest : (decode rest).length ≤ (Utf8.encode rest).length := by
        rcases ih with ⟨_, hlt⟩ | ⟨_, heq⟩
        . exact Nat.le_of_lt hlt
        . exact Nat.le_of_eq (congrArg List.length heq)
      have := Utf8.length_encode_lt_cons '%' (high :: low :: rest)
      have := Utf8.length_encode_lt_cons high (low :: rest)
      have := Utf8.length_encode_lt_cons low rest
      rw [decode_percent_of_value? hhigh hlow, List.length_cons]
      omega
  | cons c rest hpair ih =>
    rw [escaped_cons_iff, or_iff_right hpair, decode_cons hpair, Utf8.encode_cons c rest,
      List.length_append, List.length_append]
    rcases ih with ⟨hescaped, hlt⟩ | ⟨hescaped, heq⟩
    . left
      exact ⟨hescaped, by omega⟩
    . right
      exact ⟨hescaped, by rw [heq]⟩

theorem length_decode_le (text : List Char) :
    (decode text).length ≤ (Utf8.encode text).length := by
  rcases decode_cases text with ⟨_, hlt⟩ | ⟨_, heq⟩
  . exact Nat.le_of_lt hlt
  . exact Nat.le_of_eq (congrArg List.length heq)

theorem decode_eq_encode_iff {text : List Char} :
    decode text = Utf8.encode text ↔ ¬Escaped text := by
  rcases decode_cases text with ⟨hescaped, hlt⟩ | ⟨hescaped, heq⟩
  . constructor
    . intro heq
      rw [heq] at hlt
      exact absurd hlt (Nat.lt_irrefl _)
    . intro h
      contradiction
  . exact ⟨fun _ => hescaped, fun _ => heq⟩

end Url.Percent

end LayerCull
