import ChangeOps.Authentication.Identity

/-!
# ChangeOps.Authentication — base64 of a token's parts

`_b64encode` of `changeops_tool_gateway/identity.py` drops the padding, and `_b64decode` puts it back
from the length alone. The strict decoder accepts what results, for every length
(`b64decode_b64encode`).
-/

namespace ChangeOps.Authentication

/-- The character of six bits, with `-` and `_` as altchars. -/
def alphabet (value : Nat) : Char :=
  if value < 26 then Char.ofNat (65 + value)
  else if value < 52 then Char.ofNat (71 + value)
  else if value < 62 then Char.ofNat (value - 4)
  else if value = 62 then '-'
  else '_'

/-- `base64.urlsafe_b64encode`. -/
def urlsafeB64encode : List UInt8 → List Char
  | a :: b :: c :: rest =>
    alphabet (a.toNat / 4) :: alphabet (a.toNat % 4 * 16 + b.toNat / 16) ::
      alphabet (b.toNat % 16 * 4 + c.toNat / 64) :: alphabet (c.toNat % 64) :: urlsafeB64encode rest
  | [a, b] =>
    [alphabet (a.toNat / 4), alphabet (a.toNat % 4 * 16 + b.toNat / 16), alphabet (b.toNat % 16 * 4), '=']
  | [a] => [alphabet (a.toNat / 4), alphabet (a.toNat % 4 * 16), '=', '=']
  | [] => []

/-- `_b64encode`. -/
def b64encode (value : List UInt8) : List Char := (urlsafeB64encode value).rdropWhile (· == '=')

/-! ## The alphabet -/

theorem sextet_alphabet {value : Nat} (h : value < 64) : sextet (alphabet value) = some value := by
  have hall : ∀ value < 64, sextet (alphabet value) = some value := by decide
  exact hall value h

/-- A character of an encoded text. -/
def isBase64 (c : Char) : Bool := (sextet c).isSome

theorem toNat_lt_of_isBase64 {c : Char} (h : isBase64 c = true) : c.toNat < 128 := by
  unfold isBase64 sextet at h
  split_ifs at h with h₁ h₂ h₃ h₄ h₅
  · omega
  · omega
  · omega
  · rcases h₄ with rfl | rfl <;> decide
  · rcases h₅ with rfl | rfl <;> decide
  · cases h

theorem isBase64_alphabet {value : Nat} (h : value < 64) : isBase64 (alphabet value) = true := by
  have hall : ∀ value < 64, isBase64 (alphabet value) = true := by decide
  exact hall value h

theorem ne_of_isBase64 {c d : Char} (hc : isBase64 c = true) (hd : isBase64 d = false) : c ≠ d := by
  rintro rfl
  rw [hc] at hd
  cases hd

/-- One step of the decoder over a character of the alphabet. -/
theorem a2bLoop_alphabet {value : Nat} (h : value < 64) (rest : List Char) (quadPos leftchar : Nat)
    (out : List UInt8) :
    a2bLoop (alphabet value :: rest) quadPos leftchar 0 false out =
      if quadPos = 0 then a2bLoop rest 1 value 0 false out
      else if quadPos = 1 then
        a2bLoop rest 2 (value % 16) 0 false (out ++ [UInt8.ofNat (leftchar * 4 + value / 16)])
      else if quadPos = 2 then
        a2bLoop rest 3 (value % 4) 0 false (out ++ [UInt8.ofNat (leftchar * 16 + value / 4)])
      else a2bLoop rest 0 0 0 false (out ++ [UInt8.ofNat (leftchar * 64 + value)]) := by
  have hpad : alphabet value ≠ '=' := ne_of_isBase64 (isBase64_alphabet h) (by decide)
  rw [a2bLoop, if_neg hpad, sextet_alphabet h]
  rfl

theorem ofNat_eq_of_toNat {a : UInt8} {n : Nat} (h : n = a.toNat) : UInt8.ofNat n = a := by
  rw [h, UInt8.ofNat_toNat]

/-- The strict decoder over a padded text. -/
theorem a2bLoop_urlsafeB64encode (value out : List UInt8) :
    a2bLoop (urlsafeB64encode value) 0 0 0 false out = some (out ++ value) := by
  induction value using urlsafeB64encode.induct generalizing out with
  | case1 a b c rest ih =>
    have ha := a.toNat_lt
    have hb := b.toNat_lt
    have hc := c.toNat_lt
    rw [urlsafeB64encode, a2bLoop_alphabet (by omega), if_pos rfl, a2bLoop_alphabet (by omega),
      if_neg (by decide), if_pos rfl, a2bLoop_alphabet (by omega), if_neg (by decide),
      if_neg (by decide), if_pos rfl, a2bLoop_alphabet (by omega), if_neg (by decide),
      if_neg (by decide), if_neg (by decide), ih, ofNat_eq_of_toNat (a := a) (by omega),
      ofNat_eq_of_toNat (a := b) (by omega), ofNat_eq_of_toNat (a := c) (by omega)]
    simp only [List.append_assoc, List.cons_append, List.nil_append]
  | case2 a b =>
    have ha := a.toNat_lt
    have hb := b.toNat_lt
    rw [urlsafeB64encode, a2bLoop_alphabet (by omega), if_pos rfl, a2bLoop_alphabet (by omega),
      if_neg (by decide), if_pos rfl, a2bLoop_alphabet (by omega), if_neg (by decide),
      if_neg (by decide), if_pos rfl, ofNat_eq_of_toNat (a := a) (by omega),
      ofNat_eq_of_toNat (a := b) (by omega), a2bLoop, if_pos rfl, if_pos (by decide), if_pos rfl]
    simp only [List.append_assoc, List.cons_append, List.nil_append]
  | case3 a =>
    have ha := a.toNat_lt
    rw [urlsafeB64encode, a2bLoop_alphabet (by omega), if_pos rfl, a2bLoop_alphabet (by omega),
      if_neg (by decide), if_pos rfl, ofNat_eq_of_toNat (a := a) (by omega)]
    rfl
  | case4 => simp [urlsafeB64encode, a2bLoop]

/-! ## Padding -/

/-- The encoded text without its padding. -/
def unpadded : List UInt8 → List Char
  | a :: b :: c :: rest =>
    alphabet (a.toNat / 4) :: alphabet (a.toNat % 4 * 16 + b.toNat / 16) ::
      alphabet (b.toNat % 16 * 4 + c.toNat / 64) :: alphabet (c.toNat % 64) :: unpadded rest
  | [a, b] =>
    [alphabet (a.toNat / 4), alphabet (a.toNat % 4 * 16 + b.toNat / 16), alphabet (b.toNat % 16 * 4)]
  | [a] => [alphabet (a.toNat / 4), alphabet (a.toNat % 4 * 16)]
  | [] => []

/-- The padding is what brings the length to a multiple of four. -/
theorem urlsafeB64encode_eq (value : List UInt8) :
    urlsafeB64encode value =
      unpadded value ++ List.replicate ((4 - (unpadded value).length % 4) % 4) '=' := by
  induction value using unpadded.induct with
  | case1 a b c rest ih =>
    rw [urlsafeB64encode, unpadded, ih]
    simp only [List.length_cons, List.cons_append]
    rw [show ((unpadded rest).length + 1 + 1 + 1 + 1) % 4 = (unpadded rest).length % 4 by omega]
  | case2 a b => rfl
  | case3 a => rfl
  | case4 => rfl

theorem isBase64_of_mem_unpadded {value : List UInt8} {c : Char} (h : c ∈ unpadded value) :
    isBase64 c = true := by
  induction value using unpadded.induct with
  | case1 a b c' rest ih =>
    have ha := a.toNat_lt
    have hb := b.toNat_lt
    have hc := c'.toNat_lt
    rw [unpadded] at h
    simp only [List.mem_cons] at h
    rcases h with rfl | rfl | rfl | rfl | h
    · exact isBase64_alphabet (by omega)
    · exact isBase64_alphabet (by omega)
    · exact isBase64_alphabet (by omega)
    · exact isBase64_alphabet (by omega)
    · exact ih h
  | case2 a b =>
    have ha := a.toNat_lt
    have hb := b.toNat_lt
    simp only [unpadded, List.mem_cons, List.not_mem_nil, or_false] at h
    rcases h with rfl | rfl | rfl
    · exact isBase64_alphabet (by omega)
    · exact isBase64_alphabet (by omega)
    · exact isBase64_alphabet (by omega)
  | case3 a =>
    have ha := a.toNat_lt
    simp only [unpadded, List.mem_cons, List.not_mem_nil, or_false] at h
    rcases h with rfl | rfl
    · exact isBase64_alphabet (by omega)
    · exact isBase64_alphabet (by omega)
  | case4 => cases h

theorem b64encode_eq (value : List UInt8) : b64encode value = unpadded value := by
  rw [b64encode, urlsafeB64encode_eq]
  generalize (4 - (unpadded value).length % 4) % 4 = pads
  induction pads with
  | zero =>
    rw [List.replicate_zero, List.append_nil]
    rcases List.eq_nil_or_concat (unpadded value) with hnil | ⟨init, last, hlast⟩
    · rw [hnil]
      rfl
    · have hmem : last ∈ unpadded value := by simp [hlast]
      rw [hlast, List.concat_eq_append, List.rdropWhile_concat_neg]
      intro hpad
      exact ne_of_isBase64 (isBase64_of_mem_unpadded hmem) (by decide) (beq_iff_eq.mp hpad)
  | succ pads ih =>
    rw [List.replicate_succ', ← List.append_assoc, List.rdropWhile_concat_pos _ _ _ rfl]
    exact ih

theorem isBase64_of_mem_b64encode {value : List UInt8} {c : Char} (h : c ∈ b64encode value) :
    isBase64 c = true := by
  rw [b64encode_eq] at h
  exact isBase64_of_mem_unpadded h

/-- **An encoded part is decoded to its bytes.** -/
theorem b64decode_b64encode (value : List UInt8) : b64decode (b64encode value) = .ok value := by
  rw [b64encode_eq, b64decode, ← urlsafeB64encode_eq]
  have hhead : (urlsafeB64encode value).head? ≠ some '=' := by
    intro hpad
    cases hvalue : unpadded value with
    | nil =>
      rw [urlsafeB64encode_eq, hvalue] at hpad
      cases hpad
    | cons c rest =>
      rw [urlsafeB64encode_eq, hvalue, List.cons_append, List.head?_cons, Option.some.injEq] at hpad
      have hmem : c ∈ unpadded value := by
        rw [hvalue]
        exact List.mem_cons_self
      exact ne_of_isBase64 (isBase64_of_mem_unpadded hmem) (by decide) hpad
  rw [b64decodeStrict, if_neg hhead, a2bLoop_urlsafeB64encode, List.nil_append]

end ChangeOps.Authentication
