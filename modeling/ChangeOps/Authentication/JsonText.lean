import ChangeOps.Authentication.Boundaries
import ChangeOps.Contracts.CanonicalText

/-!
# ChangeOps.Authentication — JSON texts in ASCII

`json.dumps(document, sort_keys=True, separators=(",", ":"))` writes everything outside of printable
ASCII as `\u` escapes, in pairs above the basic plane. `readDocument` reads JSON texts without
fractions: it gives up on duplicate keys, lone surrogates, deep nesting and very long integers. What
`dumps` writes is read back part by part (`Reads`).
-/

namespace ChangeOps.Authentication

/-! ## Writing -/

/-- `"{0:04x}".format(n)`. -/
def hex4 (n : Nat) : List Char :=
  [hexDigit (n / 4096), hexDigit (n / 256 % 16), hexDigit (n / 16 % 16), hexDigit (n % 16)]

/-- One character of a JSON string, as `json.dumps` writes it. -/
def escapeAscii (c : Char) : List Char :=
  if c = '"' then ['\\', '"']
  else if c = '\\' then ['\\', '\\']
  else if c = '\n' then ['\\', 'n']
  else if c = '\r' then ['\\', 'r']
  else if c = '\t' then ['\\', 't']
  else if c.toNat = 8 then ['\\', 'b']
  else if c.toNat = 12 then ['\\', 'f']
  else if 32 ≤ c.toNat ∧ c.toNat ≤ 126 then [c]
  else if c.toNat < 0x10000 then '\\' :: 'u' :: hex4 c.toNat
  else
    -- a surrogate pair
    '\\' :: 'u' :: hex4 (0xD800 + (c.toNat - 0x10000) / 1024) ++
      '\\' :: 'u' :: hex4 (0xDC00 + (c.toNat - 0x10000) % 1024)

def quoteAscii (text : String) : List Char := '"' :: text.toList.flatMap escapeAscii ++ ['"']

def dumpsField (field : String × List Char) : List Char := quoteAscii field.1 ++ ':' :: field.2

mutual
/-- `json.dumps(document, sort_keys=True, separators=(",", ":"))`. -/
def dumps : Json → List Char
  | .null => "null".toList
  | .bool true => "true".toList
  | .bool false => "false".toList
  | .int n => (toString n).toList
  | .str text => quoteAscii text
  | .arr items => '[' :: Json.commaSep (dumpsItems items) ++ [']']
  | .obj fields =>
    '{' :: Json.commaSep (((dumpsFields fields).insertionSort Json.keyLe).map dumpsField) ++ ['}']
def dumpsItems : List Json → List (List Char)
  | [] => []
  | item :: rest => dumps item :: dumpsItems rest
def dumpsFields : List (String × Json) → List (String × List Char)
  | [] => []
  | (key, value) :: rest => (key, dumps value) :: dumpsFields rest
end

theorem dumpsItems_eq_map (items : List Json) : dumpsItems items = items.map dumps := by
  induction items with
  | nil => rfl
  | cons item rest ih => rw [dumpsItems, List.map_cons, ih]

theorem dumpsFields_eq_map (fields : List (String × Json)) :
    dumpsFields fields = fields.map fun field => (field.1, dumps field.2) := by
  induction fields with
  | nil => rfl
  | cons field rest ih => rw [dumpsFields, List.map_cons, ih]

/-! ## Reading -/

def isJsonSpace (c : Char) : Bool := c == ' ' || c == '\t' || c == '\n' || c == '\r'

def skipSpace (text : List Char) : List Char := text.dropWhile isJsonSpace

def hexValue (c : Char) : Option Nat :=
  if 48 ≤ c.toNat ∧ c.toNat ≤ 57 then some (c.toNat - 48)
  else if 97 ≤ c.toNat ∧ c.toNat ≤ 102 then some (c.toNat - 87)
  else if 65 ≤ c.toNat ∧ c.toNat ≤ 70 then some (c.toNat - 55)
  else none

def readHex4 : List Char → Option (Nat × List Char)
  | a :: b :: c :: d :: rest => do
    let a ← hexValue a
    let b ← hexValue b
    let c ← hexValue c
    let d ← hexValue d
    return (a * 4096 + b * 256 + c * 16 + d, rest)
  | _ => none

/-- The second half of a surrogate pair. -/
def readLowSurrogate (high : Nat) : List Char → Option (Char × List Char)
  | '\\' :: 'u' :: rest => do
    let (low, rest) ← readHex4 rest
    if 0xDC00 ≤ low ∧ low ≤ 0xDFFF then
      return (Char.ofNat (0x10000 + (high - 0xD800) * 1024 + (low - 0xDC00)), rest)
    else none
  | _ => none

/-- The character after `\u`. -/
def readUnicode (text : List Char) : Option (Char × List Char) := do
  let (n, rest) ← readHex4 text
  if 0xD800 ≤ n ∧ n ≤ 0xDBFF then readLowSurrogate n rest
  else if 0xDC00 ≤ n ∧ n ≤ 0xDFFF then none
  else return (Char.ofNat n, rest)

/-- The character that a text begins with, inside of a string. -/
def readChar : List Char → Option (Char × List Char)
  | '\\' :: 'u' :: rest => readUnicode rest
  | '\\' :: '"' :: rest => some ('"', rest)
  | '\\' :: '\\' :: rest => some ('\\', rest)
  | '\\' :: '/' :: rest => some ('/', rest)
  | '\\' :: 'b' :: rest => some (Char.ofNat 8, rest)
  | '\\' :: 'f' :: rest => some (Char.ofNat 12, rest)
  | '\\' :: 'n' :: rest => some ('\n', rest)
  | '\\' :: 'r' :: rest => some ('\r', rest)
  | '\\' :: 't' :: rest => some ('\t', rest)
  | '\\' :: _ => none
  | c :: rest => if c.toNat < 32 then none else some (c, rest)
  | [] => none

/-- A string after its opening quote. -/
def readString : Nat → List Char → Option (List Char × List Char)
  | 0, _ => none
  | fuel + 1, text =>
    if text.head? = some '"' then some ([], text.tail)
    else do
      let (c, rest) ← readChar text
      let (cs, rest) ← readString fuel rest
      return (c :: cs, rest)

/-- An integer, that no fraction and no exponent follows. -/
def readInt (text : List Char) : Option (Int × List Char) :=
  let unsigned := if text.head? = some '-' then text.tail else text
  let digits := unsigned.takeWhile Char.isDigit
  let rest := unsigned.dropWhile Char.isDigit
  if digits = [] ∨ (digits.head? = some '0' ∧ digits.length ≠ 1) ∨ 4300 < digits.length ∨
      rest.head? = some '.' ∨ rest.head? = some 'e' ∨ rest.head? = some 'E' then none
  else
    let n : Int := Nat.ofDigitChars 10 digits 0
    some (if text.head? = some '-' then -n else n, rest)

section

variable {α : Type} (close : Char) (read : List Char → Option (α × List Char))

/-- Parts separated by commas, up to the closing character. -/
def readSeparated : Nat → List Char → Option (List α × List Char)
  | 0, _ => none
  | fuel + 1, text => do
    let (a, text) ← read text
    match skipSpace text with
    | [] => none
    | c :: text =>
      if c = close then return ([a], text)
      else if c = ',' then do
        let (as, text) ← readSeparated fuel (skipSpace text)
        return (a :: as, text)
      else none

/-- The same, or nothing at all. -/
def readParts (text : List Char) : Option (List α × List Char) :=
  let text := skipSpace text
  if text.head? = some close then some ([], text.tail)
  else readSeparated close read text.length text

/-- One field of an object. -/
def readField : List Char → Option ((String × α) × List Char)
  | '"' :: text => do
    let (key, text) ← readString (text.length + 1) text
    match skipSpace text with
    | ':' :: text => do
      let (value, text) ← read (skipSpace text)
      return ((String.ofList key, value), text)
    | _ => none
  | _ => none

end

/-- A value, with the nesting allowed. -/
def readValue : Nat → List Char → Option (PyValue × List Char)
  | 0, _ => none
  | depth + 1, text =>
    match text with
    | '"' :: text => (readString (text.length + 1) text).map fun (cs, rest) => (.str (String.ofList cs), rest)
    | '[' :: text => (readParts ']' (readValue depth) text).map fun (items, rest) => (.list items, rest)
    | '{' :: text => do
      let (fields, rest) ← readParts '}' (readField (readValue depth)) text
      -- `_reject_duplicate_keys`
      if (fields.map Prod.fst).Nodup then return (.dict fields, rest) else none
    | 'n' :: 'u' :: 'l' :: 'l' :: rest => some (.none, rest)
    | 't' :: 'r' :: 'u' :: 'e' :: rest => some (.bool true, rest)
    | 'f' :: 'a' :: 'l' :: 's' :: 'e' :: rest => some (.bool false, rest)
    | text => (readInt text).map fun (n, rest) => (.int n, rest)

/-- A whole document, nested at most sixteen deep. -/
def readDocument (text : List Char) : Option PyValue := do
  let (value, rest) ← readValue 16 (skipSpace text)
  if skipSpace rest = [] then return value else none

/-! ## Strings are read back -/

theorem hexValue_hexDigit {d : Nat} (h : d < 16) : hexValue (hexDigit d) = some d := by
  have hall : ∀ d < 16, hexValue (hexDigit d) = some d := by decide
  exact hall d h

theorem readHex4_hex4 {n : Nat} (h : n < 0x10000) (rest : List Char) :
    readHex4 (hex4 n ++ rest) = some (n, rest) := by
  show (do
    let a ← hexValue (hexDigit (n / 4096))
    let b ← hexValue (hexDigit (n / 256 % 16))
    let c ← hexValue (hexDigit (n / 16 % 16))
    let d ← hexValue (hexDigit (n % 16))
    return (a * 4096 + b * 256 + c * 16 + d, rest)) = some (n, rest)
  rw [hexValue_hexDigit (by omega), hexValue_hexDigit (by omega), hexValue_hexDigit (by omega),
    hexValue_hexDigit (by omega)]
  have hn : n / 4096 * 4096 + n / 256 % 16 * 256 + n / 16 % 16 * 16 + n % 16 = n := by omega
  show some (n / 4096 * 4096 + n / 256 % 16 * 256 + n / 16 % 16 * 16 + n % 16, rest) = _
  rw [hn]

theorem toNat_range (c : Char) : c.toNat < 0xD800 ∨ (0xE000 ≤ c.toNat ∧ c.toNat < 0x110000) := by
  rcases c.valid with h | ⟨h, h'⟩
  · exact .inl h
  · exact .inr ⟨h, h'⟩

theorem readUnicode_hex4 {c : Char} (h : c.toNat < 0x10000) (rest : List Char) :
    readUnicode (hex4 c.toNat ++ rest) = some (c, rest) := by
  have hrange := toNat_range c
  unfold readUnicode
  rw [readHex4_hex4 h]
  show (if 0xD800 ≤ c.toNat ∧ c.toNat ≤ 0xDBFF then readLowSurrogate c.toNat rest
    else if 0xDC00 ≤ c.toNat ∧ c.toNat ≤ 0xDFFF then none
    else some (Char.ofNat c.toNat, rest)) = _
  rw [if_neg (by omega), if_neg (by omega), Char.ofNat_toNat]

/-- The two halves of a surrogate pair. -/
theorem readUnicode_pair {high low : Nat} (hhigh : 0xD800 ≤ high ∧ high ≤ 0xDBFF)
    (hlow : 0xDC00 ≤ low ∧ low ≤ 0xDFFF) (rest : List Char) :
    readUnicode (hex4 high ++ '\\' :: 'u' :: (hex4 low ++ rest)) =
      some (Char.ofNat (0x10000 + (high - 0xD800) * 1024 + (low - 0xDC00)), rest) := by
  unfold readUnicode
  rw [readHex4_hex4 (by omega)]
  simp only [Option.bind_eq_bind, Option.bind_some]
  rw [if_pos hhigh, readLowSurrogate, readHex4_hex4 (by omega)]
  simp only [Option.bind_eq_bind, Option.bind_some]
  rw [if_pos hlow]
  rfl

/-- They give the character back. -/
theorem readUnicode_surrogates {c : Char} (h : 0x10000 ≤ c.toNat) (rest : List Char) :
    readUnicode (hex4 (0xD800 + (c.toNat - 0x10000) / 1024) ++
      '\\' :: 'u' :: (hex4 (0xDC00 + (c.toNat - 0x10000) % 1024) ++ rest)) = some (c, rest) := by
  have hrange := toNat_range c
  rw [readUnicode_pair (by omega) (by omega)]
  have hc : 0x10000 + (0xD800 + (c.toNat - 0x10000) / 1024 - 0xD800) * 1024 +
      (0xDC00 + (c.toNat - 0x10000) % 1024 - 0xDC00) = c.toNat := by omega
  rw [hc, Char.ofNat_toNat]

theorem readChar_escapeAscii (c : Char) (rest : List Char) :
    readChar (escapeAscii c ++ rest) = some (c, rest) := by
  unfold escapeAscii
  split_ifs with hquote hbackslash hnewline hreturn htab hbackspace hfeed hprintable hbasic
  · rw [hquote]
    rfl
  · rw [hbackslash]
    rfl
  · rw [hnewline]
    rfl
  · rw [hreturn]
    rfl
  · rw [htab]
    rfl
  · rw [← Char.ofNat_toNat c, hbackspace]
    rfl
  · rw [← Char.ofNat_toNat c, hfeed]
    rfl
  · show readChar (c :: rest) = _
    unfold readChar
    split <;> simp_all
  · exact readUnicode_hex4 hbasic rest
  · show readUnicode (hex4 _ ++ '\\' :: 'u' :: hex4 _ ++ rest) = _
    rw [List.append_assoc]
    exact readUnicode_surrogates (by omega) rest

/-- No escape begins with the closing quote. -/
theorem head?_escapeAscii (c : Char) (rest : List Char) :
    (escapeAscii c ++ rest).head? ≠ some '"' := by
  unfold escapeAscii
  split_ifs with hquote
  all_goals simp_all

theorem readString_escaped {cs : List Char} {fuel : Nat} (hfuel : cs.length < fuel)
    (rest : List Char) : readString fuel (cs.flatMap escapeAscii ++ '"' :: rest) = some (cs, rest) := by
  induction cs generalizing fuel with
  | nil =>
    obtain ⟨fuel, rfl⟩ := Nat.exists_eq_add_one.mpr hfuel
    rfl
  | cons c cs ih =>
    obtain ⟨fuel, rfl⟩ := Nat.exists_eq_add_one_of_ne_zero (Nat.ne_of_gt (Nat.zero_lt_of_lt hfuel))
    rw [List.flatMap_cons, List.append_assoc, readString, if_neg (head?_escapeAscii c _),
      readChar_escapeAscii]
    rw [List.length_cons] at hfuel
    show (do
      let (cs, rest) ← readString fuel (cs.flatMap escapeAscii ++ '"' :: rest)
      return (c :: cs, rest)) = some (c :: cs, rest)
    rw [ih (by omega)]
    rfl

theorem length_le_escaped (cs : List Char) : cs.length ≤ (cs.flatMap escapeAscii).length := by
  induction cs with
  | nil => simp
  | cons c cs ih =>
    have hone : 1 ≤ (escapeAscii c).length := by
      unfold escapeAscii
      split_ifs <;> simp
    rw [List.flatMap_cons, List.length_append, List.length_cons]
    omega

/-- A quoted text after its opening quote. -/
theorem readString_quoted (text : String) (rest : List Char) :
    readString ((text.toList.flatMap escapeAscii ++ '"' :: rest).length + 1)
      (text.toList.flatMap escapeAscii ++ '"' :: rest) = some (text.toList, rest) := by
  apply readString_escaped
  have hlength := length_le_escaped text.toList
  rw [List.length_append]
  omega

/-! ## Integers are read back -/

/-- A positive number has no leading zero. -/
theorem head?_toDigits {m : Nat} (hm : 0 < m) : (Nat.toDigits 10 m).head? ≠ some '0' := by
  induction m using Nat.strong_induction_on with
  | _ m ih =>
    by_cases hsmall : m < 10
    · have hall : ∀ m < 10, 0 < m → [Nat.digitChar m].head? ≠ some '0' := by decide
      rw [Nat.toDigits_of_lt_base hsmall]
      exact hall m hsmall hm
    · rw [Nat.toDigits_of_base_le (by decide) (by omega),
        List.head?_append_of_ne_nil _ (List.ne_nil_of_length_pos Nat.length_toDigits_pos)]
      exact ih (m / 10) (by omega) (by omega)

theorem not_isDigit_of_delimited {rest : List Char} (hrest : Json.Delimited rest) :
    ∀ c ∈ rest.head?, c.isDigit = false ∧ c ≠ '.' ∧ c ≠ 'e' ∧ c ≠ 'E' := by
  intro c hc
  rcases hrest c hc with rfl | rfl | rfl <;> decide

theorem takeWhile_toDigits (m : Nat) {rest : List Char} (hrest : Json.Delimited rest) :
    (Nat.toDigits 10 m ++ rest).takeWhile Char.isDigit = Nat.toDigits 10 m ∧
      (Nat.toDigits 10 m ++ rest).dropWhile Char.isDigit = rest := by
  have hdigits : ∀ c ∈ Nat.toDigits 10 m, c.isDigit = true := fun c hc =>
    Nat.isDigit_of_mem_toDigits (by decide) (by decide) hc
  rw [List.takeWhile_append_of_pos hdigits, List.dropWhile_append_of_pos hdigits]
  cases rest with
  | nil => simp
  | cons c rest =>
    have hc := (not_isDigit_of_delimited hrest c rfl).1
    simp [hc]

/-- The digits of a number, after its sign. -/
theorem readInt_digits (m : Nat) (hlength : (Nat.toDigits 10 m).length ≤ 4300) {rest : List Char}
    (hrest : Json.Delimited rest) :
    ¬ ((Nat.toDigits 10 m = [] ∨
      ((Nat.toDigits 10 m).head? = some '0' ∧ (Nat.toDigits 10 m).length ≠ 1) ∨
      4300 < (Nat.toDigits 10 m).length ∨ rest.head? = some '.' ∨ rest.head? = some 'e' ∨
      rest.head? = some 'E')) := by
  have hafter := not_isDigit_of_delimited hrest
  rintro (hnil | ⟨hzero, hone⟩ | hlong | hdot | he | hE)
  · exact List.ne_nil_of_length_pos Nat.length_toDigits_pos hnil
  · rcases Nat.eq_zero_or_pos m with rfl | hm
    · exact hone (by decide)
    · exact head?_toDigits hm hzero
  · omega
  · exact (hafter _ hdot).2.1 rfl
  · exact (hafter _ he).2.2.1 rfl
  · exact (hafter _ hE).2.2.2 rfl

theorem readInt_toString {n : Int} (hlength : (toString n).length ≤ 4300) {rest : List Char}
    (hrest : Json.Delimited rest) : readInt ((toString n).toList ++ rest) = some (n, rest) := by
  cases n with
  | ofNat m =>
    have htext : (toString (Int.ofNat m)).toList = Nat.toDigits 10 m := Nat.toList_repr
    rw [← String.length_toList, htext] at hlength
    have hsign : ¬ (Nat.toDigits 10 m ++ rest).head? = some '-' := by
      intro hhead
      rw [List.head?_append_of_ne_nil _ (List.ne_nil_of_length_pos Nat.length_toDigits_pos)] at hhead
      have hdigit := Nat.isDigit_of_mem_toDigits (b := 10) (by decide) (by decide)
        (List.mem_of_mem_head? hhead)
      revert hdigit
      decide
    obtain ⟨htake, hdrop⟩ := takeWhile_toDigits m hrest
    rw [htext]
    unfold readInt
    simp only [if_neg hsign]
    rw [htake, hdrop, if_neg (readInt_digits m hlength hrest), Nat.ofDigitChars_ten_toDigits]
    rfl
  | negSucc m =>
    have htext : (toString (Int.negSucc m)).toList = '-' :: Nat.toDigits 10 (m + 1) := by
      rw [show toString (Int.negSucc m) = "-" ++ Nat.repr (m + 1) from rfl, String.toList_append,
        Nat.toList_repr]
      rfl
    rw [← String.length_toList, htext, List.length_cons] at hlength
    obtain ⟨htake, hdrop⟩ := takeWhile_toDigits (m + 1) hrest
    rw [htext]
    unfold readInt
    simp only [List.cons_append, List.head?_cons, if_pos, List.tail_cons]
    rw [htake, hdrop, if_neg (readInt_digits (m + 1) (by omega) hrest), Nat.ofDigitChars_ten_toDigits]
    rfl

/-! ## Values are read back -/

section

variable {α : Type} {close : Char} {read : List Char → Option (α × List Char)}

/-- The text stands for the value, wherever the value may end. -/
structure Reads (read : List Char → Option (α × List Char)) (text : List Char) (a : α) : Prop where
  first : ∃ c rest, text = c :: rest ∧ isJsonSpace c = false ∧ c ≠ ']' ∧ c ≠ '}'
  reads : ∀ rest, Json.Delimited rest → read (text ++ rest) = some (a, rest)

theorem skipSpace_of_first {c : Char} (hc : isJsonSpace c = false) (rest : List Char) :
    skipSpace (c :: rest) = c :: rest := by
  rw [skipSpace, List.dropWhile_cons_of_neg]
  rw [hc]
  decide

theorem Reads.skipSpace_append {text : List Char} {a : α} (h : Reads read text a)
    (rest : List Char) : skipSpace (text ++ rest) = text ++ rest := by
  obtain ⟨c, tail, rfl, hc, -⟩ := h.first
  exact skipSpace_of_first hc (tail ++ rest)

theorem isJsonSpace_of_close (hclose : close = ']' ∨ close = '}') : isJsonSpace close = false := by
  rcases hclose with rfl | rfl <;> decide

theorem commaSep_cons_cons (first second : List Char) (rest : List (List Char)) :
    Json.commaSep (first :: second :: rest) = first ++ ',' :: Json.commaSep (second :: rest) := rfl

theorem readSeparated_commaSep (hclose : close = ']' ∨ close = '}') {items : List (List Char × α)}
    (hne : items ≠ []) (hreads : ∀ item ∈ items, Reads read item.1 item.2) {fuel : Nat}
    (hfuel : items.length ≤ fuel) (rest : List Char) :
    readSeparated close read fuel (Json.commaSep (items.map Prod.fst) ++ close :: rest) =
      some (items.map Prod.snd, rest) := by
  induction items generalizing fuel with
  | nil => exact absurd rfl hne
  | cons item items ih =>
    rw [List.length_cons] at hfuel
    obtain ⟨fuel, rfl⟩ := Nat.exists_eq_add_one_of_ne_zero (by omega : fuel ≠ 0)
    have hitem := hreads item List.mem_cons_self
    cases items with
    | nil =>
      have hend : Json.Delimited (close :: rest) := by
        intro c hc
        rw [List.head?_cons, Option.mem_some_iff] at hc
        subst hc
        exact .inr hclose
      rw [List.map_singleton, Json.commaSep, readSeparated, hitem.reads _ hend]
      simp only [Option.bind_eq_bind, Option.bind_some]
      rw [skipSpace_of_first (isJsonSpace_of_close hclose)]
      simp
    | cons next items =>
      have hnext := hreads next (by simp)
      have hcomma : Json.Delimited (',' :: (Json.commaSep ((next :: items).map Prod.fst) ++ close :: rest)) := by
        intro c hc
        rw [List.head?_cons, Option.mem_some_iff] at hc
        exact .inl hc.symm
      have hne : ¬ ',' = close := by rcases hclose with rfl | rfl <;> decide
      -- the text of the next item comes right after the comma
      have hskip : skipSpace (Json.commaSep ((next :: items).map Prod.fst) ++ close :: rest) =
          Json.commaSep ((next :: items).map Prod.fst) ++ close :: rest := by
        cases items with
        | nil => exact hnext.skipSpace_append _
        | cons third items =>
          rw [List.map_cons, List.map_cons, commaSep_cons_cons, List.append_assoc]
          exact hnext.skipSpace_append _
      rw [List.map_cons, List.map_cons, commaSep_cons_cons, ← List.map_cons, List.append_assoc,
        List.cons_append, readSeparated, hitem.reads _ hcomma]
      simp only [Option.bind_eq_bind, Option.bind_some]
      rw [skipSpace_of_first (by decide)]
      dsimp only
      rw [if_neg hne, if_pos rfl, hskip,
        ih (by simp) (fun item hmem => hreads item (List.mem_cons_of_mem _ hmem)) (by simpa using hfuel)]
      rfl

/-- No part is empty. -/
theorem length_le_commaSep {items : List (List Char × α)}
    (hreads : ∀ item ∈ items, Reads read item.1 item.2) :
    items.length ≤ (Json.commaSep (items.map Prod.fst)).length := by
  induction items with
  | nil => simp
  | cons item items ih =>
    have hrest := ih fun item hmem => hreads item (List.mem_cons_of_mem _ hmem)
    obtain ⟨c, tail, htext, -⟩ := (hreads item List.mem_cons_self).first
    cases items with
    | nil => simp [Json.commaSep, htext]
    | cons next items =>
      rw [List.map_cons, List.map_cons, commaSep_cons_cons, ← List.map_cons, List.length_append,
        List.length_cons, List.length_cons (a := ',')]
      omega

theorem readParts_commaSep (hclose : close = ']' ∨ close = '}') {items : List (List Char × α)}
    (hreads : ∀ item ∈ items, Reads read item.1 item.2) (rest : List Char) :
    readParts close read (Json.commaSep (items.map Prod.fst) ++ close :: rest) =
      some (items.map Prod.snd, rest) := by
  unfold readParts
  cases items with
  | nil =>
    rw [List.map_nil, Json.commaSep, List.nil_append,
      skipSpace_of_first (isJsonSpace_of_close hclose)]
    simp
  | cons item items =>
    have hlength := length_le_commaSep hreads
    have hsep : readSeparated close read
        (Json.commaSep ((item :: items).map Prod.fst) ++ close :: rest).length
        (Json.commaSep ((item :: items).map Prod.fst) ++ close :: rest) =
          some ((item :: items).map Prod.snd, rest) := by
      apply readSeparated_commaSep hclose (by simp) hreads
      rw [List.length_append]
      omega
    obtain ⟨c, tail, htext, hspace, hbracket, hbrace⟩ := (hreads item List.mem_cons_self).first
    have hfirst : ∃ tail, Json.commaSep ((item :: items).map Prod.fst) ++ close :: rest = c :: tail := by
      cases items with
      | nil => exact ⟨_, by rw [List.map_singleton, Json.commaSep, htext, List.cons_append]⟩
      | cons next items => exact ⟨_, by rw [List.map_cons, List.map_cons, commaSep_cons_cons, htext,
          List.cons_append, List.cons_append]⟩
    obtain ⟨tail, hfirst⟩ := hfirst
    rw [hfirst] at hsep ⊢
    rw [skipSpace_of_first hspace]
    dsimp only
    rw [if_neg, hsep]
    rw [List.head?_cons, Option.some.injEq]
    rcases hclose with rfl | rfl
    · exact hbracket
    · exact hbrace

theorem reads_field {text : List Char} {a : α} (h : Reads read text a) (key : String) :
    Reads (readField read) (dumpsField (key, text)) (key, a) where
  first := ⟨'"', _, rfl, by decide, by decide, by decide⟩
  reads rest hrest := by
    have hshape : dumpsField (key, text) ++ rest =
        '"' :: (key.toList.flatMap escapeAscii ++ '"' :: (':' :: (text ++ rest))) := by
      simp [dumpsField, quoteAscii]
    rw [hshape, readField, readString_quoted]
    simp only [Option.bind_eq_bind, Option.bind_some]
    rw [skipSpace_of_first (by decide)]
    simp only
    rw [h.skipSpace_append, h.reads rest hrest, String.ofList_toList]
    rfl

end

section

variable {depth : Nat}

theorem reads_str (text : String) : Reads (readValue (depth + 1)) (quoteAscii text) (.str text) where
  first := ⟨'"', _, rfl, by decide, by decide, by decide⟩
  reads rest hrest := by
    have hshape : quoteAscii text ++ rest =
        '"' :: (text.toList.flatMap escapeAscii ++ '"' :: rest) := by
      simp [quoteAscii]
    rw [hshape, readValue, readString_quoted, Option.map_some]
    dsimp only
    rw [String.ofList_toList]

theorem reads_list {items : List (List Char × PyValue)}
    (h : ∀ item ∈ items, Reads (readValue depth) item.1 item.2) :
    Reads (readValue (depth + 1)) ('[' :: Json.commaSep (items.map Prod.fst) ++ [']'])
      (.list (items.map Prod.snd)) where
  first := ⟨'[', _, rfl, by decide, by decide, by decide⟩
  reads rest hrest := by
    rw [List.cons_append, List.cons_append, List.append_assoc, List.singleton_append, readValue,
      readParts_commaSep (.inl rfl) h, Option.map_some]

/-- An object, by the texts of its values. -/
theorem reads_dict {fields : List (String × List Char × PyValue)}
    (h : ∀ field ∈ fields, Reads (readValue depth) field.2.1 field.2.2)
    (hkeys : (fields.map Prod.fst).Nodup) :
    Reads (readValue (depth + 1))
      ('{' :: Json.commaSep (fields.map fun field => dumpsField (field.1, field.2.1)) ++ ['}'])
      (.dict (fields.map fun field => (field.1, field.2.2))) where
  first := ⟨'{', _, rfl, by decide, by decide, by decide⟩
  reads rest hrest := by
    have hitems : ∀ item ∈ fields.map fun field =>
        (dumpsField (field.1, field.2.1), (field.1, field.2.2)),
        Reads (readField (readValue depth)) item.1 item.2 := by
      intro item hitem
      obtain ⟨field, hfield, rfl⟩ := List.mem_map.mp hitem
      exact reads_field (h field hfield) field.1
    have hparts := readParts_commaSep (.inr rfl) hitems rest
    simp only [List.map_map, Function.comp_def] at hparts
    rw [List.cons_append, List.cons_append, List.append_assoc, List.singleton_append, readValue, hparts]
    simp only [Option.bind_eq_bind, Option.bind_some, List.map_map, Function.comp_def]
    rw [if_pos hkeys]
    rfl

theorem reads_null : Reads (readValue (depth + 1)) "null".toList .none where
  first := ⟨'n', _, rfl, by decide, by decide, by decide⟩
  reads _ _ := rfl

theorem reads_bool (b : Bool) :
    Reads (readValue (depth + 1)) (dumps (.bool b)) (.bool b) := by
  cases b with
  | true => exact ⟨⟨'t', _, rfl, by decide, by decide, by decide⟩, fun _ _ => rfl⟩
  | false => exact ⟨⟨'f', _, rfl, by decide, by decide, by decide⟩, fun _ _ => rfl⟩

theorem reads_int {n : Int} (hlength : (toString n).length ≤ 4300) :
    Reads (readValue (depth + 1)) (toString n).toList (.int n) where
  first := by
    cases htext : (toString n).toList with
    | nil => exact absurd (String.toList_injective htext) (Json.toString_ne_empty n)
    | cons c rest =>
      have hc : Json.isNumeral c = true := by
        apply Json.isNumeral_of_mem (n := n)
        rw [htext]
        exact List.mem_cons_self
      refine ⟨c, rest, rfl, ?_, ?_, ?_⟩
      · rw [← Bool.not_eq_true]
        intro hspace
        simp only [isJsonSpace, Bool.or_eq_true, beq_iff_eq] at hspace
        rcases hspace with ((rfl | rfl) | rfl) | rfl <;> revert hc <;> decide
      · rintro rfl
        revert hc
        decide
      · rintro rfl
        revert hc
        decide
  reads rest hrest := by
    -- the text begins with none of the characters of the other values
    have hhead : ∀ c tail, (toString n).toList ++ rest = c :: tail → Json.isNumeral c = true := by
      intro c tail heq
      have hne : (toString n).toList ≠ [] := fun h =>
        Json.toString_ne_empty n (String.toList_injective h)
      apply Json.isNumeral_of_mem (n := n)
      apply List.mem_of_mem_head?
      have hhead : ((toString n).toList ++ rest).head? = (toString n).toList.head? :=
        List.head?_append_of_ne_nil _ hne
      rw [← hhead, heq]
      rfl
    unfold readValue
    split
    · next heq => exact absurd (hhead _ _ heq) (by decide)
    · next heq => exact absurd (hhead _ _ heq) (by decide)
    · next heq => exact absurd (hhead _ _ heq) (by decide)
    · next heq => exact absurd (hhead _ _ heq) (by decide)
    · next heq => exact absurd (hhead _ _ heq) (by decide)
    · next heq => exact absurd (hhead _ _ heq) (by decide)
    · rw [readInt_toString hlength hrest]
      rfl

end

/-! ### Documents -/

mutual
/-- The value of a document. -/
def valueOf : Json → PyValue
  | .null => .none
  | .bool b => .bool b
  | .int n => .int n
  | .str text => .str text
  | .arr items => .list (valuesOf items)
  | .obj fields => .dict (fieldsOf fields)
def valuesOf : List Json → List PyValue
  | [] => []
  | item :: rest => valueOf item :: valuesOf rest
def fieldsOf : List (String × Json) → List (String × PyValue)
  | [] => []
  | (key, value) :: rest => (key, valueOf value) :: fieldsOf rest
end

theorem valuesOf_eq_map (items : List Json) : valuesOf items = items.map valueOf := by
  induction items with
  | nil => rfl
  | cons item rest ih => rw [valuesOf, List.map_cons, ih]

theorem fieldsOf_eq_map (fields : List (String × Json)) :
    fieldsOf fields = fields.map fun field => (field.1, valueOf field.2) := by
  induction fields with
  | nil => rfl
  | cons field rest ih => rw [fieldsOf, List.map_cons, ih]

/-- The keys are sorted, the integers short, and there is room for the nesting. -/
inductive Fits : Nat → Json → Prop where
  | null {depth : Nat} : Fits (depth + 1) .null
  | bool {depth : Nat} (b : Bool) : Fits (depth + 1) (.bool b)
  | int {depth : Nat} {n : Int} (hlength : (toString n).length ≤ 4300) : Fits (depth + 1) (.int n)
  | str {depth : Nat} (text : String) : Fits (depth + 1) (.str text)
  | arr {depth : Nat} {items : List Json} (hitems : ∀ item ∈ items, Fits depth item) :
    Fits (depth + 1) (.arr items)
  | obj {depth : Nat} {fields : List (String × Json)} (hfields : ∀ field ∈ fields, Fits depth field.2)
      (hsorted : (fields.map Prod.fst).Pairwise (· ≤ ·)) (hkeys : (fields.map Prod.fst).Nodup) :
    Fits (depth + 1) (.obj fields)

/-- Sorted fields are written in their order. -/
theorem dumps_obj {fields : List (String × Json)} (hsorted : (fields.map Prod.fst).Pairwise (· ≤ ·)) :
    dumps (.obj fields) = '{' ::
      Json.commaSep (fields.map fun field => dumpsField (field.1, dumps field.2)) ++ ['}'] := by
  have hpairwise : (dumpsFields fields).Pairwise Json.keyLe := by
    rw [dumpsFields_eq_map, List.pairwise_map]
    rw [List.pairwise_map] at hsorted
    exact hsorted
  rw [dumps, hpairwise.insertionSort_eq, dumpsFields_eq_map, List.map_map]
  rfl

/-- **What is written is read back.** -/
theorem reads_dumps {depth : Nat} {document : Json} (h : Fits depth document) :
    Reads (readValue depth) (dumps document) (valueOf document) := by
  induction h with
  | null => exact reads_null
  | bool b => exact reads_bool b
  | int hlength => exact reads_int hlength
  | str text => exact reads_str text
  | @arr depth items hitems ih =>
    have hparts : ∀ part ∈ items.map fun item => (dumps item, valueOf item),
        Reads (readValue depth) part.1 part.2 := by
      intro part hpart
      obtain ⟨item, hitem, rfl⟩ := List.mem_map.mp hpart
      exact ih item hitem
    have hread := reads_list hparts
    simp only [List.map_map, Function.comp_def] at hread
    rw [dumps, dumpsItems_eq_map, valueOf, valuesOf_eq_map]
    exact hread
  | @obj depth fields hfields hsorted hkeys ih =>
    have hparts : ∀ part ∈ fields.map fun field => (field.1, dumps field.2, valueOf field.2),
        Reads (readValue depth) part.2.1 part.2.2 := by
      intro part hpart
      obtain ⟨field, hfield, rfl⟩ := List.mem_map.mp hpart
      exact ih field hfield
    have hread := reads_dict hparts (by rw [List.map_map]; exact hkeys)
    simp only [List.map_map, Function.comp_def] at hread
    rw [dumps_obj hsorted, valueOf, fieldsOf_eq_map]
    exact hread

section

variable {depth : Nat}

/-- A text for a value is a document. -/
theorem readDocument_of_reads {text : List Char} {value : PyValue}
    (h : Reads (readValue 16) text value) : readDocument text = some value := by
  have hskip := h.skipSpace_append []
  have hread := h.reads [] (by simp [Json.Delimited])
  rw [List.append_nil] at hskip hread
  unfold readDocument
  rw [hskip, hread, Option.bind_eq_bind, Option.bind_some]
  exact if_pos rfl

end

/-! ## The texts are ASCII -/

theorem toNat_hex4_lt {n : Nat} (hn : n < 0x10000) : ∀ c ∈ hex4 n, c.toNat < 128 := by
  intro c hc
  simp only [hex4, List.mem_cons, List.not_mem_nil, or_false] at hc
  rcases hc with rfl | rfl | rfl | rfl <;> exact toNat_hexDigit_lt _ (by omega)

theorem isAscii_append (a b : List Char) : isAscii (a ++ b) = (isAscii a && isAscii b) :=
  List.all_append

theorem isAscii_hex4 {n : Nat} (hn : n < 0x10000) : isAscii (hex4 n) = true :=
  List.all_eq_true.mpr fun c hc => decide_eq_true (toNat_hex4_lt hn c hc)

theorem isAscii_escapeAscii (c : Char) : isAscii (escapeAscii c) = true := by
  have hrange := toNat_range c
  have hescape : isAscii ['\\', 'u'] = true := by decide
  unfold escapeAscii
  split_ifs with h₁ h₂ h₃ h₄ h₅ h₆ h₇ hprintable hbasic
  · decide
  · decide
  · decide
  · decide
  · decide
  · decide
  · decide
  · simp only [isAscii, List.all_cons, List.all_nil, Bool.and_true, decide_eq_true_eq]
    omega
  · show isAscii (['\\', 'u'] ++ hex4 c.toNat) = true
    rw [isAscii_append, hescape, isAscii_hex4 hbasic]
    rfl
  · show isAscii (['\\', 'u'] ++ hex4 _ ++ (['\\', 'u'] ++ hex4 _)) = true
    rw [isAscii_append, isAscii_append, isAscii_append, hescape, isAscii_hex4 (by omega),
      isAscii_hex4 (by omega)]
    rfl

theorem isAscii_quoteAscii (text : String) : isAscii (quoteAscii text) = true := by
  show isAscii (['"'] ++ text.toList.flatMap escapeAscii ++ ['"']) = true
  have hquote : isAscii ['"'] = true := by decide
  have hchars : isAscii (text.toList.flatMap escapeAscii) = true := by
    unfold isAscii
    rw [List.all_flatMap, List.all_eq_true]
    intro c _
    exact isAscii_escapeAscii c
  rw [isAscii_append, isAscii_append, hquote, hchars]
  rfl

theorem isAscii_commaSep {texts : List (List Char)} (h : ∀ text ∈ texts, isAscii text = true) :
    isAscii (Json.commaSep texts) = true := by
  induction texts with
  | nil => rfl
  | cons first rest ih =>
    have hrest := ih fun text hmem => h text (List.mem_cons_of_mem _ hmem)
    have hfirst := h first List.mem_cons_self
    cases rest with
    | nil => exact hfirst
    | cons second rest =>
      rw [commaSep_cons_cons, isAscii_append, hfirst]
      exact hrest

theorem isAscii_bracketed {first last : Char} (hfirst : first.toNat < 128) (hlast : last.toNat < 128)
    {text : List Char} (h : isAscii text = true) : isAscii (first :: text ++ [last]) = true := by
  have hone : ∀ {c : Char}, c.toNat < 128 → isAscii [c] = true := by
    intro c hc
    simpa [isAscii] using hc
  show isAscii ([first] ++ text ++ [last]) = true
  rw [isAscii_append, isAscii_append, hone hfirst, hone hlast, h]
  rfl

theorem isAscii_dumps (document : Json) : isAscii (dumps document) = true := by
  induction document using Json.induct with
  | null => decide
  | bool b => cases b <;> decide
  | int n =>
    refine List.all_eq_true.mpr fun c hc => decide_eq_true ?_
    have hnumeral := Json.isNumeral_of_mem hc
    simp only [Json.isNumeral, Bool.or_eq_true, beq_iff_eq, Char.isDigit, Bool.and_eq_true,
      decide_eq_true_eq] at hnumeral
    rcases hnumeral with ⟨-, hle⟩ | rfl
    · have hle : c.toNat ≤ 57 := hle
      omega
    · decide
  | str text => exact isAscii_quoteAscii text
  | arr items ih =>
    rw [dumps, dumpsItems_eq_map]
    apply isAscii_bracketed (by decide) (by decide)
    apply isAscii_commaSep
    intro text hmem
    obtain ⟨item, hitem, rfl⟩ := List.mem_map.mp hmem
    exact ih item hitem
  | obj fields ih =>
    rw [dumps, dumpsFields_eq_map]
    apply isAscii_bracketed (by decide) (by decide)
    apply isAscii_commaSep
    intro text hmem
    obtain ⟨field, hfield, rfl⟩ := List.mem_map.mp hmem
    obtain ⟨⟨key, value⟩, hvalue, rfl⟩ := List.mem_map.mp ((List.mem_insertionSort _).mp hfield)
    have hcolon : isAscii [':'] = true := by decide
    show isAscii (quoteAscii key ++ ([':'] ++ dumps value)) = true
    rw [isAscii_append, isAscii_append, isAscii_quoteAscii, hcolon, ih (key, value) hvalue]
    rfl

/-! ## Bytes -/

/-- `text.encode("utf-8")`. -/
def encodeUtf8 (text : List Char) : List UInt8 := text.flatMap String.utf8EncodeChar

/-- ASCII is its own UTF-8. -/
theorem encodeAscii_eq_encodeUtf8 {text : List Char} (h : isAscii text = true) :
    encodeAscii text = .ok (encodeUtf8 text) := by
  rw [encodeAscii, if_pos h, encodeUtf8]
  congr 1
  induction text with
  | nil => rfl
  | cons c text ih =>
    unfold isAscii at h ih
    rw [List.all_cons, Bool.and_eq_true, decide_eq_true_eq] at h
    have hsize : c.utf8Size = 1 := by
      rw [Char.utf8Size_eq_one_iff]
      have hle : c.toNat ≤ 127 := by omega
      exact hle
    rw [List.map_cons, List.flatMap_cons, ih h.2, String.utf8EncodeChar_eq_singleton hsize]
    rfl

/-! ## `json.loads` -/

section

variable [TokenLibrary]

/-- `json.loads` gives the value of a text that `readDocument` reads. -/
def LoadsDocuments : Prop :=
  ∀ text value, isAscii text = true → readDocument text = some value →
    TokenLibrary.loads (encodeUtf8 text) = .ok value

theorem LoadsDocuments.loads_dumps (hloads : LoadsDocuments) {document : Json}
    (hfits : Fits 16 document) :
    TokenLibrary.loads (encodeUtf8 (dumps document)) = .ok (valueOf document) :=
  hloads _ _ (isAscii_dumps document) (readDocument_of_reads (reads_dumps hfits))

end

end ChangeOps.Authentication
