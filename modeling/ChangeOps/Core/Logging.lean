import Mathlib.Data.List.Infix

/-!
# ChangeOps.Core — redaction of log values

`changeops_core/logging.py`: `redact_sensitive_data` replaces what is stored under a sensitive key
and cleans the texts elsewhere. It descends into mappings, lists and tuples. `LogValue` admits any
sequence, and one that is neither a list nor a tuple is returned as it is, with what it has under
sensitive keys.

So two values that differ only under sensitive keys (`LogAlike`) come out equal exactly if what they
pass on in such sequences is equal (`redactSensitiveData_alike_iff`).
-/

namespace ChangeOps

/-- What the standard library knows of characters: `str.lower`, and the word characters of `re`. -/
class Characters where
  lower : String → String
  isWord : Char → Bool

/-! ## Values -/

/-- A value of the type `LogValue`. A float is its 64 bits, and `sequence` is a sequence of another
type than `list`, `tuple` and `str`. The keys of a mapping are distinct. -/
inductive LogValue where
  | str (text : String)
  | int (n : Int)
  | float (bits : BitVec 64)
  | bool (b : Bool)
  | none
  | mapping (items : List (String × LogValue))
  | list (items : List LogValue)
  | tuple (items : List LogValue)
  | sequence (type : String) (items : List LogValue)

/-! ## Patterns -/

/-- An item of a regular expression: `\b`, or a class with a least number of repetitions, or one
character of a class. -/
inductive PatternItem where
  | boundary
  | one (p : Char → Bool)
  | many (least : Nat) (p : Char → Bool)

section

variable [Characters]

/-- There is a word character on one side of the place and none on the other. -/
def isBoundary (before next : Option Char) : Bool :=
  before.any Characters.isWord != next.any Characters.isWord

/-- What a match at the beginning of the text leaves of it. `before` is the character before. -/
def matchItems : List PatternItem → Option Char → List Char → Option (List Char)
  | [], _, text => some text
  | .boundary :: items, before, text =>
    if isBoundary before text.head? then matchItems items before text else none
  | .one p :: items, _, text =>
    match text with
    | c :: rest => if p c then matchItems items (some c) rest else none
    | [] => none
  | .many least p :: items, before, text =>
    -- the longest run is tried first
    ((List.range' least ((text.takeWhile p).length + 1 - least)).reverse).findSome? fun n =>
      matchItems items ((text.take n).getLast?.or before) (text.drop n)

/-- `pattern.sub`, for patterns that match no empty text. -/
def subFrom (pattern : List PatternItem) (replacement : List Char) :
    Nat → Option Char → List Char → List Char
  | 0, _, text => text
  | _ + 1, _, [] => []
  | fuel + 1, before, c :: rest =>
    match matchItems pattern before (c :: rest) with
    | some after =>
      let matched := (c :: rest).take (rest.length + 1 - after.length)
      replacement ++ subFrom pattern replacement fuel matched.getLast? after
    | none => c :: subFrom pattern replacement fuel (some c) rest

def sub (pattern : List PatternItem) (replacement text : String) : String :=
  String.ofList (subFrom pattern replacement.toList text.length none text.toList)

/-- `[A-Z]` with `re.IGNORECASE`: the letters of ASCII, and four that they are cases of. -/
def isLetter (c : Char) : Bool :=
  c.isAlpha || ['\u0130', '\u0131', '\u017F', '\u212A'].contains c

/-- `\s`. -/
def isSpace (c : Char) : Bool :=
  (9 ≤ c.toNat && c.toNat ≤ 13) || (28 ≤ c.toNat && c.toNat ≤ 32) || c.toNat == 0x85 ||
    c.toNat == 0xA0 || c.toNat == 0x1680 || (0x2000 ≤ c.toNat && c.toNat ≤ 0x200A) ||
    c.toNat == 0x2028 || c.toNat == 0x2029 || c.toNat == 0x202F || c.toNat == 0x205F ||
    c.toNat == 0x3000

/-- `\b[A-Z0-9._%+-]+@[A-Z0-9.-]+\.[A-Z]{2,}\b`. -/
def emailPattern : List PatternItem :=
  [.boundary, .many 1 fun c => isLetter c || c.isDigit || "._%+-".toList.contains c,
    .one (· == '@'), .many 1 fun c => isLetter c || c.isDigit || ".-".toList.contains c,
    .one (· == '.'), .many 2 isLetter, .boundary]

/-- `\bBearer\s+[A-Za-z0-9._~+/=-]+`. -/
def bearerPattern : List PatternItem :=
  .boundary :: ("bearer".toList.map fun letter => .one fun c => c.toLower == letter) ++
    [.many 1 isSpace, .many 1 fun c => isLetter c || c.isDigit || "._~+/=-".toList.contains c]

/-! ## Redaction -/

/-- `_SENSITIVE_KEY_PARTS`. -/
def sensitiveKeyParts : List String :=
  ["api_key", "authorization", "callback_secret", "cookie", "credential", "password",
    "private_key", "secret", "token"]

/-- `_is_sensitive_key`. -/
def isSensitiveKey (key : String) : Bool :=
  let normalized := (Characters.lower key).toList.map fun c => if c = '-' then '_' else c
  sensitiveKeyParts.any fun part => decide (part.toList <:+: normalized)

def redactText (text : String) : String :=
  sub emailPattern "[REDACTED_EMAIL]" (sub bearerPattern "Bearer [REDACTED]" text)

mutual
def redactSensitiveData (value : LogValue) (key : Option String) : LogValue :=
  if key.any isSensitiveKey then .str "[REDACTED]"
  else match value with
    | .mapping items => .mapping (redactItems items)
    | .list items => .list (redactAll items)
    | .tuple items => .tuple (redactAll items)
    | .str text => .str (redactText text)
    | .int n => .int n
    | .float bits => .float bits
    | .bool b => .bool b
    | .none => .none
    -- no other sequence is descended into
    | .sequence type items => .sequence type items
/-- The comprehension over the items of a mapping. -/
def redactItems : List (String × LogValue) → List (String × LogValue)
  | [] => []
  | (key, value) :: rest => (key, redactSensitiveData value (some key)) :: redactItems rest
/-- The comprehension over a list or a tuple. -/
def redactAll : List LogValue → List LogValue
  | [] => []
  | value :: rest => redactSensitiveData value none :: redactAll rest
end

/-! ## Two values -/

mutual
/-- The values differ only in what is stored under sensitive keys. -/
def LogAlike : LogValue → LogValue → Prop
  | .mapping items, .mapping items' => LogAlikeItems items items'
  | .list items, .list items' => LogAlikeAll items items'
  | .tuple items, .tuple items' => LogAlikeAll items items'
  | .sequence type items, .sequence type' items' => type = type' ∧ LogAlikeAll items items'
  | .str text, .str text' => text = text'
  | .int n, .int n' => n = n'
  | .float bits, .float bits' => bits = bits'
  | .bool b, .bool b' => b = b'
  | .none, .none => True
  | _, _ => False
/-- `LogAlike`, of mappings. -/
def LogAlikeItems : List (String × LogValue) → List (String × LogValue) → Prop
  | [], [] => True
  | (key, value) :: rest, (key', value') :: rest' =>
    key = key' ∧ (isSensitiveKey key = true ∨ LogAlike value value') ∧ LogAlikeItems rest rest'
  | _, _ => False
/-- `LogAlike`, item by item. -/
def LogAlikeAll : List LogValue → List LogValue → Prop
  | [], [] => True
  | value :: rest, value' :: rest' => LogAlike value value' ∧ LogAlikeAll rest rest'
  | _, _ => False
end

mutual
/-- The sequences that are neither lists nor tuples, sensitive keys apart. -/
def passedOn : LogValue → List LogValue
  | .mapping items => passedOnItems items
  | .list items => passedOnAll items
  | .tuple items => passedOnAll items
  | .sequence type items => [.sequence type items]
  | _ => []
/-- `passedOn`, of a mapping. -/
def passedOnItems : List (String × LogValue) → List LogValue
  | [] => []
  | (key, value) :: rest =>
    (if isSensitiveKey key then [] else passedOn value) ++ passedOnItems rest
/-- `passedOn`, of a list or a tuple. -/
def passedOnAll : List LogValue → List LogValue
  | [] => []
  | value :: rest => passedOn value ++ passedOnAll rest
end

/-! ### As many sequences -/

mutual
theorem LogAlike.passedOn_length : ∀ {a b : LogValue}, LogAlike a b →
    (passedOn a).length = (passedOn b).length
  | .mapping items, .mapping items', h => by
    rw [LogAlike] at h
    exact LogAlikeItems.passedOn_length h
  | .list items, .list items', h => by
    rw [LogAlike] at h
    exact LogAlikeAll.passedOn_length h
  | .tuple items, .tuple items', h => by
    rw [LogAlike] at h
    exact LogAlikeAll.passedOn_length h
  | .sequence .., .sequence .., _ => rfl
  | .str _, .str _, _ | .int _, .int _, _ | .float _, .float _, _ | .bool _, .bool _, _ => rfl
  | .none, .none, _ => rfl
theorem LogAlikeItems.passedOn_length : ∀ {items items' : List (String × LogValue)},
    LogAlikeItems items items' → (passedOnItems items).length = (passedOnItems items').length
  | [], [], _ => rfl
  | (key, value) :: rest, (key', value') :: rest', h => by
    rw [LogAlikeItems] at h
    obtain ⟨rfl, hvalue, hrest⟩ := h
    rw [passedOnItems, passedOnItems, List.length_append, List.length_append,
      hrest.passedOn_length]
    split_ifs with hkey
    · rfl
    · rw [(hvalue.resolve_left hkey).passedOn_length]
theorem LogAlikeAll.passedOn_length : ∀ {items items' : List LogValue},
    LogAlikeAll items items' → (passedOnAll items).length = (passedOnAll items').length
  | [], [], _ => rfl
  | value :: rest, value' :: rest', h => by
    rw [LogAlikeAll] at h
    rw [passedOnAll, passedOnAll, List.length_append, List.length_append, h.1.passedOn_length,
      h.2.passedOn_length]
end

/-! ### Equal results -/

theorem redactSensitiveData_some (value : LogValue) (key : String) :
    redactSensitiveData value (some key) =
      if isSensitiveKey key = true then .str "[REDACTED]" else redactSensitiveData value none := by
  split_ifs with hkey
  · unfold redactSensitiveData
    rw [Option.any_some, if_pos hkey]
  · conv_lhs => unfold redactSensitiveData
    conv_rhs => unfold redactSensitiveData
    rw [Option.any_some, if_neg hkey, Option.any_none, if_neg Bool.false_ne_true]

omit [Characters] in
theorem append_eq_append_iff_of_length {α : Type} {l₁ l₂ r₁ r₂ : List α}
    (h : l₁.length = l₂.length) : l₁ ++ r₁ = l₂ ++ r₂ ↔ l₁ = l₂ ∧ r₁ = r₂ :=
  ⟨fun heq => List.append_inj heq h, fun heq => by rw [heq.1, heq.2]⟩

mutual
theorem LogAlike.redact_iff : ∀ {a b : LogValue}, LogAlike a b →
    (redactSensitiveData a none = redactSensitiveData b none ↔ passedOn a = passedOn b)
  | .mapping items, .mapping items', h => by
    rw [LogAlike] at h
    show LogValue.mapping (redactItems items) = .mapping (redactItems items') ↔ _
    rw [LogValue.mapping.injEq, h.redact_iff, passedOn, passedOn]
  | .list items, .list items', h => by
    rw [LogAlike] at h
    show LogValue.list (redactAll items) = .list (redactAll items') ↔ _
    rw [LogValue.list.injEq, h.redact_iff, passedOn, passedOn]
  | .tuple items, .tuple items', h => by
    rw [LogAlike] at h
    show LogValue.tuple (redactAll items) = .tuple (redactAll items') ↔ _
    rw [LogValue.tuple.injEq, h.redact_iff, passedOn, passedOn]
  | .sequence type items, .sequence type' items', _ => by
    show LogValue.sequence type items = .sequence type' items' ↔ _
    rw [passedOn, passedOn, List.singleton_inj]
  | .str _, .str _, h => by
    rw [LogAlike] at h
    rw [h]
    exact iff_of_true rfl rfl
  | .int _, .int _, h => by
    rw [LogAlike] at h
    rw [h]
    exact iff_of_true rfl rfl
  | .float _, .float _, h => by
    rw [LogAlike] at h
    rw [h]
    exact iff_of_true rfl rfl
  | .bool _, .bool _, h => by
    rw [LogAlike] at h
    rw [h]
    exact iff_of_true rfl rfl
  | .none, .none, _ => iff_of_true rfl rfl
theorem LogAlikeItems.redact_iff : ∀ {items items' : List (String × LogValue)},
    LogAlikeItems items items' →
      (redactItems items = redactItems items' ↔ passedOnItems items = passedOnItems items')
  | [], [], _ => iff_of_true rfl rfl
  | (key, value) :: rest, (key', value') :: rest', h => by
    rw [LogAlikeItems] at h
    obtain ⟨rfl, hvalue, hrest⟩ := h
    rw [redactItems, redactItems, passedOnItems, passedOnItems, List.cons.injEq, Prod.mk.injEq,
      redactSensitiveData_some, redactSensitiveData_some, hrest.redact_iff]
    split_ifs with hkey
    · -- what is under the key is replaced
      simp
    · have hvalue := hvalue.resolve_left hkey
      rw [hvalue.redact_iff, append_eq_append_iff_of_length hvalue.passedOn_length]
      simp
theorem LogAlikeAll.redact_iff : ∀ {items items' : List LogValue}, LogAlikeAll items items' →
    (redactAll items = redactAll items' ↔ passedOnAll items = passedOnAll items')
  | [], [], _ => iff_of_true rfl rfl
  | value :: rest, value' :: rest', h => by
    rw [LogAlikeAll] at h
    rw [redactAll, redactAll, passedOnAll, passedOnAll, List.cons.injEq, h.1.redact_iff,
      h.2.redact_iff, append_eq_append_iff_of_length h.1.passedOn_length]
end

/-- **Redaction of values that are alike.** The results are equal exactly if the same sequences are
passed on, or all of the value is under a sensitive key. -/
theorem redactSensitiveData_alike_iff {a b : LogValue} (h : LogAlike a b) (key : Option String) :
    redactSensitiveData a key = redactSensitiveData b key ↔
      key.any isSensitiveKey = true ∨ passedOn a = passedOn b := by
  cases key with
  | none =>
    rw [h.redact_iff, Option.any_none]
    simp
  | some key =>
    rw [redactSensitiveData_some, redactSensitiveData_some, Option.any_some]
    split_ifs with hkey
    · simp [hkey]
    · rw [h.redact_iff]
      simp [hkey]

/-- Where nothing is passed on, what is under sensitive keys leaves no trace. -/
theorem redactSensitiveData_eq_of_alike {a b : LogValue} (h : LogAlike a b) (key : Option String)
    (hnone : passedOn a = []) : redactSensitiveData a key = redactSensitiveData b key := by
  have hlength := h.passedOn_length
  rw [hnone, List.length_nil] at hlength
  refine (redactSensitiveData_alike_iff h key).mpr (Or.inr ?_)
  rw [hnone, List.eq_nil_of_length_eq_zero hlength.symm]

/-! ### Events -/

/-- `redact_event`. -/
def redactEvent (eventDict : LogValue) : Except String (List (String × LogValue)) :=
  match redactSensitiveData eventDict none with
  | .mapping items => .ok items
  | _ => .error "Structured log event must remain a dictionary after redaction."

end

/-! ### A deque -/

namespace Demo.Logging

local instance : Characters where
  lower text := String.ofList (text.toList.map Char.toLower)
  isWord c := c.isAlphanum || c == '_'

def login (password : String) : LogValue :=
  .mapping [("user", .str "ada"), ("password", .str password)]

theorem alike_login : LogAlike (login "x") (login "y") := by
  have hkey : isSensitiveKey "password" = true := by decide +kernel
  simp [login, LogAlike, LogAlikeItems, hkey]

theorem redactSensitiveData_alike_iff_tuple :
    redactSensitiveData (.tuple [login "x"]) none = redactSensitiveData (.tuple [login "y"]) none := by
  have halike : LogAlike (.tuple [login "x"]) (.tuple [login "y"]) := by
    simp [LogAlike, LogAlikeAll, alike_login]
  refine (redactSensitiveData_alike_iff halike none).mpr (Or.inr ?_)
  simp [login, passedOn, passedOnAll, passedOnItems]

theorem not_redactSensitiveData_alike : ¬ ∀ a b : LogValue, LogAlike a b →
    redactSensitiveData a none = redactSensitiveData b none := by
  intro h
  have halike : LogAlike (.sequence "deque" [login "x"]) (.sequence "deque" [login "y"]) := by
    simp [LogAlike, LogAlikeAll, alike_login]
  have heq := h _ _ halike
  rw [redactSensitiveData, redactSensitiveData] at heq
  simp [login] at heq

end Demo.Logging

end ChangeOps
