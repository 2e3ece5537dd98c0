import ChangeOps.Contracts.Documents

/-!
# ChangeOps.TypescriptContracts — the TypeScript serializer

`canonicalJson` of `contracts-typescript/src/index.ts` and the plan hash of `node.ts`, next to
the Python serializer. Both write the same compact text; the one difference is the order of
the keys. `sort_keys=True` compares keys by code points, `Array.prototype.sort` by UTF-16 code
units, and the two orders differ exactly where a character of `U+E000 .. U+FFFF` meets a
supplementary one (`le_iff_keyLe`).

Numbers are safe integers, which a JavaScript `number` holds exactly and writes in decimal.
-/

namespace ChangeOps

namespace Typescript

/-! ## Strings in UTF-16 -/

/-- The code units of a character. -/
def utf16 (c : Char) : List Nat :=
  if c.toNat < 0x10000 then [c.toNat]
  else [0xD800 + (c.toNat - 0x10000) / 0x400, 0xDC00 + (c.toNat - 0x10000) % 0x400]

/-- The code units of a text. -/
def codeUnits (text : String) : List Nat := text.toList.flatMap utf16

/-- The order of `Array.prototype.sort` without a comparator. -/
def keyLe (a b : String) : Prop := codeUnits a ≤ codeUnits b

instance : DecidableRel keyLe := fun a b => inferInstanceAs (Decidable (codeUnits a ≤ codeUnits b))

/-! ## The serializer -/

/-- One character of a string, as `JSON.stringify` writes it. -/
def escapeChar (c : Char) : List Char :=
  if c.toNat = 0x08 then ['\\', 'b']
  else if c.toNat = 0x09 then ['\\', 't']
  else if c.toNat = 0x0A then ['\\', 'n']
  else if c.toNat = 0x0C then ['\\', 'f']
  else if c.toNat = 0x0D then ['\\', 'r']
  else if c.toNat = 0x22 then ['\\', '"']
  else if c.toNat = 0x5C then ['\\', '\\']
  else if c.toNat < 0x20 then
    ['\\', 'u', '0', '0', Nat.digitChar (c.toNat / 16), Nat.digitChar (c.toNat % 16)]
  else [c]

/-- `JSON.stringify` of a string. -/
def stringify (text : String) : List Char := '"' :: text.toList.flatMap escapeChar ++ ['"']

/-- `entries.join(",")`. -/
def join : List (List Char) → List Char
  | [] => []
  | [entry] => entry
  | entry :: rest => entry ++ ',' :: join rest

mutual
/-- `canonicalJson`, as a list of characters. -/
def render : Json → List Char
  | .null => "null".toList
  | .bool true => "true".toList
  | .bool false => "false".toList
  | .int n => (toString n).toList
  | .str s => stringify s
  | .arr items => '[' :: join (renderItems items) ++ [']']
  | .obj fields =>
      '{' :: join (((renderFields fields).insertionSort (Assoc.byKey keyLe)).map fun entry =>
        stringify entry.1 ++ ':' :: entry.2) ++ ['}']
def renderItems : List Json → List (List Char)
  | [] => []
  | item :: rest => render item :: renderItems rest
def renderFields : List (String × Json) → List (String × List Char)
  | [] => []
  | (key, value) :: rest => (key, render value) :: renderFields rest
end

def canonicalJson (value : Json) : String := String.ofList (render value)

/-- The digest of `calculatePlanHash`. -/
def sha256Digest [Sha256] (value : Json) : String :=
  "sha256:" ++ Sha256.hexdigest (canonicalJson value)

/-! ## The same text, keys apart -/

theorem escapeChar_eq (c : Char) : escapeChar c = Json.escapeChar c := by
  have heq : ∀ d : Char, c = d ↔ c.toNat = d.toNat := fun d => Char.toNat_inj.symm
  unfold escapeChar Json.escapeChar
  simp only [heq, Char.reduceToNat]
  split_ifs <;> first | rfl | omega

theorem stringify_eq (text : String) : stringify text = Json.quote text := by
  unfold stringify Json.quote
  rw [funext escapeChar_eq]

theorem join_eq (entries : List (List Char)) : join entries = Json.commaSep entries := by
  induction entries using join.induct with
  | case1 => rfl
  | case2 entry => rfl
  | case3 entry rest hne ih =>
    rw [join, Json.commaSep, ih]
    · exact hne
    · exact hne

theorem renderItems_eq_map (items : List Json) : renderItems items = items.map render := by
  induction items with
  | nil => rfl
  | cons item rest ih => rw [renderItems, ih, List.map_cons]

theorem renderFields_eq_map (fields : List (String × Json)) :
    renderFields fields = fields.map fun field => (field.1, render field.2) := by
  induction fields with
  | nil => rfl
  | cons field rest ih => rw [renderFields, ih, List.map_cons]

theorem writes_render : Json.Writes keyLe render where
  null := rfl
  bool b := by cases b <;> rfl
  int _ := rfl
  str s := stringify_eq s
  arr items := by rw [render, renderItems_eq_map, join_eq]
  obj fields := by
    rw [render, renderFields_eq_map, join_eq]
    simp only [stringify_eq]
    rfl

/-! ## Two orders of keys -/

/-- A character above the surrogates that is one code unit. -/
def aboveSurrogates (c : Char) : Bool := decide (0xE000 ≤ c.toNat ∧ c.toNat < 0x10000)

/-- A character that is a surrogate pair. -/
def isSupplementary (c : Char) : Bool := decide (0x10000 ≤ c.toNat)

/-- Where two texts first differ, one has a character above the surrogates, the other a
supplementary one. -/
def clashChars : List Char → List Char → Bool
  | c :: cs, d :: ds =>
      if c = d then clashChars cs ds
      else (aboveSurrogates c && isSupplementary d) || (isSupplementary c && aboveSurrogates d)
  | _, _ => false

def clash (a b : String) : Bool := clashChars a.toList b.toList

/-- The place of a character in the order of code units. -/
def rank (c : Char) : Nat := if aboveSurrogates c then c.toNat + 0x110000 else c.toNat

theorem toNat_range (c : Char) : c.toNat < 0xD800 ∨ (0xE000 ≤ c.toNat ∧ c.toNat < 0x110000) := by
  have hvalid := c.valid
  unfold UInt32.isValidChar Nat.isValidChar at hvalid
  change c.toNat < 0xD800 ∨ (0xDFFF < c.toNat ∧ c.toNat < 0x110000) at hvalid
  omega

theorem cons_le_cons_iff {α : Type} [LinearOrder α] {a b : α} {xs ys : List α} :
    a :: xs ≤ b :: ys ↔ a < b ∨ a = b ∧ xs ≤ ys := by
  rw [← not_lt, List.cons_lt_cons_iff, ← not_lt (a := ys)]
  rcases lt_trichotomy a b with hlt | rfl | hlt
  · simp [hlt, hlt.ne', hlt.not_gt]
  · simp
  · simp [hlt, hlt.ne', hlt.not_gt]

theorem nil_le {α : Type} [LinearOrder α] (xs : List α) : [] ≤ xs := not_lt.mp (List.not_lt_nil xs)

theorem not_le_nil {α : Type} [LinearOrder α] {xs : List α} (h : xs ≠ []) : ¬ xs ≤ [] := by
  cases xs with
  | nil => exact absurd rfl h
  | cons x xs => exact not_le.mpr (List.nil_lt_cons x xs)

theorem append_units_ne_nil (c : Char) (xs : List Nat) : utf16 c ++ xs ≠ [] := by
  unfold utf16
  split_ifs <;> simp

theorem cons_units_le_iff (c d : Char) (xs ys : List Nat) :
    utf16 c ++ xs ≤ utf16 d ++ ys ↔ rank c < rank d ∨ (c = d ∧ xs ≤ ys) := by
  have hc := toNat_range c
  have hd := toNat_range d
  have heq : c = d ↔ c.toNat = d.toNat := Char.toNat_inj.symm
  rw [heq]
  unfold utf16 rank aboveSurrogates
  by_cases hle : xs ≤ ys
  all_goals
    simp only [decide_eq_true_eq]
    split_ifs <;>
      simp only [List.cons_append, List.nil_append, cons_le_cons_iff, hle, and_true, and_false,
        or_false] <;>
      omega

theorem units_injective {cs ds : List Char} (h : cs.flatMap utf16 = ds.flatMap utf16) : cs = ds := by
  induction cs generalizing ds with
  | nil =>
    cases ds with
    | nil => rfl
    | cons d ds => exact absurd h.symm (append_units_ne_nil d _)
  | cons c cs ih =>
    cases ds with
    | nil => exact absurd h (append_units_ne_nil c _)
    | cons d ds =>
      rw [List.flatMap_cons, List.flatMap_cons] at h
      -- neither text is below the other, so they begin with the same character
      have hcd := (cons_units_le_iff c d _ _).mp h.le
      have hdc := (cons_units_le_iff d c _ _).mp h.ge
      obtain rfl : c = d := by
        rcases hcd with hlt | ⟨heq, -⟩
        · rcases hdc with hgt | ⟨heq, -⟩
          · exact absurd hgt (Nat.lt_asymm hlt)
          · exact heq.symm
        · exact heq
      rw [ih (List.append_cancel_left h)]

instance : Std.Total keyLe := ⟨fun a b => le_total (codeUnits a) (codeUnits b)⟩

instance : IsTrans String keyLe := ⟨fun _ _ _ hab hbc => le_trans (α := List Nat) hab hbc⟩

instance : Std.Antisymm keyLe :=
  ⟨fun _ _ hab hba => String.toList_injective (units_injective (le_antisymm hab hba))⟩

theorem chars_le_iff_units_le (cs ds : List Char) :
    (cs ≤ ds ↔ cs.flatMap utf16 ≤ ds.flatMap utf16) ↔ clashChars cs ds = false := by
  induction cs generalizing ds with
  | nil => exact iff_of_true (iff_of_true (nil_le _) (nil_le _)) rfl
  | cons c cs ih =>
    cases ds with
    | nil =>
      exact iff_of_true
        (iff_of_false (not_le_nil (List.cons_ne_nil _ _)) (not_le_nil (append_units_ne_nil c _))) rfl
    | cons d ds =>
      rw [List.flatMap_cons, List.flatMap_cons, cons_le_cons_iff, cons_units_le_iff, clashChars]
      by_cases heq : c = d
      · subst heq
        simp [ih]
      · have hc := toNat_range c
        have hd := toNat_range d
        have hlt : c < d ↔ c.toNat < d.toNat := Iff.rfl
        have hne : c.toNat ≠ d.toNat := fun h => heq (Char.toNat_inj.mp h)
        simp only [heq, false_and, or_false, if_false, hlt, rank, aboveSurrogates, isSupplementary,
          decide_eq_true_eq, Bool.or_eq_false_iff, Bool.and_eq_false_iff, decide_eq_false_iff_not]
        split_ifs <;> omega

/-- The two orders agree on two keys if and only if the keys do not clash. -/
theorem le_iff_keyLe (a b : String) : (a ≤ b ↔ keyLe a b) ↔ clash a b = false := by
  rw [String.le_iff_toList_le]
  exact chars_le_iff_units_le a.toList b.toList

/-! ## Documents that both runtimes write alike -/

mutual
/-- Every number in the document is a safe integer. -/
def safeIntegers : Json → Bool
  | .int n => decide (n.natAbs < 2 ^ 53)
  | .arr items => safeIntegersItems items
  | .obj fields => safeIntegersFields fields
  | .null => true
  | .bool _ => true
  | .str _ => true
def safeIntegersItems : List Json → Bool
  | [] => true
  | item :: rest => safeIntegers item && safeIntegersItems rest
def safeIntegersFields : List (String × Json) → Bool
  | [] => true
  | (_, value) :: rest => safeIntegers value && safeIntegersFields rest
end

mutual
/-- No object in the document has two clashing keys. -/
def noClash : Json → Bool
  | .arr items => noClashItems items
  | .obj fields =>
      ((fields.map Prod.fst).all fun a => (fields.map Prod.fst).all fun b => !clash a b) &&
        noClashFields fields
  | .null => true
  | .bool _ => true
  | .int _ => true
  | .str _ => true
def noClashItems : List Json → Bool
  | [] => true
  | item :: rest => noClash item && noClashItems rest
def noClashFields : List (String × Json) → Bool
  | [] => true
  | (_, value) :: rest => noClash value && noClashFields rest
end

theorem noClashItems_iff {items : List Json} :
    noClashItems items = true ↔ ∀ item ∈ items, noClash item = true := by
  induction items with
  | nil => simp [noClashItems]
  | cons item rest ih => simp [noClashItems, ih]

theorem noClashFields_iff {fields : List (String × Json)} :
    noClashFields fields = true ↔ ∀ field ∈ fields, noClash field.2 = true := by
  induction fields with
  | nil => simp [noClashFields]
  | cons field rest ih => rw [noClashFields, Bool.and_eq_true, ih, List.forall_mem_cons]

theorem noClash_obj_iff {fields : List (String × Json)} :
    noClash (.obj fields) = true ↔
      (∀ a ∈ fields.map Prod.fst, ∀ b ∈ fields.map Prod.fst, clash a b = false) ∧
        ∀ field ∈ fields, noClash field.2 = true := by
  rw [noClash, Bool.and_eq_true, noClashFields_iff]
  simp only [List.all_eq_true, Bool.not_eq_true']

/-- The two orders of keys put a document in the same order if and only if no keys clash. -/
theorem sortKeys_eq_iff_noClash {document : Json} (hdistinct : document.distinctKeys = true) :
    document.sortKeys (· ≤ ·) = document.sortKeys keyLe ↔ noClash document = true := by
  induction document using Json.induct with
  | null => exact iff_of_true rfl rfl
  | bool b => exact iff_of_true rfl rfl
  | int n => exact iff_of_true rfl rfl
  | str s => exact iff_of_true rfl rfl
  | arr items ih =>
    have hitems := Json.distinctKeysItems_iff.mp hdistinct
    rw [Json.sortKeys, Json.sortKeys, Json.arr.injEq, Json.sortKeysItems_eq_map,
      Json.sortKeysItems_eq_map, List.map_inj_left, noClash, noClashItems_iff]
    exact forall₂_congr fun item hmem => ih item hmem (hitems item hmem)
  | obj fields ih =>
    obtain ⟨hnodup, hvalues⟩ := Json.distinctKeys_obj_iff.mp hdistinct
    have hkeys : ∀ (le : String → String → Prop) [DecidableRel le],
        (Json.sortKeysFields le fields).map Prod.fst = fields.map Prod.fst :=
      fun le _ => Json.keys_sortKeysFields le fields
    have hsorted : (Json.sortKeysFields (· ≤ ·) fields).insertionSort (Assoc.byKey (· ≤ ·)) =
        (Json.sortKeysFields keyLe fields).insertionSort (Assoc.byKey keyLe) ↔ _ :=
      Assoc.insertionSort_eq_iff_agree ((hkeys (· ≤ ·)).trans (hkeys keyLe).symm)
        (by rw [hkeys]; exact hnodup)
    -- the values agree by induction, the keys by `le_iff_keyLe`
    have hfields : Json.sortKeysFields (· ≤ ·) fields = Json.sortKeysFields keyLe fields ↔
        ∀ field ∈ fields, noClash field.2 = true := by
      rw [Json.sortKeysFields_eq_map, Json.sortKeysFields_eq_map, List.map_inj_left]
      refine forall₂_congr fun field hmem => ?_
      rw [Prod.mk.injEq, ← ih field hmem (hvalues field hmem)]
      exact and_iff_right rfl
    have hagree : (∀ a ∈ Json.sortKeysFields (· ≤ ·) fields,
        ∀ b ∈ Json.sortKeysFields (· ≤ ·) fields, a.1 ≤ b.1 ↔ keyLe a.1 b.1) ↔
          ∀ a ∈ fields.map Prod.fst, ∀ b ∈ fields.map Prod.fst, clash a b = false := by
      rw [← hkeys (· ≤ ·)]
      simp only [List.forall_mem_map, le_iff_keyLe]
    rw [Json.sortKeys, Json.sortKeys, Json.obj.injEq, hsorted, hfields, hagree, noClash_obj_iff,
      and_comm]

/-- A document that both languages can hold. -/
structure PortableDocument extends Document where
  safe : safeIntegers json = true

/-- Both runtimes produce the same text, hence the same digest. -/
structure SameInBoth [Sha256] (document : Json) : Prop where
  text : ChangeOps.canonicalJson document = canonicalJson document
  digest : ChangeOps.sha256Digest document = sha256Digest document

/-- The two serializers agree on a document if and only if none of its objects has two keys
that first differ in a character of `U+E000 .. U+FFFF` against a supplementary one. -/
theorem sameInBoth_iff_noClash [Sha256] (document : PortableDocument) :
    SameInBoth document.json ↔ noClash document.json = true := by
  have htext : ChangeOps.canonicalJson document.json = canonicalJson document.json ↔
      noClash document.json = true := by
    rw [← sortKeys_eq_iff_noClash document.distinct, ChangeOps.canonicalJson, canonicalJson,
      Json.writes_render.eq_plain, writes_render.eq_plain]
    constructor
    · intro h
      exact Json.plain_injective (String.ofList_injective h)
    · intro h
      rw [h]
  constructor
  · intro h
    exact htext.mp h.text
  · intro h
    have heq := htext.mpr h
    exact ⟨heq, by rw [ChangeOps.sha256Digest, sha256Digest, heq]⟩

/-- A ligature of the basic plane and a supplementary character as keys of one object. -/
theorem not_sameInBoth_ligature :
    ¬ ∀ [Sha256] (document : PortableDocument), SameInBoth document.json := by
  intro h
  have hsame := @h .hashlib ⟨⟨.obj [("😀", .int 1), ("ﬁ", .int 2)], by decide⟩, by decide⟩
  have htext := @SameInBoth.text .hashlib _ hsame
  exact absurd htext (by decide +kernel)

end Typescript

end ChangeOps
