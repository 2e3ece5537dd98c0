import Std.Data.String.ToInt
import Mathlib.Tactic.IntervalCases
import ChangeOps.Contracts.Canonical
import ChangeOps.Lib.Assoc

/-!
# ChangeOps.Contracts — what the canonical text says

The canonical text of a document determines the document, up to the order of the keys of its
objects: `canonicalJson_eq_iff`. Rendering sorts the keys first (`Writes.eq_plain`), and the
text of a document with its keys in place can be read back unambiguously, since what follows a
value is a comma, a bracket or a brace (`readsBack_plain`).
-/

namespace ChangeOps

namespace Json

/-- Induction over documents. -/
theorem induct {P : Json → Prop} (null : P .null) (bool : ∀ b, P (.bool b)) (int : ∀ n, P (.int n))
    (str : ∀ s, P (.str s)) (arr : ∀ items, (∀ item ∈ items, P item) → P (.arr items))
    (obj : ∀ fields, (∀ field ∈ fields, P field.2) → P (.obj fields)) (document : Json) :
    P document := by
  refine @Json.rec P (fun items => ∀ item ∈ items, P item)
    (fun fields => ∀ field ∈ fields, P field.2) (fun field => P field.2)
    null bool int str arr obj ?_ ?_ ?_ ?_ ?_ document
  · simp
  · intro item rest hitem hrest
    simpa using ⟨hitem, hrest⟩
  · simp
  · intro field rest hfield hrest
    simpa using ⟨hfield, by simpa using hrest⟩
  · exact fun _ _ h => h

/-! ## Sorting the keys -/

section SortKeys

variable (le : String → String → Prop) [DecidableRel le]

mutual
/-- The document with the keys of every object in order. -/
def sortKeys : Json → Json
  | .arr items => .arr (sortKeysItems items)
  | .obj fields => .obj ((sortKeysFields fields).insertionSort (Assoc.byKey le))
  | .null => .null
  | .bool b => .bool b
  | .int n => .int n
  | .str s => .str s
def sortKeysItems : List Json → List Json
  | [] => []
  | item :: rest => sortKeys item :: sortKeysItems rest
def sortKeysFields : List (String × Json) → List (String × Json)
  | [] => []
  | (key, value) :: rest => (key, sortKeys value) :: sortKeysFields rest
end

theorem sortKeysItems_eq_map (items : List Json) :
    sortKeysItems le items = items.map (sortKeys le) := by
  induction items with
  | nil => rfl
  | cons item rest ih => rw [sortKeysItems, ih, List.map_cons]

theorem sortKeysFields_eq_map (fields : List (String × Json)) :
    sortKeysFields le fields = fields.map fun field => (field.1, sortKeys le field.2) := by
  induction fields with
  | nil => rfl
  | cons field rest ih => rw [sortKeysFields, ih, List.map_cons]

theorem keys_sortKeysFields (fields : List (String × Json)) :
    (sortKeysFields le fields).map Prod.fst = fields.map Prod.fst := by
  rw [sortKeysFields_eq_map, List.map_map]
  rfl

end SortKeys

/-! ## Writing the text -/

mutual
/-- The text of a document, keys as they stand. -/
def plain : Json → List Char
  | .null => "null".toList
  | .bool true => "true".toList
  | .bool false => "false".toList
  | .int n => (toString n).toList
  | .str s => quote s
  | .arr items => '[' :: commaSep (plainItems items) ++ [']']
  | .obj fields => '{' :: commaSep ((plainFields fields).map renderField) ++ ['}']
def plainItems : List Json → List (List Char)
  | [] => []
  | item :: rest => plain item :: plainItems rest
def plainFields : List (String × Json) → List (String × List Char)
  | [] => []
  | (key, value) :: rest => (key, plain value) :: plainFields rest
end

theorem plainItems_eq_map (items : List Json) : plainItems items = items.map plain := by
  induction items with
  | nil => rfl
  | cons item rest ih => rw [plainItems, ih, List.map_cons]

theorem plainFields_eq_map (fields : List (String × Json)) :
    plainFields fields = fields.map fun field => (field.1, plain field.2) := by
  induction fields with
  | nil => rfl
  | cons field rest ih => rw [plainFields, ih, List.map_cons]

/-- A serializer of compact JSON that puts the keys of an object in the order `le`. -/
structure Writes (le : String → String → Prop) [DecidableRel le] (text : Json → List Char) :
    Prop where
  null : text .null = plain .null
  bool : ∀ b, text (.bool b) = plain (.bool b)
  int : ∀ n, text (.int n) = plain (.int n)
  str : ∀ s, text (.str s) = plain (.str s)
  arr : ∀ items, text (.arr items) = '[' :: commaSep (items.map text) ++ [']']
  obj : ∀ fields, text (.obj fields) =
    '{' :: commaSep (((fields.map fun field => (field.1, text field.2)).insertionSort
      (Assoc.byKey le)).map renderField) ++ ['}']

/-- Such a serializer sorts, then writes. -/
theorem Writes.eq_plain {le : String → String → Prop} [DecidableRel le] {text : Json → List Char}
    (h : Writes le text) (document : Json) : text document = (sortKeys le document).plain := by
  induction document using induct with
  | null => exact h.null
  | bool b => exact h.bool b
  | int n => exact h.int n
  | str s => exact h.str s
  | arr items ih =>
    have hitems : items.map text = (items.map (sortKeys le)).map plain := by
      rw [List.map_map]
      exact List.map_congr_left ih
    rw [h.arr, sortKeys, plain, sortKeysItems_eq_map, plainItems_eq_map, hitems]
  | obj fields ih =>
    have hfields : fields.map (fun field => (field.1, text field.2)) =
        (fields.map fun field => (field.1, sortKeys le field.2)).map
          fun field => (field.1, plain field.2) := by
      rw [List.map_map]
      exact List.map_congr_left fun field hmem => congrArg (Prod.mk field.1) (ih field hmem)
    rw [h.obj, sortKeys, plain, sortKeysFields_eq_map, plainFields_eq_map, hfields]
    -- sorting looks at the keys only, so it does not matter whether the values are texts yet
    rw [List.map_insertionSort (r := Assoc.byKey le) (s := Assoc.byKey le)]
    exact fun _ _ _ _ => Iff.rfl

theorem renderItems_eq_map (items : List Json) : renderItems items = items.map render := by
  induction items with
  | nil => rfl
  | cons item rest ih => rw [renderItems, ih, List.map_cons]

theorem renderFields_eq_map (fields : List (String × Json)) :
    renderFields fields = fields.map fun field => (field.1, render field.2) := by
  induction fields with
  | nil => rfl
  | cons field rest ih => rw [renderFields, ih, List.map_cons]

/-- `json.dumps(..., sort_keys=True)` orders keys by code points. -/
theorem writes_render : Writes (· ≤ ·) render where
  null := rfl
  bool b := by cases b <;> rfl
  int _ := rfl
  str _ := rfl
  arr items := by rw [render, renderItems_eq_map]
  obj fields := by rw [render, renderFields_eq_map]; rfl

/-! ## Reading the text back -/

/-- The character that an escaped text begins with, and the rest. -/
def unescape : List Char → Option (Char × List Char)
  | '\\' :: 'n' :: rest => some ('\n', rest)
  | '\\' :: 'r' :: rest => some ('\r', rest)
  | '\\' :: 't' :: rest => some ('\t', rest)
  | '\\' :: 'b' :: rest => some (Char.ofNat 8, rest)
  | '\\' :: 'f' :: rest => some (Char.ofNat 12, rest)
  | '\\' :: 'u' :: _ :: _ :: high :: low :: rest =>
      some (Char.ofNat (16 * (high.toNat - 48) +
        (if low.toNat < 58 then low.toNat - 48 else low.toNat - 87)), rest)
  | '\\' :: c :: rest => some (c, rest)
  | c :: rest => some (c, rest)
  | [] => none

theorem unescape_escapeChar (c : Char) (rest : List Char) :
    unescape (escapeChar c ++ rest) = some (c, rest) := by
  unfold escapeChar
  split_ifs with h1 h2 h3 h4 h5 h6 h7 h8
  · rw [h1]; rfl
  · rw [h2]; rfl
  · rw [h3]; rfl
  · rw [h4]; rfl
  · rw [h5]; rfl
  · rw [← Char.ofNat_toNat c, h6]; rfl
  · rw [← Char.ofNat_toNat c, h7]; rfl
  · rw [← Char.ofNat_toNat c]
    generalize c.toNat = n at h8
    interval_cases n <;> rfl
  · unfold unescape
    split <;> simp_all

theorem escapeChar_cons (c : Char) : ∃ first rest, escapeChar c = first :: rest ∧ first ≠ '"' := by
  unfold escapeChar
  split_ifs with h1
  all_goals first | exact ⟨_, _, rfl, by decide⟩ | exact ⟨_, _, rfl, h1⟩

theorem escaped_append_inj {cs cs' rest rest' : List Char}
    (h : cs.flatMap escapeChar ++ '"' :: rest = cs'.flatMap escapeChar ++ '"' :: rest') :
    cs = cs' ∧ rest = rest' := by
  induction cs generalizing cs' with
  | nil =>
    cases cs' with
    | nil => exact ⟨rfl, List.tail_eq_of_cons_eq h⟩
    | cons c' cs' =>
      obtain ⟨first, tail, heq, hne⟩ := escapeChar_cons c'
      rw [List.flatMap_cons, heq] at h
      exact absurd (List.head_eq_of_cons_eq h).symm hne
  | cons c cs ih =>
    cases cs' with
    | nil =>
      obtain ⟨first, tail, heq, hne⟩ := escapeChar_cons c
      rw [List.flatMap_cons, heq] at h
      exact absurd (List.head_eq_of_cons_eq h) hne
    | cons c' cs' =>
      rw [List.flatMap_cons, List.flatMap_cons, List.append_assoc, List.append_assoc] at h
      have hread := congrArg unescape h
      rw [unescape_escapeChar, unescape_escapeChar, Option.some.injEq, Prod.mk.injEq] at hread
      obtain ⟨hcs, hrest⟩ := ih hread.2
      exact ⟨by rw [hread.1, hcs], hrest⟩

/-- A quoted text says where it ends. -/
theorem quote_append_inj {s s' : String} {rest rest' : List Char}
    (h : quote s ++ rest = quote s' ++ rest') : s = s' ∧ rest = rest' := by
  simp only [quote, List.cons_append, List.append_assoc, List.cons.injEq, true_and,
    List.nil_append] at h
  obtain ⟨hs, hrest⟩ := escaped_append_inj h
  exact ⟨String.toList_injective hs, hrest⟩

/-- What may follow a value: nothing, or a character that no number contains. -/
def Delimited (rest : List Char) : Prop := ∀ c ∈ rest.head?, c = ',' ∨ c = ']' ∨ c = '}'

/-- The characters of a number. -/
def isNumeral (c : Char) : Bool := c.isDigit || c == '-'

theorem isNumeral_of_mem {n : Int} {c : Char} (h : c ∈ (toString n).toList) : isNumeral c = true := by
  have hdigits : ∀ m : Nat, c ∈ (Nat.repr m).toList → isNumeral c = true := by
    intro m hmem
    rw [Nat.toList_repr] at hmem
    simp [isNumeral, Nat.isDigit_of_mem_toDigits (by decide) (by decide) hmem]
  cases n with
  | ofNat m => exact hdigits m h
  | negSucc m =>
    rw [show toString (Int.negSucc m) = "-" ++ Nat.repr (m + 1) from rfl, String.toList_append] at h
    rcases List.mem_append.mp h with hsign | hmem
    · rw [show ("-" : String).toList = ['-'] from rfl, List.mem_singleton] at hsign
      rw [hsign]
      rfl
    · exact hdigits _ hmem

theorem toString_ne_empty (n : Int) : toString n ≠ "" := by
  cases n with
  | ofNat m => exact Nat.repr_ne_empty
  | negSucc m =>
    rw [show toString (Int.negSucc m) = "-" ++ Nat.repr (m + 1) from rfl]
    simp

theorem takeWhile_numeral {n : Int} {rest : List Char} (h : Delimited rest) :
    ((toString n).toList ++ rest).takeWhile isNumeral = (toString n).toList := by
  rw [List.takeWhile_append_of_pos fun c hmem => isNumeral_of_mem hmem]
  cases rest with
  | nil => simp
  | cons c rest =>
    have hc : isNumeral c = false := by
      rcases h c rfl with rfl | rfl | rfl <;> decide
    simp [hc]

theorem toString_append_inj {n n' : Int} {rest rest' : List Char} (hrest : Delimited rest)
    (hrest' : Delimited rest') (h : (toString n).toList ++ rest = (toString n').toList ++ rest') :
    n = n' ∧ rest = rest' := by
  have htext : (toString n).toList = (toString n').toList := by
    rw [← takeWhile_numeral hrest, h, takeWhile_numeral hrest']
  refine ⟨Int.repr_injective (String.toList_injective htext), ?_⟩
  rw [htext] at h
  exact List.append_cancel_left h

/-- A text that can be read back when something delimited follows. -/
def ReadsBack {α : Type} (text : α → List Char) (a : α) : Prop :=
  ∀ a' rest rest', Delimited rest → Delimited rest' → text a ++ rest = text a' ++ rest' →
    a = a' ∧ rest = rest'

section Sequences

variable {α : Type} {text : α → List Char} {close : Char}

theorem commaSep_cons (first : List Char) (rest : List (List Char)) :
    commaSep (first :: rest) = first ++ rest.flatMap fun item => ',' :: item := by
  induction rest generalizing first with
  | nil => simp [commaSep]
  | cons second rest ih =>
    rw [commaSep]
    · rw [ih second, List.flatMap_cons]
      rfl
    · simp

theorem delimited_tail (hclose : close = ']' ∨ close = '}') (as : List α) (rest : List Char) :
    Delimited ((as.map text).flatMap (fun item => ',' :: item) ++ close :: rest) := by
  intro c hc
  cases as with
  | nil =>
    cases hc
    exact .inr hclose
  | cons a as =>
    cases hc
    exact .inl rfl

theorem tail_append_inj (hclose : close = ']' ∨ close = '}') {as : List α}
    (hreads : ∀ a ∈ as, ReadsBack text a) {as' : List α} {rest rest' : List Char}
    (h : (as.map text).flatMap (fun item => ',' :: item) ++ close :: rest =
      (as'.map text).flatMap (fun item => ',' :: item) ++ close :: rest') :
    as = as' ∧ rest = rest' := by
  have hcomma : close ≠ ',' := by
    rcases hclose with rfl | rfl <;> decide
  induction as generalizing as' with
  | nil =>
    cases as' with
    | nil => exact ⟨rfl, List.tail_eq_of_cons_eq h⟩
    | cons a' as' => exact absurd (List.head_eq_of_cons_eq h) hcomma
  | cons a as ih =>
    cases as' with
    | nil => exact absurd (List.head_eq_of_cons_eq h).symm hcomma
    | cons a' as' =>
      simp only [List.map_cons, List.flatMap_cons, List.cons_append, List.append_assoc,
        List.cons.injEq, true_and] at h
      obtain ⟨ha, htail⟩ := hreads a List.mem_cons_self a' _ _ (delimited_tail hclose as rest)
        (delimited_tail hclose as' rest') h
      obtain ⟨has, hrest⟩ := ih (fun b hb => hreads b (List.mem_cons_of_mem _ hb)) htail
      exact ⟨by rw [ha, has], hrest⟩

/-- Items separated by commas, up to the closing character. -/
theorem commaSep_append_inj (hclose : close = ']' ∨ close = '}')
    (hfirst : ∀ a, ∃ c tail, text a = c :: tail ∧ c ≠ close) {as : List α}
    (hreads : ∀ a ∈ as, ReadsBack text a) {as' : List α} {rest rest' : List Char}
    (h : commaSep (as.map text) ++ close :: rest = commaSep (as'.map text) ++ close :: rest') :
    as = as' ∧ rest = rest' := by
  cases as with
  | nil =>
    cases as' with
    | nil => exact ⟨rfl, List.tail_eq_of_cons_eq h⟩
    | cons a' as' =>
      obtain ⟨c, tail, heq, hne⟩ := hfirst a'
      rw [List.map_cons, commaSep_cons, heq] at h
      exact absurd (List.head_eq_of_cons_eq h).symm hne
  | cons a as =>
    cases as' with
    | nil =>
      obtain ⟨c, tail, heq, hne⟩ := hfirst a
      rw [List.map_cons, commaSep_cons, heq] at h
      exact absurd (List.head_eq_of_cons_eq h) hne
    | cons a' as' =>
      rw [List.map_cons, List.map_cons, commaSep_cons, commaSep_cons, List.append_assoc,
        List.append_assoc] at h
      obtain ⟨ha, htail⟩ := hreads a List.mem_cons_self a' _ _ (delimited_tail hclose as rest)
        (delimited_tail hclose as' rest') h
      obtain ⟨has, hrest⟩ := tail_append_inj hclose
        (fun b hb => hreads b (List.mem_cons_of_mem _ hb)) htail
      exact ⟨by rw [ha, has], hrest⟩

end Sequences

/-- The kind of a value. -/
def kind : Json → Nat
  | .null => 0
  | .bool true => 1
  | .bool false => 2
  | .str _ => 3
  | .arr _ => 4
  | .obj _ => 5
  | .int _ => 6

/-- The kind of a value, from the first character of its text. -/
def kindOf (c : Char) : Nat :=
  if c = 'n' then 0 else if c = 't' then 1 else if c = 'f' then 2 else if c = '"' then 3
  else if c = '[' then 4 else if c = '{' then 5 else if isNumeral c then 6 else 7

theorem plain_cons (document : Json) :
    ∃ c tail, document.plain = c :: tail ∧ kindOf c = document.kind := by
  cases document with
  | null => exact ⟨'n', _, rfl, rfl⟩
  | bool b => cases b <;> exact ⟨_, _, rfl, rfl⟩
  | str s => exact ⟨'"', _, rfl, rfl⟩
  | arr items => exact ⟨'[', _, rfl, rfl⟩
  | obj fields => exact ⟨'{', _, rfl, rfl⟩
  | int n =>
    rw [plain]
    cases htext : (toString n).toList with
    | nil => exact absurd (String.toList_eq_nil_iff.mp htext) (toString_ne_empty n)
    | cons c tail =>
      refine ⟨c, tail, rfl, ?_⟩
      have hnumeral : isNumeral c = true := isNumeral_of_mem (htext ▸ List.mem_cons_self)
      unfold kindOf kind
      split_ifs with h0 h1 h2 h3 h4 h5
      all_goals first | rfl | (subst_vars; cases hnumeral)

theorem plain_cons_ne_bracket (document : Json) :
    ∃ c tail, document.plain = c :: tail ∧ c ≠ ']' := by
  obtain ⟨c, tail, heq, hkind⟩ := plain_cons document
  refine ⟨c, tail, heq, ?_⟩
  rintro rfl
  cases document with
  | bool b => cases b <;> cases hkind
  | _ => cases hkind

theorem readsBack_field {fields : List (String × Json)}
    (ih : ∀ field ∈ fields, ReadsBack plain field.2) :
    ∀ field ∈ fields, ReadsBack (fun field => renderField (field.1, plain field.2)) field := by
  intro field hmem field' rest rest' hrest hrest' h
  simp only [renderField, List.append_assoc, List.cons_append] at h
  obtain ⟨hkey, htail⟩ := quote_append_inj h
  obtain ⟨hvalue, hrests⟩ := ih field hmem field'.2 rest rest' hrest hrest'
    (List.tail_eq_of_cons_eq htail)
  exact ⟨Prod.ext hkey hvalue, hrests⟩

theorem kind_eq_of_append {a b : Json} {rest rest' : List Char}
    (h : a.plain ++ rest = b.plain ++ rest') : a.kind = b.kind := by
  obtain ⟨c, tail, htext, hkind⟩ := plain_cons a
  obtain ⟨c', tail', htext', hkind'⟩ := plain_cons b
  rw [htext, htext'] at h
  rw [← hkind, ← hkind', List.head_eq_of_cons_eq h]

/-- **The text of a document can be read back.** -/
theorem readsBack_plain (document : Json) : ReadsBack plain document := by
  induction document using induct with
  | null =>
    intro other rest rest' _ _ h
    have hkind := kind_eq_of_append h
    cases other with
    | null => exact ⟨rfl, List.append_cancel_left h⟩
    | bool b => cases b <;> cases hkind
    | _ => cases hkind
  | bool b =>
    intro other rest rest' _ _ h
    have hkind := kind_eq_of_append h
    cases other with
    | bool b' =>
      obtain rfl : b = b' := by cases b <;> cases b' <;> first | rfl | cases hkind
      exact ⟨rfl, List.append_cancel_left h⟩
    | _ => cases b <;> cases hkind
  | int n =>
    intro other rest rest' hrest hrest' h
    have hkind := kind_eq_of_append h
    cases other with
    | int n' =>
      obtain ⟨hn, hrests⟩ := toString_append_inj hrest hrest' h
      exact ⟨congrArg Json.int hn, hrests⟩
    | bool b => cases b <;> cases hkind
    | _ => cases hkind
  | str s =>
    intro other rest rest' _ _ h
    have hkind := kind_eq_of_append h
    cases other with
    | str s' =>
      obtain ⟨hs, hrests⟩ := quote_append_inj h
      exact ⟨congrArg Json.str hs, hrests⟩
    | bool b => cases b <;> cases hkind
    | _ => cases hkind
  | arr items ih =>
    intro other rest rest' _ _ h
    have hkind := kind_eq_of_append h
    cases other with
    | arr items' =>
      simp only [plain, plainItems_eq_map, List.cons_append, List.append_assoc, List.cons.injEq,
        true_and, List.nil_append] at h
      obtain ⟨hitems, hrests⟩ := commaSep_append_inj (.inl rfl) plain_cons_ne_bracket ih h
      exact ⟨congrArg Json.arr hitems, hrests⟩
    | bool b => cases b <;> cases hkind
    | _ => cases hkind
  | obj fields ih =>
    intro other rest rest' _ _ h
    have hkind := kind_eq_of_append h
    cases other with
    | obj fields' =>
      simp only [plain, plainFields_eq_map, List.map_map, List.cons_append, List.append_assoc,
        List.cons.injEq, true_and, List.nil_append] at h
      obtain ⟨hfields, hrests⟩ := commaSep_append_inj (.inr rfl)
        (fun _ => ⟨'"', _, rfl, by decide⟩) (readsBack_field ih) h
      exact ⟨congrArg Json.obj hfields, hrests⟩
    | bool b => cases b <;> cases hkind
    | _ => cases hkind

theorem plain_injective : Function.Injective plain := by
  intro a b h
  have hnil : Delimited [] := fun _ hc => nomatch hc
  exact (readsBack_plain a b [] [] hnil hnil (by rw [h])).1

end Json

/-- **Canonical text.** Two documents have the same canonical text if and only if they are the
same once the keys of their objects are in order. -/
theorem canonicalJson_eq_iff {a b : Json} :
    canonicalJson a = canonicalJson b ↔ a.sortKeys (· ≤ ·) = b.sortKeys (· ≤ ·) := by
  unfold canonicalJson
  rw [Json.writes_render.eq_plain, Json.writes_render.eq_plain]
  constructor
  · intro h
    exact Json.plain_injective (String.ofList_injective h)
  · intro h
    rw [h]

end ChangeOps
