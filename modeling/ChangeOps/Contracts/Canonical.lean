import Mathlib.Data.List.Sort
import ChangeOps.Lib.Sha2

/-!
# ChangeOps.Contracts — JSON documents and canonical digests

The JSON values of the wire contracts, the canonical text of a document
(`changeops_contracts/canonical.py`) and its namespaced SHA-256 digest.

`hashlib.sha256` is a parameter, `Sha256.hexdigest`: a function from the UTF-8 text to its
hexadecimal digest. What holds, holds for any such function; the examples take SHA-256 itself
(`Sha256.hashlib`). Numbers are the integers. A float, which the arguments and outputs of a step may
hold beside them, is left out.
-/

namespace ChangeOps

/-- A JSON document. Object fields are a list, in the order of the Python dictionary. -/
inductive Json where
  | null
  | bool (b : Bool)
  | int (n : Int)
  | str (s : String)
  | arr (items : List Json)
  | obj (fields : List (String × Json))

namespace Json

/-! ## Canonical text -/

/-- One character of a JSON string, as `json.dumps(..., ensure_ascii=False)` writes it. -/
def escapeChar (c : Char) : List Char :=
  if c = '"' then ['\\', '"']
  else if c = '\\' then ['\\', '\\']
  else if c = '\n' then ['\\', 'n']
  else if c = '\r' then ['\\', 'r']
  else if c = '\t' then ['\\', 't']
  else if c.toNat = 8 then ['\\', 'b']
  else if c.toNat = 12 then ['\\', 'f']
  else if c.toNat < 32 then
    ['\\', 'u', '0', '0', Nat.digitChar (c.toNat / 16), Nat.digitChar (c.toNat % 16)]
  else [c]

/-- A JSON string with its quotes. -/
def quote (s : String) : List Char := '"' :: s.toList.flatMap escapeChar ++ ['"']

/-- Items separated by commas, without blanks: `separators=(",", ":")`. -/
def commaSep : List (List Char) → List Char
  | [] => []
  | [t] => t
  | t :: rest => t ++ ',' :: commaSep rest

/-- One field of an object whose value is already text. -/
def renderField (field : String × List Char) : List Char := quote field.1 ++ ':' :: field.2

/-- The order of `sort_keys=True`. -/
def keyLe (a b : String × List Char) : Prop := a.1 ≤ b.1

instance : DecidableRel keyLe := fun a b => inferInstanceAs (Decidable (a.1 ≤ b.1))

mutual
/-- The canonical text of a document, as a list of characters. -/
def render : Json → List Char
  | .null => "null".toList
  | .bool true => "true".toList
  | .bool false => "false".toList
  | .int n => (toString n).toList
  | .str s => quote s
  | .arr items => '[' :: commaSep (renderItems items) ++ [']']
  | .obj fields =>
      '{' :: commaSep (((renderFields fields).insertionSort keyLe).map renderField) ++ ['}']
/-- The texts of the items of an array. -/
def renderItems : List Json → List (List Char)
  | [] => []
  | item :: rest => render item :: renderItems rest
/-- The texts of the field values of an object. -/
def renderFields : List (String × Json) → List (String × List Char)
  | [] => []
  | (key, value) :: rest => (key, render value) :: renderFields rest
end

/-! ## Values regardless of key order

A Python dictionary has an insertion order that neither `==`, nor a lookup, nor the
canonical text can see. Contract fields of type `dict[str, JsonValue]` are kept sorted, so
that equality of the Lean values is equality of the documents. -/

mutual
/-- Every object in the document has its keys in strictly increasing order. -/
def isSorted : Json → Bool
  | .arr items => isSortedItems items
  | .obj fields => isSortedFields fields
  | _ => true
/-- `isSorted` of each item. -/
def isSortedItems : List Json → Bool
  | [] => true
  | item :: rest => isSorted item && isSortedItems rest
/-- `isSorted` of each value, and the keys strictly increase. -/
def isSortedFields : List (String × Json) → Bool
  | [] => true
  | (key, value) :: rest =>
      isSorted value && (rest.head?.all fun next => decide (key < next.1)) && isSortedFields rest
end

mutual
/-- Python's `==` on sorted documents: as usual, and `True == 1`, `False == 0`. -/
def pyEq : Json → Json → Bool
  | .null, .null => true
  | .bool a, .bool b => a == b
  | .bool a, .int n => (if a then 1 else 0) == n
  | .int n, .bool b => n == (if b then 1 else 0)
  | .int m, .int n => m == n
  | .str a, .str b => a == b
  | .arr a, .arr b => pyEqItems a b
  | .obj a, .obj b => pyEqFields a b
  | _, _ => false
/-- `==` on lists. -/
def pyEqItems : List Json → List Json → Bool
  | [], [] => true
  | a :: as, b :: bs => pyEq a b && pyEqItems as bs
  | _, _ => false
/-- `==` on dictionaries with sorted keys. -/
def pyEqFields : List (String × Json) → List (String × Json) → Bool
  | [], [] => true
  | (k, a) :: as, (k', b) :: bs => k == k' && pyEq a b && pyEqFields as bs
  | _, _ => false
end

/-- A text or `null`. -/
def optStr : Option String → Json
  | none => .null
  | some s => .str s

/-- An array of texts. -/
def strs (l : List String) : Json := .arr (l.map .str)

end Json

/-- The canonical text of a document: recursively sorted keys, compact separators. -/
def canonicalJson (document : Json) : String := String.ofList document.render

/-- `dict[str, JsonValue]`: the fields of an object, kept sorted. -/
structure JsonObject where
  fields : List (String × Json)
  sorted : (Json.obj fields).isSorted = true

namespace JsonObject

/-- `d.get(key)`. -/
def get? (o : JsonObject) (key : String) : Option Json := o.fields.lookup key

def toJson (o : JsonObject) : Json := .obj o.fields

/-- Python's `==` on dictionaries. -/
def pyEq (a b : JsonObject) : Bool := a.toJson.pyEq b.toJson

end JsonObject

/-- `hashlib.sha256(text.encode("utf-8")).hexdigest()`. -/
class Sha256 where
  hexdigest : String → String

/-- SHA-256 itself. -/
abbrev Sha256.hashlib : Sha256 := ⟨Sha2.hexdigest⟩

/-- A namespaced SHA-256 digest of a canonical JSON document. -/
def sha256Digest [Sha256] (document : Json) : String :=
  "sha256:" ++ Sha256.hexdigest (canonicalJson document)

/-! ## Instants

An aware datetime is an instant, counted in microseconds from `datetime.min`; its JSON form
is the UTC text that pydantic writes. Datetimes end with year 9999 and instants do not: where a
token or an invitation adds to its clock, the sum is compared with `datetimeEnd`. The leases and
the windows of approvals are added to clocks that are far from both ends. -/

/-- Microseconds since `0001-01-01T00:00:00Z`. -/
abbrev Time := Nat

namespace Time

def seconds (n : Nat) : Time := n * 1000000

def minutes (n : Nat) : Time := seconds (n * 60)

end Time

/-- The first instant after `datetime.max`. -/
def datetimeEnd : Time := Time.seconds (62135596800 + 253402300800)

namespace Time

/-- There is such a datetime. Unfolded, the comparison counts to `datetimeEnd`. -/
@[irreducible] def isDatetime (t : Time) : Bool := decide (t < datetimeEnd)

theorem isDatetime_eq_true_iff {t : Time} : t.isDatetime = true ↔ t < datetimeEnd := by
  unfold isDatetime
  exact decide_eq_true_iff

theorem isDatetime_eq_false_iff {t : Time} : t.isDatetime = false ↔ datetimeEnd ≤ t := by
  rw [← Bool.not_eq_true, isDatetime_eq_true_iff, Nat.not_lt]

/-- A number in decimal, padded with zeros on the left. -/
def pad (width n : Nat) : String :=
  let digits := toString n
  String.ofList (List.replicate (width - digits.length) '0') ++ digits

/-- The civil date of a day, counted from `0001-01-01`. -/
def civil (day : Nat) : Nat × Nat × Nat :=
  let z := day + 306
  let era := z / 146097
  let doe := z % 146097
  let yoe := (doe - doe / 1460 + doe / 36524 - doe / 146096) / 365
  let doy := doe - (365 * yoe + yoe / 4 - yoe / 100)
  let mp := (5 * doy + 2) / 153
  let d := doy - (153 * mp + 2) / 5 + 1
  let m := if mp < 10 then mp + 3 else mp - 9
  (yoe + era * 400 + (if m ≤ 2 then 1 else 0), m, d)

/-- The JSON text of an instant. -/
def isoformat (t : Time) : String :=
  let (y, m, d) := civil (t / 86400000000)
  let s := t / 1000000 % 86400
  let us := t % 1000000
  pad 4 y ++ "-" ++ pad 2 m ++ "-" ++ pad 2 d ++ "T" ++ pad 2 (s / 3600) ++ ":" ++
    pad 2 (s / 60 % 60) ++ ":" ++ pad 2 (s % 60) ++
    (if us = 0 then "" else "." ++ pad 6 us) ++ "Z"

def toJson (t : Time) : Json := .str t.isoformat

end Time

end ChangeOps
