import ChangeOps.Lib.Cursor
import ChangeOps.Lib.Dict
import Mathlib.Order.Lattice
import Mathlib.Data.List.Perm.Basic

/-!
# ChangeOps.Lib — collections of named documents

A document database keeps documents at paths: the collection they are in and their name there.
Two operations matter here. `create` writes a document where none is yet. A query reads a
collection in the order of a field, documents with equal fields in the order of their names.

The order of a query decides between any two documents of a collection, so the answer depends on
what is stored and not on how: `query_eq` is the lemma that relates a collection to a list that is
kept and sorted elsewhere.
-/

namespace ChangeOps

/-! ## Writing -/

/-- Write a document at a path where none is stored. -/
def Dict.create {κ ν : Type} [DecidableEq κ] (d : Dict κ ν) (path : κ) (document : ν) :
    Option (Dict κ ν) :=
  if (d.get? path).isSome then none else some (d.set path document)

theorem Dict.create_of_none {κ ν : Type} [DecidableEq κ] {d : Dict κ ν} {path : κ}
    (document : ν) (h : d.get? path = none) : d.create path document = some (d.set path document) := by
  simp [Dict.create, h]

theorem Dict.create_eq_some {κ ν : Type} [DecidableEq κ] {d d' : Dict κ ν} {path : κ}
    {document : ν} (h : d.create path document = some d') :
    d.get? path = none ∧ d' = d.set path document := by
  unfold Dict.create at h
  split_ifs at h with hstored
  simp only [Option.not_isSome_iff_eq_none] at hstored
  exact ⟨hstored, (Option.some.inj h).symm⟩

namespace Documents

/-! ## A dictionary, spread over collections

A record that a dictionary holds under an owner and an id may be stored under a parent within the
owner, and again in an index of the owner. -/

section Spread

variable {ν ω : Type} {parent : ν → String} {document : ν → ω} {d : Dict (String × String) ν}

/-- Each record of the dictionary is stored under its own parent, and nothing else is stored. -/
def Partitions (parent : ν → String) (document : ν → ω) (d : Dict (String × String) ν)
    (copies : Dict ((String × String) × String) ω) : Prop :=
  ∀ owner place id, copies.get? ((owner, place), id) =
    ((d.get? (owner, id)).filter (parent · = place)).map document

/-- Each record of the dictionary is stored in the index of its owner. -/
def Indexes (document : ν → ω) (d : Dict (String × String) ν) (index : Dict (String × String) ω) :
    Prop :=
  ∀ key, index.get? key = (d.get? key).map document

variable {copies : Dict ((String × String) × String) ω} {index : Dict (String × String) ω}
  {owner id : String}

theorem Partitions.get?_of_some (h : Partitions parent document d copies) {record : ν}
    (hget : d.get? (owner, id) = some record) :
    copies.get? ((owner, parent record), id) = some (document record) := by
  rw [h, hget]
  simp [Option.filter]

theorem Partitions.get?_of_none (h : Partitions parent document d copies)
    (hget : d.get? (owner, id) = none) (place : String) :
    copies.get? ((owner, place), id) = none := by
  rw [h, hget]
  rfl

theorem Partitions.get?_of_ne (h : Partitions parent document d copies) {record : ν}
    (hget : d.get? (owner, id) = some record) {place : String} (hne : parent record ≠ place) :
    copies.get? ((owner, place), id) = none := by
  rw [h, hget]
  simp [Option.filter, hne]

/-- A record that is written under its parent, and had no other parent before. -/
theorem Partitions.set (h : Partitions parent document d copies) (record : ν)
    (hparent : ∀ old, d.get? (owner, id) = some old → parent old = parent record) :
    Partitions parent document (d.set (owner, id) record)
      (copies.set ((owner, parent record), id) (document record)) := by
  intro owner' place id'
  by_cases hkey : (owner', id') = (owner, id)
  · obtain ⟨rfl, rfl⟩ := Prod.mk.inj hkey
    rw [Dict.get?_set_self]
    by_cases hplace : place = parent record
    · rw [hplace, Dict.get?_set_self]
      simp [Option.filter]
    · have hother : ((owner', place), id') ≠ ((owner', parent record), id') := by
        intro heq
        exact hplace (Prod.mk.inj (Prod.mk.inj heq).1).2
      rw [Dict.get?_set_ne _ _ hother, h]
      -- under another place there was nothing, and there is nothing
      cases hget : d.get? (owner', id') with
      | none => simp [Option.filter, Ne.symm hplace]
      | some old =>
        simp [Option.filter, hparent old hget, Ne.symm hplace]
  · have hother : ((owner', place), id') ≠ ((owner, parent record), id) := by
      intro heq
      obtain ⟨hpath, hid⟩ := Prod.mk.inj heq
      exact hkey (Prod.ext (Prod.mk.inj hpath).1 hid)
    rw [Dict.get?_set_ne _ _ hkey, Dict.get?_set_ne _ _ hother, h]

theorem Indexes.set (h : Indexes document d index) (key : String × String) (record : ν) :
    Indexes document (d.set key record) (index.set key (document record)) := by
  intro key'
  rw [Dict.get?_set, Dict.get?_set, h]
  split_ifs
  · rfl
  · rfl

end Spread

variable {π ν τ : Type} [DecidableEq π]

/-! ## Reading -/

/-- The documents of a collection, each with its name. -/
def collection (d : Dict (π × String) ν) (parent : π) : List (String × ν) :=
  (d.entries.filter fun entry => entry.1.1 = parent).map fun entry => (entry.1.2, entry.2)

theorem mem_collection {d : Dict (π × String) ν} {parent : π} {name : String} {document : ν} :
    (name, document) ∈ collection d parent ↔ d.get? (parent, name) = some document := by
  simp only [collection, List.mem_map, List.mem_filter, decide_eq_true_eq, Prod.mk.injEq]
  constructor
  · rintro ⟨⟨⟨parent', name'⟩, document'⟩, ⟨hmem, rfl⟩, rfl, rfl⟩
    exact Dict.get?_of_mem hmem
  · intro h
    exact ⟨((parent, name), document), ⟨Dict.mem_of_get? h, rfl⟩, rfl, rfl⟩

/-- No two documents of a collection have one name. -/
theorem nodup_names (d : Dict (π × String) ν) (parent : π) :
    ((collection d parent).map Prod.fst).Nodup := by
  have hkeys : ((d.entries.filter fun entry => entry.1.1 = parent).map Prod.fst).Nodup :=
    d.nodup.sublist (List.filter_sublist.map _)
  have hnames := hkeys.map_on (f := Prod.snd) fun a ha b hb heq => by
    obtain ⟨entry, hentry, rfl⟩ := List.mem_map.mp ha
    obtain ⟨entry', hentry', rfl⟩ := List.mem_map.mp hb
    have hparent : entry.1.1 = parent := by simpa using (List.mem_filter.mp hentry).2
    have hparent' : entry'.1.1 = parent := by simpa using (List.mem_filter.mp hentry').2
    exact Prod.ext (hparent.trans hparent'.symm) heq
  simpa [collection, List.map_map, Function.comp_def] using hnames

/-! ## Queries -/

section Query

variable [LinearOrder τ] (field : ν → τ)

/-- The order of a query by a field: the names decide between equal fields. -/
def fieldLe (a b : String × ν) : Prop :=
  field a.2 < field b.2 ∨ (field a.2 = field b.2 ∧ a.1 ≤ b.1)

/-- The same downwards; the names are compared downwards too. -/
def fieldGe (a b : String × ν) : Prop := fieldLe field b a

instance : DecidableRel (fieldLe field) := fun a b =>
  inferInstanceAs (Decidable (field a.2 < field b.2 ∨ (field a.2 = field b.2 ∧ a.1 ≤ b.1)))

instance : DecidableRel (fieldGe field) := fun a b => inferInstanceAs (Decidable (fieldLe field b a))

/-- `order_by(field)`, and by the name. -/
def ascending (documents : List (String × ν)) : List (String × ν) :=
  documents.insertionSort (fieldLe field)

/-- `order_by(field, direction=DESCENDING)`. -/
def descending (documents : List (String × ν)) : List (String × ν) :=
  documents.insertionSort (fieldGe field)

/-- `start_after(cursor)`: the documents that the order puts after the cursor. -/
def startAfter (cursor : String × ν) (documents : List (String × ν)) : List (String × ν) :=
  documents.filter fun document => ¬ fieldLe field document cursor

/-! ### The order decides -/

variable {field}

theorem fieldLe_refl (a : String × ν) : fieldLe field a a := Or.inr ⟨rfl, String.le_refl _⟩

theorem fieldLe_trans {a b c : String × ν} (hab : fieldLe field a b) (hbc : fieldLe field b c) :
    fieldLe field a c := by
  rcases hab with hab | ⟨hab, hname⟩
  · rcases hbc with hbc | ⟨hbc, -⟩
    · exact Or.inl (lt_trans hab hbc)
    · exact Or.inl (hbc ▸ hab)
  · rcases hbc with hbc | ⟨hbc, hname'⟩
    · exact Or.inl (hab ▸ hbc)
    · exact Or.inr ⟨hab.trans hbc, String.le_trans hname hname'⟩

theorem fieldLe_total (a b : String × ν) : fieldLe field a b ∨ fieldLe field b a := by
  rcases lt_trichotomy (field a.2) (field b.2) with h | h | h
  · exact Or.inl (Or.inl h)
  · rcases String.le_total a.1 b.1 with hname | hname
    · exact Or.inl (Or.inr ⟨h, hname⟩)
    · exact Or.inr (Or.inr ⟨h.symm, hname⟩)
  · exact Or.inr (Or.inl h)

/-- Documents that neither order separates have one name. -/
theorem name_eq_of_fieldLe {a b : String × ν} (hab : fieldLe field a b) (hba : fieldLe field b a) :
    a.1 = b.1 := by
  rcases hab with hab | ⟨hab, hname⟩
  · rcases hba with hba | ⟨hba, -⟩
    · exact absurd (lt_trans hab hba) (lt_irrefl _)
    · exact absurd hab (hba ▸ lt_irrefl _)
  · rcases hba with hba | ⟨-, hname'⟩
    · exact absurd hba (hab ▸ lt_irrefl _)
    · exact String.le_antisymm hname hname'

instance : Std.Total (fieldLe field) := ⟨fieldLe_total⟩

instance : IsTrans (String × ν) (fieldLe field) := ⟨fun _ _ _ => fieldLe_trans⟩

instance : Std.Total (fieldGe field) := ⟨fun a b => fieldLe_total b a⟩

instance : IsTrans (String × ν) (fieldGe field) := ⟨fun _ _ _ hab hbc => fieldLe_trans hbc hab⟩

/-! ### A collection beside a list -/

/-- The documents of a collection are those of a list that has the same ones under their names. -/
theorem collection_perm {d : Dict (π × String) ν} {parent : π} {l : List (String × ν)}
    (hnodup : (l.map Prod.fst).Nodup)
    (hmem : ∀ name document, (name, document) ∈ l ↔ d.get? (parent, name) = some document) :
    (collection d parent).Perm l := by
  rw [List.perm_ext_iff_of_nodup (nodup_names d parent).of_map hnodup.of_map]
  rintro ⟨name, document⟩
  rw [mem_collection, hmem]

/-- An index holds the documents of the dictionary. -/
theorem collection_perm_of_indexes {ν ω : Type} {document : ν → ω} {d : Dict (String × String) ν}
    {index : Dict (String × String) ω} (h : Indexes document d index) (owner : String) :
    (collection index owner).Perm
      ((collection d owner).map fun entry => (entry.1, document entry.2)) := by
  apply collection_perm
  · rw [List.map_map]
    exact nodup_names d owner
  · intro name stored
    rw [h, List.mem_map]
    constructor
    · rintro ⟨⟨name', record⟩, hmem, heq⟩
      cases heq
      rw [mem_collection.mp hmem, Option.map_some]
    · intro hget
      obtain ⟨record, hrecord, rfl⟩ := Option.map_eq_some_iff.mp hget
      exact ⟨(name, record), mem_collection.mpr hrecord, rfl⟩

/-- **Queries.** A collection that holds the documents of a list, sorted as the list is sorted. -/
theorem query_eq {α : Type} (le : String × ν → String × ν → Prop) [DecidableRel le]
    [Std.Total le] [IsTrans (String × ν) le] (le' : α → α → Prop) [DecidableRel le']
    (hname : ∀ {a b : String × ν}, le a b → le b a → a.1 = b.1) (f : α → String × ν)
    {d : Dict (π × String) ν} {parent : π} {l : List α}
    (hle : ∀ a ∈ l, ∀ b ∈ l, le' a b ↔ le (f a) (f b)) (hperm : (collection d parent).Perm (l.map f)) :
    (collection d parent).insertionSort le = (l.insertionSort le').map f := by
  rw [List.map_insertionSort le' le f l hle]
  apply Cursor.insertionSort_eq_of_perm
  · intro a ha b hb hab hba
    exact List.inj_on_of_nodup_map (nodup_names d parent) ha hb (hname hab hba)
  · exact (List.perm_insertionSort le _).trans hperm.symm
  · exact List.pairwise_insertionSort le _

/-- Behind a cursor that the sorted list holds are the elements that the order puts after it. -/
theorem after_eq_startAfter (field : ν → τ) {l : List (String × ν)} {cursor : String × ν}
    (hnodup : (l.map Prod.fst).Nodup) (hcursor : cursor ∈ l) :
    Cursor.after Prod.fst (some cursor.1) (ascending field l) =
      some (startAfter field cursor (ascending field l)) := by
  have hsorted : (ascending field l).Pairwise (fieldLe field) :=
    List.pairwise_insertionSort (fieldLe field) l
  have hnames : ((ascending field l).map Prod.fst).Nodup :=
    (((List.perm_insertionSort (fieldLe field) l).map _).nodup_iff).mpr hnodup
  obtain ⟨read, rest, hsplit⟩ :=
    List.append_of_mem ((List.mem_insertionSort (fieldLe field)).mpr hcursor)
  change ascending field l = _ at hsplit
  rw [hsplit] at hsorted hnames ⊢
  have hread : read ++ cursor :: rest = (read ++ [cursor]) ++ rest := by simp
  have hafter : Cursor.after Prod.fst ((read ++ [cursor]).getLast?.map Prod.fst)
      ((read ++ [cursor]) ++ rest) = some rest := Cursor.after_of_append (hread ▸ hnames)
  rw [List.getLast?_append, List.getLast?_singleton, Option.some_or, Option.map_some] at hafter
  rw [hread, hafter]
  -- what stands before the cursor is below it, what stands behind it is not
  rw [List.pairwise_append, List.pairwise_cons] at hsorted
  obtain ⟨-, ⟨hbehind, -⟩, hbefore⟩ := hsorted
  have hrest : ∀ document ∈ rest, ¬ fieldLe field document cursor := by
    intro document hmem hle
    have hname := name_eq_of_fieldLe hle (hbehind document hmem)
    rw [List.map_append, List.map_cons, List.nodup_append, List.nodup_cons] at hnames
    exact hnames.2.1.1 (hname ▸ List.mem_map_of_mem hmem)
  unfold startAfter
  rw [List.filter_append, List.filter_append, List.filter_eq_nil_iff.mpr, List.filter_eq_nil_iff.mpr,
    List.filter_eq_self.mpr]
  · rfl
  · intro document hmem
    simpa using hrest document hmem
  · intro document hmem
    rw [List.mem_singleton] at hmem
    subst hmem
    simpa using fieldLe_refl document
  · intro document hmem
    simpa using hbefore document hmem cursor List.mem_cons_self

end Query

end Documents

end ChangeOps
