import Mathlib.Data.List.Sort
import Mathlib.Data.List.Nodup

/-!
# ChangeOps.Lib — paging through a sorted list by a cursor

A reader of a sorted list keeps the name of the last element it has read and asks for what
follows it. Two facts make this exact: the elements after the cursor are the ones not read yet
(`after_of_append`), and what has been read stays an initial part of the list as long as new
elements sort after it (`prefix_insertionSort_append`). The last section is about elements that are
added anywhere, and a reader that asks for a number of them at a time (`Reads`).
-/

namespace ChangeOps.Cursor

variable {α κ : Type} [DecidableEq κ]

/-- The elements after the first one with the name, or all of them; `none` if no element has it. -/
def after (name : α → κ) : Option κ → List α → Option (List α)
  | none, l => some l
  | some cursor, l => (l.findIdx? fun a => name a = cursor).map fun index => l.drop (index + 1)

/-- Paging through the images of a list. -/
theorem after_map {β : Type} (f : α → β) (name : β → κ) (cursor : Option κ) (l : List α) :
    after name cursor (l.map f) = (after (fun a => name (f a)) cursor l).map (List.map f) := by
  cases cursor with
  | none => rfl
  | some cursor =>
    simp only [after, List.findIdx?_map, Option.map_map]
    congr 1
    funext index
    exact List.map_drop.symm

/-- A cursor that no element has. -/
theorem after_eq_none {name : α → κ} {cursor : κ} {l : List α} (h : ∀ a ∈ l, name a ≠ cursor) :
    after name (some cursor) l = none := by
  have hindex : l.findIdx? (fun a => name a = cursor) = none := by
    rw [List.findIdx?_eq_none_iff]
    intro a hmem
    simpa using h a hmem
  simp [after, hindex]

/-- Where the names are unique, the last element read separates the read ones from the rest. -/
theorem after_of_append {name : α → κ} {read rest : List α}
    (hnodup : ((read ++ rest).map name).Nodup) :
    after name (read.getLast?.map name) (read ++ rest) = some rest := by
  rcases List.eq_nil_or_concat read with rfl | ⟨init, last, rfl⟩
  · rfl
  · rw [List.concat_eq_append] at hnodup ⊢
    -- no element of `init` has the name of `last`
    have hinit : init.findIdx? (fun a => name a = name last) = none := by
      rw [List.findIdx?_eq_none_iff]
      intro a hmem
      rw [List.append_assoc, List.map_append, List.nodup_append] at hnodup
      have hne := hnodup.2.2 (name a) (List.mem_map_of_mem hmem) (name last) (by simp)
      simpa using hne
    have hindex : (init ++ [last] ++ rest).findIdx? (fun a => name a = name last) =
        some init.length := by
      rw [List.append_assoc, List.findIdx?_append, hinit]
      simp [List.findIdx?_cons]
    rw [List.getLast?_append, List.getLast?_singleton, Option.some_or, Option.map_some]
    show ((init ++ [last] ++ rest).findIdx? fun a => name a = name last).map _ = some rest
    rw [hindex]
    simp

variable {le : α → α → Prop} [DecidableRel le] [Std.Total le] [IsTrans α le]

/-- Two sorted lists with the same elements are equal where the order decides between them. -/
theorem insertionSort_eq_of_perm {l l' : List α}
    (hantisymm : ∀ a ∈ l, ∀ b ∈ l, le a b → le b a → a = b) (hperm : l'.Perm l)
    (hsorted : l'.Pairwise le) : l.insertionSort le = l' := by
  have hperm' : (l.insertionSort le).Perm l' := (List.perm_insertionSort le l).trans hperm.symm
  refine hperm'.eq_of_pairwise ?_ (List.pairwise_insertionSort le l) hsorted
  intro a b ha hb
  exact hantisymm a ((List.mem_insertionSort le).mp ha) b (hperm.mem_iff.mp hb)

/-- What has been read stays an initial part when the new element sorts after it. -/
theorem prefix_insertionSort_append {l read : List α} {a : α}
    (hantisymm : ∀ b ∈ l ++ [a], ∀ c ∈ l ++ [a], le b c → le c b → b = c)
    (hread : read <+: l.insertionSort le) (hafter : ∀ b ∈ read, le b a) :
    read <+: (l ++ [a]).insertionSort le := by
  obtain ⟨rest, hrest⟩ := hread
  have hsorted : (read ++ rest).Pairwise le := by
    rw [hrest]
    exact List.pairwise_insertionSort le l
  rw [List.pairwise_append] at hsorted
  obtain ⟨hl, hr, hlr⟩ := hsorted
  have hperm : (read ++ rest.orderedInsert le a).Perm (l ++ [a]) := by
    have hinsert : (rest.orderedInsert le a).Perm (rest ++ [a]) :=
      (List.perm_orderedInsert le a rest).trans (List.perm_append_singleton a rest).symm
    have hold : (read ++ rest).Perm l := by
      rw [hrest]
      exact List.perm_insertionSort le l
    calc (read ++ rest.orderedInsert le a).Perm (read ++ (rest ++ [a])) := hinsert.append_left read
      _ = (read ++ rest) ++ [a] := (List.append_assoc _ _ _).symm
      List.Perm _ (l ++ [a]) := hold.append_right [a]
  have hnew : (read ++ rest.orderedInsert le a).Pairwise le := by
    rw [List.pairwise_append]
    refine ⟨hl, hr.orderedInsert a rest, ?_⟩
    intro b hb c hc
    rcases (List.mem_orderedInsert le).mp hc with rfl | hmem
    · exact hafter b hb
    · exact hlr b hb c hmem
  rw [insertionSort_eq_of_perm hantisymm hperm hnew]
  exact List.prefix_append read _

/-! ## Pages of a set that grows

A reader asks for the first `n` elements after the last one it has been given, and others add
elements meanwhile, before and after that place. -/

section Pages

variable {κ : Type} [LinearOrder κ] {n : Nat} {s : Set κ} {cursor : κ}

/-- The first `n` elements of a set after the cursor, in their order. -/
structure IsPage (n : Nat) (s : Set κ) (cursor : κ) (page : List κ) : Prop where
  sorted : page.Pairwise (· < ·)
  sound : ∀ k ∈ page, k ∈ s ∧ cursor < k
  length_le : page.length ≤ n
  first : ∀ k ∈ s, cursor < k → k ∈ page ∨ (page.length = n ∧ ∀ k' ∈ page, k' < k)

/-- The pages of a reader that follows the last element of each full page. -/
inductive Reads (n : Nat) : Set κ → κ → List (List κ) → Prop where
  | last {s : Set κ} {cursor : κ} {page : List κ} (hpage : IsPage n s cursor page)
      (hshort : page.length ≠ n) : Reads n s cursor [page]
  | next {s s' : Set κ} {cursor next : κ} {page : List κ} {pages : List (List κ)}
      (hpage : IsPage n s cursor page) (hnext : page.getLast? = some next) (hgrows : s ⊆ s')
      (hrest : Reads n s' next pages) : Reads n s cursor (page :: pages)

theorem isPage_take {l : List κ} (hsorted : l.Pairwise (· < ·))
    (hmem : ∀ k, k ∈ l ↔ k ∈ s ∧ cursor < k) : IsPage n s cursor (l.take n) where
  sorted := hsorted.sublist (List.take_sublist n l)
  sound k hk := (hmem k).mp (List.mem_of_mem_take hk)
  length_le := List.length_take_le n l
  first k hs hk := by
    have hl : k ∈ l.take n ++ l.drop n := by
      rw [List.take_append_drop]
      exact (hmem k).mpr ⟨hs, hk⟩
    rcases List.mem_append.mp hl with htaken | hdropped
    · exact Or.inl htaken
    · right
      have hlong : n < l.length := by
        by_contra hshort
        rw [List.drop_of_length_le (by omega)] at hdropped
        cases hdropped
      rw [← List.take_append_drop n l, List.pairwise_append] at hsorted
      exact ⟨by rw [List.length_take]; omega, fun k' hk' => hsorted.2.2 k' hk' k hdropped⟩

theorem Reads.after {pages : List (List κ)} (h : Reads n s cursor pages) :
    ∀ k ∈ pages.flatten, cursor < k := by
  induction h with
  | last hpage _ =>
    intro k hk
    rw [List.flatten_singleton] at hk
    exact (hpage.sound k hk).2
  | next hpage hnext _ _ ih =>
    intro k hk
    rw [List.flatten_cons, List.mem_append] at hk
    rcases hk with hk | hk
    · exact (hpage.sound k hk).2
    · exact (hpage.sound _ (List.mem_of_getLast? hnext)).2.trans (ih k hk)

/-- The elements come in their order, each at most once. -/
theorem Reads.sorted {pages : List (List κ)} (h : Reads n s cursor pages) :
    pages.flatten.Pairwise (· < ·) := by
  induction h with
  | last hpage _ =>
    rw [List.flatten_singleton]
    exact hpage.sorted
  | @next s s' cursor next page pages hpage hnext _ hrest ih =>
    rw [List.flatten_cons, List.pairwise_append]
    refine ⟨hpage.sorted, ih, fun k hk k' hk' => ?_⟩
    -- no element of a page is above its last one
    have hle : k ≤ next := by
      obtain ⟨init, rfl⟩ := List.getLast?_eq_some_iff.mp hnext
      rcases List.mem_append.mp hk with hinit | hlast
      · exact ((List.pairwise_append.mp hpage.sorted).2.2 k hinit next List.mem_cons_self).le
      · exact (List.mem_singleton.mp hlast).le
    exact hle.trans_lt (hrest.after k' hk')

/-- Whatever was there at the beginning is read. -/
theorem Reads.complete {pages : List (List κ)} (h : Reads n s cursor pages) {k : κ} (hs : k ∈ s)
    (hk : cursor < k) : k ∈ pages.flatten := by
  induction h with
  | last hpage hshort =>
    rw [List.flatten_singleton]
    rcases hpage.first k hs hk with hmem | ⟨hfull, -⟩
    · exact hmem
    · exact absurd hfull hshort
  | next hpage hnext hgrows _ ih =>
    rw [List.flatten_cons, List.mem_append]
    rcases hpage.first k hs hk with hmem | ⟨-, hbelow⟩
    · exact Or.inl hmem
    · exact Or.inr (ih (hgrows hs) (hbelow _ (List.mem_of_getLast? hnext)))

end Pages

end ChangeOps.Cursor
