import Mathlib.Data.List.Nodup

/-!
# ChangeOps.Lib — insertion-ordered dictionaries

A finite map that remembers the order in which its keys were first set: setting a key that
is present replaces the value where it stands, setting a new key appends it. The entries
carry their own well-formedness, so a dictionary never holds a key twice.
-/

namespace ChangeOps

/-- A dictionary: entries in insertion order, no key twice. -/
structure Dict (κ ν : Type) where
  entries : List (κ × ν)
  nodup : (entries.map Prod.fst).Nodup

namespace Dict

variable {κ ν : Type}

/-- The dictionary without entries. -/
def empty : Dict κ ν := ⟨[], List.nodup_nil⟩

instance : Inhabited (Dict κ ν) := ⟨empty⟩

variable [DecidableEq κ]

/-- The value of a key in a list of entries: the first one. -/
def find (k : κ) : List (κ × ν) → Option ν
  | [] => none
  | (k', v) :: rest => if k' = k then some v else find k rest

/-- Replace the value of a key where it stands, or append it. -/
def put (k : κ) (v : ν) : List (κ × ν) → List (κ × ν)
  | [] => [(k, v)]
  | (k', v') :: rest => if k' = k then (k, v) :: rest else (k', v') :: put k v rest

theorem mem_keys_put {k k' : κ} {v : ν} {l : List (κ × ν)} :
    k' ∈ (put k v l).map Prod.fst ↔ k' = k ∨ k' ∈ l.map Prod.fst := by
  induction l with
  | nil => simp [put]
  | cons e rest ih =>
    obtain ⟨k₁, v₁⟩ := e
    by_cases h : k₁ = k
    · simp [put, h]
    · simp only [put, h, if_false, List.map_cons, List.mem_cons, ih]
      tauto

theorem nodup_put {k : κ} {v : ν} {l : List (κ × ν)} (h : (l.map Prod.fst).Nodup) :
    ((put k v l).map Prod.fst).Nodup := by
  induction l with
  | nil => simp [put]
  | cons e rest ih =>
    obtain ⟨k₁, v₁⟩ := e
    rw [List.map_cons, List.nodup_cons] at h
    by_cases hk : k₁ = k
    · subst hk
      simpa [put] using h
    · simp only [put, hk, if_false, List.map_cons, List.nodup_cons]
      refine ⟨?_, ih h.2⟩
      rw [mem_keys_put]
      rintro (heq | hmem)
      · exact hk heq
      · exact h.1 hmem

theorem find_put_self {k : κ} {v : ν} {l : List (κ × ν)} : find k (put k v l) = some v := by
  induction l with
  | nil => simp [put, find]
  | cons e rest ih =>
    obtain ⟨k₁, v₁⟩ := e
    by_cases h : k₁ = k
    · simp [put, find, h]
    · simp [put, find, h, ih]

theorem find_put_ne {k k' : κ} {v : ν} {l : List (κ × ν)} (hne : k' ≠ k) :
    find k' (put k v l) = find k' l := by
  induction l with
  | nil => simp [put, find, hne.symm]
  | cons e rest ih =>
    obtain ⟨k₁, v₁⟩ := e
    by_cases h : k₁ = k
    · subst h
      simp [put, find, hne.symm]
    · simp [put, find, h, ih]

theorem put_of_find_none {k : κ} {v : ν} {l : List (κ × ν)} (h : find k l = none) :
    put k v l = l ++ [(k, v)] := by
  induction l with
  | nil => rfl
  | cons e rest ih =>
    obtain ⟨k₁, v₁⟩ := e
    rw [find] at h
    split_ifs at h with hk
    rw [put, if_neg hk, ih h]
    rfl

theorem find_of_mem {k : κ} {v : ν} {l : List (κ × ν)} (hnodup : (l.map Prod.fst).Nodup)
    (h : (k, v) ∈ l) : find k l = some v := by
  induction l with
  | nil => cases h
  | cons e rest ih =>
    obtain ⟨k₁, v₁⟩ := e
    rw [List.map_cons, List.nodup_cons] at hnodup
    rcases List.mem_cons.mp h with heq | hrest
    · cases heq
      simp [find]
    · have hne : k₁ ≠ k := by
        rintro rfl
        exact hnodup.1 (List.mem_map.mpr ⟨_, hrest, rfl⟩)
      simp [find, hne, ih hnodup.2 hrest]

theorem mem_of_find {k : κ} {v : ν} {l : List (κ × ν)} (h : find k l = some v) : (k, v) ∈ l := by
  induction l with
  | nil => cases h
  | cons e rest ih =>
    obtain ⟨k₁, v₁⟩ := e
    rw [find] at h
    split_ifs at h with hk
    · cases h
      rw [hk]
      exact List.mem_cons_self
    · exact List.mem_cons_of_mem _ (ih h)

/-- The value of a key. -/
def get? (d : Dict κ ν) (k : κ) : Option ν := find k d.entries

/-- Set the value of a key. -/
def set (d : Dict κ ν) (k : κ) (v : ν) : Dict κ ν := ⟨put k v d.entries, nodup_put d.nodup⟩

/-- The value of a key, or a default: `d.get(k, default)`. -/
def getD (d : Dict κ ν) (k : κ) (default : ν) : ν := (d.get? k).getD default

@[simp] theorem get?_empty (k : κ) : (empty : Dict κ ν).get? k = none := rfl

@[simp] theorem get?_set_self (d : Dict κ ν) (k : κ) (v : ν) : (d.set k v).get? k = some v :=
  find_put_self

theorem get?_set_ne (d : Dict κ ν) {k k' : κ} (v : ν) (h : k' ≠ k) :
    (d.set k v).get? k' = d.get? k' :=
  find_put_ne h

theorem get?_set (d : Dict κ ν) (k k' : κ) (v : ν) :
    (d.set k v).get? k' = if k' = k then some v else d.get? k' := by
  by_cases h : k' = k
  · subst h
    rw [if_pos rfl, get?_set_self]
  · rw [if_neg h, get?_set_ne d v h]

theorem getD_set (d : Dict κ ν) (k k' : κ) (v default : ν) :
    (d.set k v).getD k' default = if k' = k then v else d.getD k' default := by
  unfold getD
  rw [get?_set]
  split_ifs <;> rfl

theorem get?_of_mem {d : Dict κ ν} {k : κ} {v : ν} (h : (k, v) ∈ d.entries) : d.get? k = some v :=
  find_of_mem d.nodup h

/-- A new key is appended. -/
theorem entries_set_of_none {d : Dict κ ν} {k : κ} (v : ν) (h : d.get? k = none) :
    (d.set k v).entries = d.entries ++ [(k, v)] :=
  put_of_find_none h

theorem mem_of_get? {d : Dict κ ν} {k : κ} {v : ν} (h : d.get? k = some v) :
    (k, v) ∈ d.entries :=
  mem_of_find h

theorem put_put {k : κ} {v v' : ν} {l : List (κ × ν)} : put k v' (put k v l) = put k v' l := by
  induction l with
  | nil => simp [put]
  | cons e rest ih =>
    obtain ⟨k₁, v₁⟩ := e
    by_cases h : k₁ = k
    · simp [put, h]
    · simp [put, h, ih]

/-- The second value of a key replaces the first. -/
@[simp] theorem set_set (d : Dict κ ν) (k : κ) (v v' : ν) : (d.set k v).set k v' = d.set k v' := by
  unfold set
  simp only [put_put]

/-! ## Leaving entries out -/

/-- The entries whose keys pass a test: `{k: v for k, v in d.items() if keep(k)}`. -/
def filter (d : Dict κ ν) (keep : κ → Bool) : Dict κ ν :=
  ⟨d.entries.filter fun entry => keep entry.1, d.nodup.sublist (List.filter_sublist.map _)⟩

/-- Leave out a key: `d.pop(k, None)`. -/
def erase (d : Dict κ ν) (k : κ) : Dict κ ν := d.filter fun k' => decide (k' ≠ k)

theorem find_filter {keep : κ → Bool} {k : κ} {l : List (κ × ν)} :
    find k (l.filter fun entry => keep entry.1) = if keep k then find k l else none := by
  induction l with
  | nil => simp [find]
  | cons e rest ih =>
    obtain ⟨k₁, v₁⟩ := e
    rw [List.filter_cons]
    by_cases hk : k₁ = k
    · subst hk
      by_cases hkeep : keep k₁ = true
      · simp [hkeep, find]
      · simp [hkeep, ih]
    · by_cases hkeep : keep k₁ = true
      · simp [hkeep, find, hk, ih]
      · simp [hkeep, find, hk, ih]

theorem get?_filter (d : Dict κ ν) (keep : κ → Bool) (k : κ) :
    (d.filter keep).get? k = if keep k then d.get? k else none :=
  find_filter

theorem get?_erase (d : Dict κ ν) (k k' : κ) :
    (d.erase k).get? k' = if k' = k then none else d.get? k' := by
  rw [erase, get?_filter]
  by_cases h : k' = k
  · rw [if_pos h, if_neg (by simp [h])]
  · rw [if_neg h, if_pos (by simp [h])]

/-- Leaving a new key out again. -/
theorem erase_set_of_none {d : Dict κ ν} {k : κ} (v : ν) (h : d.get? k = none) :
    (d.set k v).erase k = d := by
  have hkeep : ∀ entry ∈ d.entries, decide (entry.1 ≠ k) = true := by
    intro entry hentry
    rw [decide_eq_true_eq]
    rintro rfl
    cases h.symm.trans (get?_of_mem hentry)
  have hentries : ((d.set k v).erase k).entries = d.entries := by
    show (d.set k v).entries.filter (fun entry => decide (entry.1 ≠ k)) = d.entries
    rw [entries_set_of_none v h, List.filter_append, List.filter_eq_self.mpr hkeep]
    simp
  generalize (d.set k v).erase k = d' at hentries
  cases d'
  cases d
  cases hentries
  rfl

theorem getD_erase (d : Dict κ ν) (k k' : κ) (default : ν) :
    (d.erase k).getD k' default = if k' = k then default else d.getD k' default := by
  unfold getD
  rw [get?_erase]
  split_ifs <;> rfl

theorem get?_erase_all (d : Dict κ ν) (keys : List κ) (k : κ) :
    (keys.foldl erase d).get? k = if k ∈ keys then none else d.get? k := by
  induction keys generalizing d with
  | nil => simp
  | cons key rest ih =>
    rw [List.foldl_cons, ih, get?_erase]
    by_cases hrest : k ∈ rest
    · simp [hrest]
    · by_cases hkey : k = key
      · simp [hkey]
      · simp [hrest, hkey]

end Dict

end ChangeOps
