import Mathlib.Data.List.Sort

/-!
# ChangeOps.Lib — association lists with distinct keys

An association list in which no key stands twice is determined, up to the order of its
entries, by the partial function `List.lookup` (`perm_iff_lookup`); sorting it by key, along
any total order of the keys, forgets exactly that order (`insertionSort_eq_iff_lookup`).
-/

namespace ChangeOps

namespace Assoc

variable {κ ν μ : Type}

section Lookup

variable [DecidableEq κ]

theorem lookup_map (f : ν → μ) (l : List (κ × ν)) (k : κ) :
    (l.map fun e => (e.1, f e.2)).lookup k = (l.lookup k).map f := by
  induction l with
  | nil => rfl
  | cons e rest ih =>
    rw [List.map_cons, List.lookup_cons, List.lookup_cons, ih]
    cases k == e.1 <;> rfl

theorem lookup_eq_some_iff_mem {l : List (κ × ν)} (hnodup : (l.map Prod.fst).Nodup) {k : κ}
    {v : ν} : l.lookup k = some v ↔ (k, v) ∈ l := by
  induction l with
  | nil => simp
  | cons e rest ih =>
    rw [List.map_cons, List.nodup_cons] at hnodup
    rw [List.lookup_cons, List.mem_cons]
    by_cases hk : k = e.1
    · subst hk
      -- no later entry has the key of the first one
      have hnot : (e.1, v) ∉ rest := fun hmem => hnodup.1 (List.mem_map.mpr ⟨_, hmem, rfl⟩)
      simp [hnot, Prod.ext_iff, eq_comm]
    · have hne : (k, v) ≠ e := fun heq => hk (congrArg Prod.fst heq)
      have hbeq : (k == e.1) = false := beq_eq_false_iff_ne.mpr hk
      simp only [hbeq, hne, false_or]
      exact ih hnodup.2

variable {l l' : List (κ × ν)}

theorem perm_iff_lookup (hl : (l.map Prod.fst).Nodup) (hl' : (l'.map Prod.fst).Nodup) :
    l.Perm l' ↔ ∀ k, l.lookup k = l'.lookup k := by
  rw [List.perm_ext_iff_of_nodup hl.of_map hl'.of_map]
  constructor
  · intro hmem k
    ext v
    rw [lookup_eq_some_iff_mem hl, lookup_eq_some_iff_mem hl', hmem]
  · rintro hlookup ⟨k, v⟩
    rw [← lookup_eq_some_iff_mem hl, ← lookup_eq_some_iff_mem hl', hlookup]

end Lookup

section Sorting

variable (le : κ → κ → Prop) [DecidableRel le]

/-- Sorting along the keys. -/
def byKey (a b : κ × ν) : Prop := le a.1 b.1

instance : DecidableRel (byKey le : κ × ν → κ × ν → Prop) :=
  fun a b => inferInstanceAs (Decidable (le a.1 b.1))

instance [Std.Total le] : Std.Total (byKey le : κ × ν → κ × ν → Prop) :=
  ⟨fun a b => Std.Total.total a.1 b.1⟩

instance [IsTrans κ le] : IsTrans (κ × ν) (byKey le) :=
  ⟨fun a b c => trans_of le (a := a.1) (b := b.1) (c := c.1)⟩

variable {le} [Std.Total le] [IsTrans κ le] [Std.Antisymm le] {l l' : List (κ × ν)}

theorem insertionSort_eq_iff_perm (hl : (l.map Prod.fst).Nodup) :
    l.insertionSort (byKey le) = l'.insertionSort (byKey le) ↔ l.Perm l' := by
  have hsort := List.perm_insertionSort (byKey le : κ × ν → κ × ν → Prop)
  constructor
  · intro h
    exact (hsort l).symm.trans ((List.Perm.of_eq h).trans (hsort l'))
  · intro hperm
    have hsorted := List.pairwise_insertionSort (byKey le : κ × ν → κ × ν → Prop)
    refine List.Perm.eq_of_pairwise ?_ (hsorted l) (hsorted l')
      ((hsort l).trans (hperm.trans (hsort l').symm))
    -- entries that are below each other have one key, hence are one entry
    intro a b ha hb hab hba
    have ha : a ∈ l := (hsort l).mem_iff.mp ha
    have hb : b ∈ l := hperm.mem_iff.mpr ((hsort l').mem_iff.mp hb)
    exact List.inj_on_of_nodup_map hl ha hb (Std.Antisymm.antisymm _ _ hab hba)

theorem insertionSort_eq_iff_lookup [DecidableEq κ] (hl : (l.map Prod.fst).Nodup)
    (hl' : (l'.map Prod.fst).Nodup) :
    l.insertionSort (byKey le) = l'.insertionSort (byKey le) ↔ ∀ k, l.lookup k = l'.lookup k :=
  (insertionSort_eq_iff_perm hl).trans (perm_iff_lookup hl hl')

/-- Lists with the same keys in the same places are equal as soon as they are permutations. -/
theorem eq_of_perm (hkeys : l.map Prod.fst = l'.map Prod.fst) (hl : (l.map Prod.fst).Nodup)
    (hperm : l.Perm l') : l = l' := by
  refine List.ext_getElem (by simpa using congrArg List.length hkeys) fun i hi hi' => ?_
  -- the entry of `l` with this key is the only one there
  have hmem : l'[i] ∈ l := hperm.symm.subset (List.getElem_mem hi')
  have hkey : l[i].1 = l'[i].1 := by
    have := congrArg (fun keys => keys[i]?) hkeys
    simpa [hi, hi'] using this
  exact List.inj_on_of_nodup_map hl (List.getElem_mem hi) hmem hkey

/-- Two orders sort a list the same way if and only if they agree on its keys. -/
theorem insertionSort_eq_iff_agree {le' : κ → κ → Prop} [DecidableRel le'] [Std.Total le']
    [IsTrans κ le'] [Std.Antisymm le'] (hkeys : l.map Prod.fst = l'.map Prod.fst)
    (hl : (l.map Prod.fst).Nodup) :
    l.insertionSort (byKey le) = l'.insertionSort (byKey le') ↔
      l = l' ∧ ∀ a ∈ l, ∀ b ∈ l, le a.1 b.1 ↔ le' a.1 b.1 := by
  constructor
  · intro h
    have hperm : l.Perm l' :=
      (List.perm_insertionSort (byKey le) l).symm.trans
        ((List.Perm.of_eq h).trans (List.perm_insertionSort (byKey le') l'))
    have hsorted := List.pairwise_insertionSort (byKey le) l
    have hsorted' := List.pairwise_insertionSort (byKey le') l'
    rw [← h] at hsorted'
    have hne : (l.insertionSort (byKey le)).Pairwise fun a b => a.1 ≠ b.1 :=
      List.pairwise_map.mp
        (((List.perm_insertionSort (byKey le) l).map Prod.fst).nodup_iff.mpr hl)
    -- of two entries, the one that stands first is the smaller one in both orders
    have hbefore : (l.insertionSort (byKey le)).Pairwise fun a b => le a.1 b.1 ↔ le' a.1 b.1 :=
      (hsorted.and hsorted').imp fun hab => iff_of_true hab.1 hab.2
    have hafter : (l.insertionSort (byKey le)).Pairwise fun a b => le b.1 a.1 ↔ le' b.1 a.1 := by
      refine ((hsorted.and hsorted').and hne).imp ?_
      rintro a b ⟨⟨hab, hab'⟩, hne⟩
      exact iff_of_false (fun hba => hne (Std.Antisymm.antisymm _ _ hab hba))
        fun hba => hne (Std.Antisymm.antisymm _ _ hab' hba)
    refine ⟨eq_of_perm hkeys hl hperm, fun a ha b hb => ?_⟩
    refine List.Pairwise.forall_of_forall_of_flip ?_ hbefore hafter
      ((List.mem_insertionSort _).mpr ha) ((List.mem_insertionSort _).mpr hb)
    exact fun e _ => iff_of_true (refl_of le e.1) (refl_of le' e.1)
  · rintro ⟨rfl, hagree⟩
    have hmap := List.map_insertionSort (r := byKey le) (s := byKey le') id l hagree
    simpa using hmap

end Sorting

end Assoc

end ChangeOps
