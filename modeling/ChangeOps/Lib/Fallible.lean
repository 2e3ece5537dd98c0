import Mathlib.Logic.Basic

/-!
# ChangeOps.Lib.Fallible — computations that may fail

What a computation in `Except` says of its parts when it succeeds: a sequence of two of them, and
one for each item of a list.
-/

namespace ChangeOps

namespace Fallible

variable {ε α β : Type}

theorem bind_eq_ok_iff {x : Except ε α} {f : α → Except ε β} {b : β} :
    x >>= f = .ok b ↔ ∃ a, x = .ok a ∧ f a = .ok b := by
  cases x with
  | error e =>
    constructor
    · intro h
      cases h
    · rintro ⟨a, h, -⟩
      cases h
  | ok a =>
    constructor
    · intro h
      exact ⟨a, rfl, h⟩
    · rintro ⟨a', h, hf⟩
      cases h
      exact hf

theorem bind_eq_error_iff {x : Except ε α} {f : α → Except ε β} {e : ε} :
    x >>= f = .error e ↔ x = .error e ∨ ∃ a, x = .ok a ∧ f a = .error e := by
  cases x with
  | error e' =>
    constructor
    · intro h
      cases h
      exact .inl rfl
    · rintro (h | ⟨a, h, -⟩)
      · cases h
        rfl
      · cases h
  | ok a =>
    constructor
    · intro h
      exact .inr ⟨a, rfl, h⟩
    · rintro (h | ⟨a', h, hf⟩)
      · cases h
      · cases h
        exact hf

theorem map_eq_ok_iff {f : α → β} {x : Except ε α} {b : β} :
    x.map f = .ok b ↔ ∃ a, x = .ok a ∧ b = f a := by
  cases x with
  | ok a =>
    constructor
    · intro h
      cases h
      exact ⟨a, rfl, rfl⟩
    · rintro ⟨a', heq, rfl⟩
      cases heq
      rfl
  | error error =>
    constructor
    · intro h
      cases h
    · rintro ⟨a, heq, -⟩
      cases heq

/-- Every error of the computation is of this kind. -/
def Raises (p : ε → Prop) (x : Except ε α) : Prop := ∀ e, x = .error e → p e

theorem raises_ok {p : ε → Prop} {a : α} : Raises p (.ok a : Except ε α) := by
  intro e h
  cases h

theorem raises_error {p : ε → Prop} {e : ε} (he : p e) : Raises p (.error e : Except ε α) := by
  intro e' h
  cases h
  exact he

theorem Raises.bind_of {p : ε → Prop} {x : Except ε α} {f : α → Except ε β} (hx : Raises p x)
    (hf : ∀ a, x = .ok a → Raises p (f a)) : Raises p (x >>= f) := by
  intro e h
  rcases bind_eq_error_iff.mp h with h | ⟨a, ha, h⟩
  · exact hx e h
  · exact hf a ha e h

theorem Raises.bind {p : ε → Prop} {x : Except ε α} {f : α → Except ε β} (hx : Raises p x)
    (hf : ∀ a, Raises p (f a)) : Raises p (x >>= f) :=
  hx.bind_of fun a _ => hf a

theorem raises_map_iff {p : ε → Prop} {x : Except ε α} {f : α → β} :
    Raises p (x.map f) ↔ Raises p x := by
  cases x with
  | ok a => exact iff_of_true raises_ok raises_ok
  | error e => exact ⟨fun h => raises_error (h e rfl), fun h => raises_error (h e rfl)⟩

theorem raises_mapM {p : ε → Prop} {f : α → Except ε β} (hf : ∀ a, Raises p (f a)) :
    ∀ items : List α, Raises p (items.mapM f)
  | [] => raises_ok
  | a :: items => by
    rw [List.mapM_cons]
    apply (hf a).bind
    intro b
    apply (raises_mapM hf items).bind
    intro bs
    exact raises_ok

/-- The results are those of the items. -/
theorem mem_mapM_iff {f : α → Except ε β} {items : List α} {results : List β}
    (h : items.mapM f = .ok results) {b : β} : b ∈ results ↔ ∃ a ∈ items, f a = .ok b := by
  induction items generalizing results with
  | nil =>
    cases h
    simp
  | cons a items ih =>
    rw [List.mapM_cons, bind_eq_ok_iff] at h
    obtain ⟨first, hfirst, h⟩ := h
    obtain ⟨others, hothers, h⟩ := bind_eq_ok_iff.mp h
    cases h
    rw [List.mem_cons, ih hothers]
    constructor
    · rintro (rfl | ⟨a', hmem, ha'⟩)
      · exact ⟨a, List.mem_cons_self, hfirst⟩
      · exact ⟨a', List.mem_cons_of_mem a hmem, ha'⟩
    · rintro ⟨a', hmem, ha'⟩
      rcases List.mem_cons.mp hmem with rfl | hmem
      · rw [hfirst] at ha'
        cases ha'
        exact .inl rfl
      · exact .inr ⟨a', hmem, ha'⟩

theorem length_of_mapM {f : α → Except ε β} {items : List α} {results : List β}
    (h : items.mapM f = .ok results) : results.length = items.length := by
  induction items generalizing results with
  | nil =>
    cases h
    rfl
  | cons a items ih =>
    rw [List.mapM_cons, bind_eq_ok_iff] at h
    obtain ⟨first, -, h⟩ := h
    obtain ⟨others, hothers, h⟩ := bind_eq_ok_iff.mp h
    cases h
    rw [List.length_cons, List.length_cons, ih hothers]

theorem mapM_congr {f g : α → Except ε β} {items : List α} (h : ∀ a ∈ items, f a = g a) :
    items.mapM f = items.mapM g := by
  induction items with
  | nil => rfl
  | cons a items ih =>
    rw [List.forall_mem_cons] at h
    rw [List.mapM_cons, List.mapM_cons, h.1, ih h.2]

/-- Where all items have results, each of them has one. -/
theorem exists_of_mapM {f : α → Except ε β} {items : List α} {results : List β}
    (h : items.mapM f = .ok results) {a : α} (ha : a ∈ items) : ∃ b, f a = .ok b := by
  induction items generalizing results with
  | nil => cases ha
  | cons first items ih =>
    rw [List.mapM_cons, bind_eq_ok_iff] at h
    obtain ⟨result, hfirst, h⟩ := h
    obtain ⟨others, hothers, -⟩ := bind_eq_ok_iff.mp h
    rcases List.mem_cons.mp ha with rfl | ha
    · exact ⟨result, hfirst⟩
    · exact ih hothers ha

/-- Where each item has a result, all of them have. -/
theorem exists_mapM {f : α → Except ε β} {items : List α} (h : ∀ a ∈ items, ∃ b, f a = .ok b) :
    ∃ results, items.mapM f = .ok results := by
  induction items with
  | nil => exact ⟨[], rfl⟩
  | cons a items ih =>
    obtain ⟨b, hb⟩ := h a List.mem_cons_self
    obtain ⟨results, hresults⟩ := ih fun a' ha' => h a' (List.mem_cons_of_mem _ ha')
    refine ⟨b :: results, ?_⟩
    rw [List.mapM_cons, hb, hresults]
    rfl

/-- A check that all items pass unchanged. -/
theorem mapM_eq_self {f : α → Except ε α} {items : List α} (h : ∀ a ∈ items, f a = .ok a) :
    items.mapM f = .ok items := by
  induction items with
  | nil => rfl
  | cons a items ih =>
    rw [List.forall_mem_cons] at h
    rw [List.mapM_cons, h.1, ih h.2]
    rfl

end Fallible

end ChangeOps
