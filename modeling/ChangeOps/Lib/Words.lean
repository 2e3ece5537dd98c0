import Mathlib.Data.List.DropRight
import Mathlib.Data.List.Infix

/-!
# ChangeOps.Lib.Words — words and separators in a text

A text is a list over any alphabet. Its words are its longest runs without blanks; the rule for
the last word is the rule for the first one, read backwards. `rsplit` cuts a text at the last
place of a separator.
-/

namespace ChangeOps

namespace Words

variable {α : Type*}

/-! ## Words -/

/-- The first word of a text. -/
def firstWord? (blank : α → Bool) (text : List α) : Option (List α) :=
  match text.dropWhile blank with
  | [] => none
  | c :: rest => some (c :: rest.takeWhile fun d => !blank d)

/-- The last word of a text. -/
def lastWord? (blank : α → Bool) (text : List α) : Option (List α) :=
  (firstWord? blank text.reverse).map List.reverse

/-- A text without blanks, and not empty. -/
def IsWord (blank : α → Bool) (word : List α) : Prop := word ≠ [] ∧ ∀ c ∈ word, blank c = false

/-- Only blanks stand before the word, and a blank or nothing after it. -/
def FirstWord (blank : α → Bool) (text word : List α) : Prop :=
  IsWord blank word ∧ ∃ before after, text = before ++ (word ++ after) ∧
    (∀ c ∈ before, blank c = true) ∧ ∀ c ∈ after.head?, blank c = true

/-- Only blanks stand after the word, and a blank or nothing before it. -/
def LastWord (blank : α → Bool) (text word : List α) : Prop :=
  IsWord blank word ∧ ∃ before after, text = before ++ (word ++ after) ∧
    (∀ c ∈ after, blank c = true) ∧ ∀ c ∈ before.getLast?, blank c = true

theorem takeWhile_append_stop {p : α → Bool} {inside rest : List α}
    (hinside : ∀ c ∈ inside, p c = true) (hstop : ∀ c ∈ rest.head?, p c = false) :
    (inside ++ rest).takeWhile p = inside := by
  rw [List.takeWhile_append_of_pos hinside]
  cases rest with
  | nil => simp
  | cons c rest => simp [hstop c rfl]

theorem dropWhile_append_stop {p : α → Bool} {inside rest : List α}
    (hinside : ∀ c ∈ inside, p c = true) (hstop : ∀ c ∈ rest.head?, p c = false) :
    (inside ++ rest).dropWhile p = rest := by
  rw [List.dropWhile_append_of_pos hinside]
  cases rest with
  | nil => simp
  | cons c rest => simp [hstop c rfl]

theorem not_mem_head?_dropWhile {p : α → Bool} {text : List α} :
    ∀ c ∈ (text.dropWhile p).head?, p c = false := by
  intro c hc
  have hnot := List.head?_dropWhile_not p text
  rw [Option.mem_def.mp hc] at hnot
  simpa using hnot

theorem firstWord?_eq_some_iff {blank : α → Bool} {text word : List α} :
    firstWord? blank text = some word ↔ FirstWord blank text word := by
  unfold firstWord?
  constructor
  · intro h
    cases hdrop : text.dropWhile blank with
    | nil =>
      rw [hdrop] at h
      cases h
    | cons c rest =>
      rw [hdrop] at h
      cases h
      have hhead : c ∈ (text.dropWhile blank).head? := by
        rw [hdrop]
        rfl
      have hc : blank c = false := not_mem_head?_dropWhile c hhead
      refine ⟨⟨List.cons_ne_nil _ _, ?_⟩, text.takeWhile blank, rest.dropWhile fun d => !blank d,
        ?_, fun d hd => List.mem_takeWhile_imp hd, ?_⟩
      · intro d hd
        rcases List.mem_cons.mp hd with rfl | hd
        · exact hc
        · simpa using List.mem_takeWhile_imp hd
      · rw [List.cons_append, List.takeWhile_append_dropWhile, ← hdrop,
          List.takeWhile_append_dropWhile]
      · intro d hd
        simpa using not_mem_head?_dropWhile d hd
  · rintro ⟨⟨hne, hword⟩, before, after, rfl, hbefore, hafter⟩
    obtain ⟨c, rest, rfl⟩ := List.exists_cons_of_ne_nil hne
    have hdrop : (before ++ (c :: rest ++ after)).dropWhile blank = c :: (rest ++ after) :=
      dropWhile_append_stop hbefore fun d hd => by
        cases hd
        exact hword c List.mem_cons_self
    have htake : (rest ++ after).takeWhile (fun d => !blank d) = rest :=
      takeWhile_append_stop (fun d hd => by simpa using hword d (List.mem_cons_of_mem _ hd))
        fun d hd => by simpa using hafter d hd
    rw [hdrop]
    show some (c :: (rest ++ after).takeWhile fun d => !blank d) = some (c :: rest)
    rw [htake]

/-- Read backwards, the last word is the first one. -/
theorem lastWord_iff_reverse {blank : α → Bool} {text word : List α} :
    LastWord blank text word ↔ FirstWord blank text.reverse word.reverse := by
  have hword : IsWord blank word ↔ IsWord blank word.reverse := by simp [IsWord]
  constructor
  · rintro ⟨hw, before, after, rfl, hafter, hbefore⟩
    exact ⟨hword.mp hw, after.reverse, before.reverse, by simp, by simpa using hafter,
      by simpa [List.head?_reverse] using hbefore⟩
  · rintro ⟨hw, before, after, heq, hbefore, hafter⟩
    refine ⟨hword.mpr hw, after.reverse, before.reverse, ?_, by simpa using hbefore,
      by simpa [List.getLast?_reverse] using hafter⟩
    rw [← List.reverse_reverse text, heq]
    simp

theorem lastWord?_eq_some_iff {blank : α → Bool} {text word : List α} :
    lastWord? blank text = some word ↔ LastWord blank text word := by
  rw [lastWord_iff_reverse, ← firstWord?_eq_some_iff, lastWord?, Option.map_eq_some_iff]
  constructor
  · rintro ⟨reversed, h, rfl⟩
    rw [h, List.reverse_reverse]
  · intro h
    exact ⟨word.reverse, h, List.reverse_reverse word⟩

theorem FirstWord.isWord {blank : α → Bool} {text word : List α} (h : FirstWord blank text word) :
    IsWord blank word := h.1

theorem LastWord.isWord {blank : α → Bool} {text word : List α} (h : LastWord blank text word) :
    IsWord blank word := h.1

/-! ## Stripping -/

/-- A text without the characters of `p` at its two ends. -/
def strip (p : α → Bool) (text : List α) : List α := (text.dropWhile p).rdropWhile p

theorem mem_of_mem_strip {p : α → Bool} {text : List α} {c : α} (h : c ∈ strip p text) :
    c ∈ text :=
  (List.dropWhile_suffix p).subset ((List.rdropWhile_prefix p _).subset h)

/-- Where no character is of `p`, there is nothing to strip. -/
theorem strip_eq_self {p : α → Bool} {text : List α} (h : ∀ c ∈ text, p c = false) :
    strip p text = text := by
  have hdrop : text.dropWhile p = text := by
    cases text with
    | nil => rfl
    | cons c rest => simp [h c List.mem_cons_self]
  rw [strip, hdrop]
  refine List.rdropWhile_eq_self_iff.mpr fun hne => ?_
  simp [h _ (List.getLast_mem hne)]

/-! ## Separators -/

variable [DecidableEq α]

/-- A text, cut at the last place of a separator that is not empty. -/
def rsplit (separator : List α) : List α → Option (List α × List α)
  | [] => none
  | c :: rest =>
      match rsplit separator rest with
      | some (before, after) => some (c :: before, after)
      | none =>
          if separator <+: c :: rest then some ([], (c :: rest).drop separator.length) else none

theorem rsplit_cons_of_some {separator rest before after : List α}
    (h : rsplit separator rest = some (before, after)) (c : α) :
    rsplit separator (c :: rest) = some (c :: before, after) := by
  rw [rsplit, h]

theorem rsplit_cons_of_none {separator rest : List α} (h : rsplit separator rest = none) (c : α) :
    rsplit separator (c :: rest) =
      if separator <+: c :: rest then some ([], (c :: rest).drop separator.length) else none := by
  rw [rsplit, h]

theorem rsplit_eq_none_iff {separator : List α} (hne : separator ≠ []) {text : List α} :
    rsplit separator text = none ↔ ¬ separator <:+: text := by
  induction text with
  | nil => simp [rsplit, hne]
  | cons c rest ih =>
    rw [List.infix_cons_iff, not_or, ← ih]
    cases hrest : rsplit separator rest with
    | some parts =>
      rw [rsplit_cons_of_some hrest]
      simp
    | none =>
      rw [rsplit_cons_of_none hrest]
      by_cases hstands : separator <+: c :: rest
      · simp [hstands]
      · simp [hstands]

/-- A text is cut where the separator stands and does not begin again later. -/
theorem rsplit_eq_some_iff {separator : List α} (hne : separator ≠ [])
    {text before after : List α} :
    rsplit separator text = some (before, after) ↔
      text = before ++ (separator ++ after) ∧ ¬ separator <:+: (separator ++ after).tail := by
  induction text generalizing before with
  | nil => simp [rsplit, hne]
  | cons c rest ih =>
    cases hrest : rsplit separator rest with
    | some parts =>
      obtain ⟨front, back⟩ := parts
      rw [rsplit_cons_of_some hrest, Option.some.injEq, Prod.mk.injEq]
      cases before with
      | nil =>
        -- the separator stands in the rest once more
        constructor
        · rintro ⟨h, _⟩
          cases h
        · rintro ⟨heq, hlater⟩
          have htail : rest = (separator ++ after).tail := by
            rw [List.nil_append] at heq
            rw [← heq, List.tail_cons]
          rw [← htail, ← rsplit_eq_none_iff hne, hrest] at hlater
          cases hlater
      | cons d before =>
        rw [List.cons_append, List.cons.injEq, List.cons.injEq, and_assoc, and_assoc, eq_comm,
          ← ih, hrest, Option.some.injEq, Prod.mk.injEq]
    | none =>
      have hnone := (rsplit_eq_none_iff hne).mp hrest
      rw [rsplit_cons_of_none hrest]
      by_cases hstands : separator <+: c :: rest
      · rw [if_pos hstands, Option.some.injEq, Prod.mk.injEq]
        obtain ⟨back, hback⟩ := hstands
        rw [← hback, List.drop_left]
        constructor
        · rintro ⟨rfl, rfl⟩
          refine ⟨rfl, ?_⟩
          rw [hback]
          exact hnone
        · rintro ⟨heq, _⟩
          cases before with
          | nil => exact ⟨rfl, List.append_cancel_left heq⟩
          | cons d before =>
            have hrest' : rest = before ++ (separator ++ after) := by
              rw [heq] at hback
              exact (List.cons.inj hback).2.symm
            exact absurd ⟨before, after, by rw [hrest', List.append_assoc]⟩ hnone
      · rw [if_neg hstands]
        constructor
        · intro h
          cases h
        · rintro ⟨heq, _⟩
          cases before with
          | nil => exact absurd ⟨after, heq.symm⟩ hstands
          | cons d before =>
            have hrest' : rest = before ++ (separator ++ after) := (List.cons.inj heq).2
            exact absurd ⟨before, after, by rw [hrest', List.append_assoc]⟩ hnone

end Words

end ChangeOps
