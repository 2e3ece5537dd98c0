import Mathlib.Data.List.Infix
import Mathlib.Order.Defs.LinearOrder

/-!
# ChangeOps.Lib — shell patterns

Python's `fnmatch.fnmatchcase`: `translate` reads a pattern into items and `matchItems` matches
a text against them. `*` matches any text, `?` any character, `[...]` one character of a set;
a `[` that no later `]` closes stands for itself, and a `]` right after the opening bracket (or
after `[!`) belongs to the set. A range whose ends are out of order is empty.

The second half answers when a text that is pasted into a pattern is taken literally:
`prefixPattern_iff`.
-/

namespace ChangeOps

namespace Fnmatch

/-- One item of a pattern. -/
inductive Item where
  | star
  | any
  | set (negated : Bool) (ranges : List (Char × Char))
  | lit (c : Char)

/-- An item other than `*` matches one character. -/
def Item.accepts : Item → Char → Bool
  | .star, _ => false
  | .any, _ => true
  | .set negated ranges, c => (ranges.any fun range => range.1 ≤ c && c ≤ range.2) != negated
  | .lit d, c => c == d

/-- The ranges of a set; a `-` between two characters makes a range. -/
def classRanges : List Char → List (Char × Char)
  | a :: '-' :: b :: rest => (a, b) :: classRanges rest
  | a :: rest => (a, a) :: classRanges rest
  | [] => []

/-- What stands before the first `]`. -/
def untilBracket : List Char → Option (List Char)
  | [] => none
  | c :: rest => if c = ']' then some [] else (untilBracket rest).map (c :: ·)

/-- The body of a set, with a `]` at its very beginning taken as a member. -/
def classBody : List Char → Option (List Char)
  | ']' :: rest => (untilBracket rest).map (']' :: ·)
  | rest => untilBracket rest

/-- The set that a `[` before the given text opens: negated or not, and its body. -/
def openClass : List Char → Option (Bool × List Char)
  | '!' :: rest => (classBody rest).map fun body => (true, body)
  | rest => (classBody rest).map fun body => (false, body)

/-- The characters of a set after its `[`. -/
def classLength (negated : Bool) (body : List Char) : Nat :=
  (if negated then 1 else 0) + body.length + 1

/-- The items of a pattern; `skip` characters of a set are already read. -/
def translate (skip : Nat) : List Char → List Item
  | [] => []
  | c :: rest =>
      match skip with
      | n + 1 => translate n rest
      | 0 =>
          if c = '*' then .star :: translate 0 rest
          else if c = '?' then .any :: translate 0 rest
          else if c = '[' then
            match openClass rest with
            | some (negated, body) =>
                .set negated (classRanges body) :: translate (classLength negated body) rest
            | none => .lit c :: translate 0 rest
          else .lit c :: translate 0 rest

/-- Match a whole text. -/
def matchItems : List Item → List Char → Bool
  | [], text => text.isEmpty
  | .star :: items, text => text.tails.any fun rest => matchItems items rest
  | _ :: _, [] => false
  | item :: items, c :: text => item.accepts c && matchItems items text

/-- `fnmatchcase(name, pattern)`. -/
def fnmatchcase (name pattern : String) : Bool :=
  matchItems (translate 0 pattern.toList) name.toList

/-- No character of the pattern has a meaning of its own. -/
def isLiteral : List Char → Bool
  | [] => true
  | c :: rest =>
      c != '*' && c != '?' && !(c == '[' && (openClass rest).isSome) && isLiteral rest

/-! ## Matching -/

@[simp] theorem matchItems_lit_cons (d : Char) (items : List Item) (c : Char) (text : List Char) :
    matchItems (.lit d :: items) (c :: text) = (c == d && matchItems items text) := rfl

/-- Literal items match their own text. -/
theorem matchItems_lits (cs : List Char) (items : List Item) (text : List Char) :
    matchItems (cs.map .lit ++ items) text = true ↔
      ∃ rest, text = cs ++ rest ∧ matchItems items rest = true := by
  induction cs generalizing text with
  | nil => simp
  | cons c cs ih =>
    cases text with
    | nil => simp [matchItems]
    | cons d text =>
      simp only [List.map_cons, List.cons_append, matchItems_lit_cons, Bool.and_eq_true, beq_iff_eq,
        ih, List.cons.injEq]
      constructor
      · rintro ⟨rfl, rest, rfl, hrest⟩
        exact ⟨rest, ⟨rfl, rfl⟩, hrest⟩
      · rintro ⟨rest, ⟨rfl, rfl⟩, hrest⟩
        exact ⟨rfl, rest, rfl, hrest⟩

/-- A star at the end matches whatever is left. -/
theorem matchItems_star (text : List Char) : matchItems [.star] text = true := by
  simp only [matchItems, List.any_eq_true, List.mem_tails]
  exact ⟨[], List.nil_suffix, rfl⟩

/-- The items of a pattern, each with a text that it matches. -/
inductive Sample : List Item → List Char → Prop where
  | nil : Sample [] []
  | star {items : List Item} {text : List Char} (rest : Sample items text) :
      Sample (.star :: items) text
  | char {item : Item} {items : List Item} {c : Char} {text : List Char}
      (h : item.accepts c = true) (rest : Sample items text) : Sample (item :: items) (c :: text)

theorem Sample.matchItems {items items' : List Item} {text text' : List Char}
    (h : Sample items text) (h' : Fnmatch.matchItems items' text' = true) :
    Fnmatch.matchItems (items ++ items') (text ++ text') = true := by
  induction h with
  | nil => exact h'
  | star _ ih =>
    rw [List.cons_append, Fnmatch.matchItems, List.any_eq_true]
    exact ⟨_, (List.mem_tails _ _).mpr List.suffix_rfl, ih⟩
  | @char item items c text h _ ih =>
    cases item with
    | star => cases h
    | _ =>
      rw [List.cons_append, List.cons_append, Fnmatch.matchItems, h, ih]
      · rfl
      · simp

/-- An item that nothing matches. -/
def Item.Impossible (item : Item) : Prop := item ≠ .star ∧ ∀ c, item.accepts c = false

/-- A pattern with an impossible item matches nothing. -/
theorem matchItems_of_impossible {items : List Item} {item : Item} (hmem : item ∈ items)
    (himpossible : item.Impossible) (text : List Char) : matchItems items text = false := by
  induction items generalizing text with
  | nil => cases hmem
  | cons first items ih =>
    rcases List.mem_cons.mp hmem with rfl | hmem
    · cases text with
      | nil =>
        cases item with
        | star => exact absurd rfl himpossible.1
        | _ => rfl
      | cons c text =>
        have hc := himpossible.2 c
        cases item with
        | star => exact absurd rfl himpossible.1
        | _ => simp [matchItems, hc]
    · have hrest := ih hmem
      cases first with
      | star => simp [matchItems, hrest]
      | _ => cases text <;> simp [matchItems, hrest]

/-! ## Reading a pattern -/

section Append

variable {tail : List Char}

theorem untilBracket_of_not_mem (htail : ']' ∉ tail) : untilBracket tail = none := by
  induction tail with
  | nil => rfl
  | cons c tail ih =>
    rw [List.mem_cons, not_or] at htail
    rw [untilBracket, if_neg (Ne.symm htail.1), ih htail.2]
    rfl

theorem untilBracket_append (htail : ']' ∉ tail) (cs : List Char) :
    untilBracket (cs ++ tail) = untilBracket cs := by
  induction cs with
  | nil => exact untilBracket_of_not_mem htail
  | cons c cs ih => rw [List.cons_append, untilBracket, untilBracket, ih]

theorem classBody_eq (cs : List Char) :
    classBody cs = if cs.head? = some ']' then (untilBracket cs.tail).map (']' :: ·)
      else untilBracket cs := by
  unfold classBody
  split
  · simp
  · next hne =>
    cases cs with
    | nil => rfl
    | cons c cs =>
      have hc : c ≠ ']' := fun heq => hne cs (by rw [heq])
      simp [hc]

theorem classBody_append (htail : ']' ∉ tail) (cs : List Char) :
    classBody (cs ++ tail) = classBody cs := by
  cases cs with
  | nil =>
    have hhead : tail.head? ≠ some ']' := fun heq => htail (List.mem_of_mem_head? heq)
    rw [classBody_eq, List.nil_append, if_neg hhead, untilBracket_of_not_mem htail]
    rfl
  | cons c cs =>
    rw [classBody_eq, classBody_eq, List.cons_append, List.head?_cons, List.head?_cons,
      List.tail_cons, List.tail_cons, untilBracket_append htail, ← List.cons_append,
      untilBracket_append htail]

theorem openClass_eq (cs : List Char) :
    openClass cs = if cs.head? = some '!' then (classBody cs.tail).map fun body => (true, body)
      else (classBody cs).map fun body => (false, body) := by
  unfold openClass
  split
  · simp
  · next hne =>
    cases cs with
    | nil => rfl
    | cons c cs =>
      have hc : c ≠ '!' := fun heq => hne cs (by rw [heq])
      simp [hc]

theorem openClass_append (htail : ']' ∉ tail) (cs : List Char) :
    openClass (cs ++ tail) = openClass cs := by
  have hnone : ∀ l : List Char, ']' ∉ l → classBody l = none :=
    fun l hl => classBody_append hl []
  cases cs with
  | nil =>
    rw [openClass_eq, List.nil_append, hnone tail htail,
      hnone tail.tail fun hmem => htail (List.mem_of_mem_tail hmem)]
    split_ifs <;> rfl
  | cons c cs =>
    rw [openClass_eq, openClass_eq, List.cons_append, List.head?_cons, List.head?_cons,
      List.tail_cons, List.tail_cons, classBody_append htail, ← List.cons_append,
      classBody_append htail]

end Append

theorem length_untilBracket {cs body : List Char} (h : untilBracket cs = some body) :
    body.length + 1 ≤ cs.length := by
  induction cs generalizing body with
  | nil => cases h
  | cons c cs ih =>
    rw [untilBracket] at h
    split_ifs at h with hc
    · cases h
      simp
    · obtain ⟨rest, hrest, rfl⟩ := Option.map_eq_some_iff.mp h
      simpa using ih hrest

theorem length_classBody {cs body : List Char} (h : classBody cs = some body) :
    body.length + 1 ≤ cs.length := by
  rw [classBody_eq] at h
  split_ifs at h with hhead
  · obtain ⟨rest, hrest, rfl⟩ := Option.map_eq_some_iff.mp h
    have hlength := length_untilBracket hrest
    have htail : cs.tail.length + 1 = cs.length := by
      cases cs with
      | nil => cases hhead
      | cons c cs => simp
    simp only [List.length_cons]
    omega
  · exact length_untilBracket h

/-- The characters of a set are there. -/
theorem classLength_le {cs body : List Char} {negated : Bool}
    (h : openClass cs = some (negated, body)) : classLength negated body ≤ cs.length := by
  rw [openClass_eq] at h
  unfold classLength
  split_ifs at h with hhead
  · obtain ⟨rest, hrest, heq⟩ := Option.map_eq_some_iff.mp h
    cases heq
    have hlength := length_classBody hrest
    have htail : cs.tail.length + 1 = cs.length := by
      cases cs with
      | nil => cases hhead
      | cons c cs => simp
    simp only [if_true]
    omega
  · obtain ⟨rest, hrest, heq⟩ := Option.map_eq_some_iff.mp h
    cases heq
    have hlength := length_classBody hrest
    simp only [Bool.false_eq_true, if_false]
    omega

/-- A tail without `]` is read on its own. -/
theorem translate_append {tail : List Char} (htail : ']' ∉ tail) {cs : List Char} {skip : Nat}
    (hskip : skip ≤ cs.length) :
    translate skip (cs ++ tail) = translate skip cs ++ translate 0 tail := by
  induction cs generalizing skip with
  | nil =>
    obtain rfl : skip = 0 := Nat.le_zero.mp hskip
    rfl
  | cons c cs ih =>
    cases skip with
    | succ n => exact ih (Nat.le_of_succ_le_succ hskip)
    | zero =>
      have hrest := ih (Nat.zero_le _)
      rw [List.cons_append, translate, translate, openClass_append htail]
      split_ifs with hstar hany hopen
      · rw [hrest, List.cons_append]
      · rw [hrest, List.cons_append]
      · cases hclass : openClass cs with
        | none => simp only [hrest, List.cons_append]
        | some found =>
          obtain ⟨negated, body⟩ := found
          simp only [ih (classLength_le hclass), List.cons_append]
      · rw [hrest, List.cons_append]

/-- No character of the text has a meaning in any pattern. -/
def Plain (cs : List Char) : Prop := ∀ c ∈ cs, c ≠ '*' ∧ c ≠ '?' ∧ c ≠ '[' ∧ c ≠ ']'

theorem Plain.not_mem_bracket {cs : List Char} (h : Plain cs) : ']' ∉ cs :=
  fun hmem => (h _ hmem).2.2.2 rfl

theorem translate_plain {cs : List Char} (h : Plain cs) (rest : List Char) :
    translate 0 (cs ++ rest) = cs.map .lit ++ translate 0 rest := by
  induction cs with
  | nil => rfl
  | cons c cs ih =>
    obtain ⟨⟨hstar, hany, hopen, -⟩, hcs⟩ := List.forall_mem_cons.mp h
    rw [List.cons_append, translate]
    simp only [hstar, hany, hopen, if_false, ih hcs, List.map_cons, List.cons_append]

theorem translate_of_isLiteral {cs : List Char} (h : isLiteral cs = true) :
    translate 0 cs = cs.map .lit := by
  induction cs with
  | nil => rfl
  | cons c cs ih =>
    simp only [isLiteral, Bool.and_eq_true, bne_iff_ne, ne_eq, Bool.not_eq_true',
      Bool.and_eq_false_iff, beq_eq_false_iff_ne] at h
    obtain ⟨⟨⟨hstar, hany⟩, hopen⟩, hcs⟩ := h
    rw [translate]
    simp only [hstar, hany, if_false, ih hcs, List.map_cons]
    split_ifs with hc
    · have hnone : openClass cs = none :=
        hopen.elim (fun hne => absurd hc hne) fun hsome => by simpa using hsome
      rw [hnone]
    · rfl

/-! ## Literal patterns -/

/-- Every pattern has an impossible item, or matches a text that is no longer than itself and
is the pattern only when the pattern is literal. -/
theorem exists_sample (cs : List Char) {skip : Nat} (hskip : skip ≤ cs.length) :
    (∃ item ∈ translate skip cs, item.Impossible) ∨
      ∃ text, Sample (translate skip cs) text ∧ text.length + skip ≤ cs.length ∧
        (text = cs → isLiteral cs = true) := by
  induction cs generalizing skip with
  | nil =>
    obtain rfl : skip = 0 := Nat.le_zero.mp hskip
    exact .inr ⟨[], .nil, Nat.le_refl _, fun _ => rfl⟩
  | cons c cs ih =>
    -- a text that is too short is not the pattern
    have hshort : ∀ {text : List Char}, text.length < (c :: cs).length →
        (text = c :: cs → isLiteral (c :: cs) = true) :=
      fun hlt heq => absurd (congrArg List.length heq) (Nat.ne_of_lt hlt)
    cases skip with
    | succ n =>
      have hn : n ≤ cs.length := Nat.le_of_succ_le_succ hskip
      rcases ih hn with himpossible | ⟨text, hsample, hlength, -⟩
      · exact .inl himpossible
      · refine .inr ⟨text, hsample, by simp only [List.length_cons]; omega, hshort ?_⟩
        simp only [List.length_cons]
        omega
    | zero =>
      rw [translate]
      split_ifs with hstar hany hopen
      · rcases ih (Nat.zero_le _) with ⟨item, hmem, himp⟩ | ⟨text, hsample, hlength, -⟩
        · exact .inl ⟨item, List.mem_cons_of_mem _ hmem, himp⟩
        · refine .inr ⟨text, .star hsample, by simp only [List.length_cons]; omega, hshort ?_⟩
          simp only [List.length_cons]
          omega
      · rcases ih (Nat.zero_le _) with ⟨item, hmem, himp⟩ | ⟨text, hsample, hlength, -⟩
        · exact .inl ⟨item, List.mem_cons_of_mem _ hmem, himp⟩
        · refine .inr ⟨'a' :: text, .char rfl hsample, by simpa using hlength, fun heq => ?_⟩
          rw [List.cons.injEq, hany] at heq
          exact absurd heq.1 (by decide)
      · cases hclass : openClass cs with
        | some found =>
          obtain ⟨negated, body⟩ := found
          have hle := classLength_le hclass
          have hpos : 1 ≤ classLength negated body := Nat.le_add_left 1 _
          by_cases hempty : ∀ x, (Item.set negated (classRanges body)).accepts x = false
          · exact .inl ⟨_, List.mem_cons_self, Item.noConfusion, hempty⟩
          · push Not at hempty
            obtain ⟨x, hx⟩ := hempty
            rcases ih hle with ⟨item, hmem, himp⟩ | ⟨text, hsample, hlength, -⟩
            · exact .inl ⟨item, List.mem_cons_of_mem _ hmem, himp⟩
            · refine .inr ⟨x :: text, .char (eq_true_of_ne_false hx) hsample, ?_, hshort ?_⟩
              · simp only [List.length_cons]
                omega
              · simp only [List.length_cons]
                omega
        | none =>
          rcases ih (Nat.zero_le _) with ⟨item, hmem, himp⟩ | ⟨text, hsample, hlength, hlit⟩
          · exact .inl ⟨item, List.mem_cons_of_mem _ hmem, himp⟩
          · refine .inr ⟨c :: text, .char (beq_self_eq_true c) hsample, by simpa using hlength,
              fun heq => ?_⟩
            have htext := hlit (List.tail_eq_of_cons_eq heq)
            simp [isLiteral, hstar, hany, hclass, htext]
      · rcases ih (Nat.zero_le _) with ⟨item, hmem, himp⟩ | ⟨text, hsample, hlength, hlit⟩
        · exact .inl ⟨item, List.mem_cons_of_mem _ hmem, himp⟩
        · refine .inr ⟨c :: text, .char (beq_self_eq_true c) hsample, by simpa using hlength,
            fun heq => ?_⟩
          have htext := hlit (List.tail_eq_of_cons_eq heq)
          simp [isLiteral, hstar, hany, hopen, htext]

/-- The items of a prefix pattern: plain text around `middle`, and a star. -/
theorem translate_prefixPattern {before middle after : List Char} (hbefore : Plain before)
    (hafter : Plain after) :
    translate 0 (before ++ (middle ++ (after ++ ['*']))) =
      before.map .lit ++ (translate 0 middle ++ (after.map .lit ++ [.star])) := by
  have hstar : ']' ∉ after ++ ['*'] := by
    rw [List.mem_append, not_or]
    exact ⟨hafter.not_mem_bracket, by decide⟩
  rw [translate_plain hbefore, translate_append hstar (Nat.zero_le _), translate_plain hafter]
  rfl

/-- **Prefix patterns.** Plain text, then `middle`, then plain text and a star is the pattern of
a fixed prefix if and only if `middle` is literal. -/
theorem prefixPattern_iff {before middle after : List Char} (hbefore : Plain before)
    (hafter : Plain after) :
    (∀ text, matchItems (translate 0 (before ++ (middle ++ (after ++ ['*'])))) text = true ↔
      before ++ (middle ++ after) <+: text) ↔ isLiteral middle = true := by
  rw [translate_prefixPattern hbefore hafter]
  constructor
  · intro h
    rcases exists_sample middle (Nat.zero_le _) with ⟨item, hmem, himp⟩ | ⟨text, hsample, hlength, hlit⟩
    · -- nothing matches, not even the prefix itself
      have hself := (h (before ++ (middle ++ after))).mpr List.prefix_rfl
      rw [matchItems_of_impossible (by simp [hmem]) himp] at hself
      cases hself
    · -- the sample in the place of `middle` matches, so it is `middle`
      have htail : matchItems (after.map .lit ++ [.star]) after = true :=
        (matchItems_lits after [.star] after).mpr ⟨[], by simp, matchItems_star []⟩
      have hmatch := (matchItems_lits before _ (before ++ (text ++ after))).mpr
        ⟨_, rfl, hsample.matchItems htail⟩
      have hprefix := (List.prefix_append_right_inj before).mp ((h _).mp hmatch)
      have heq : middle ++ after = text ++ after :=
        hprefix.eq_of_length_le (by simpa using hlength)
      exact hlit (List.append_cancel_right heq).symm
  · intro hliteral text
    rw [translate_of_isLiteral hliteral, matchItems_lits]
    simp only [matchItems_lits, matchItems_star, and_true]
    constructor
    · rintro ⟨rest, rfl, rest', rfl, rest'', rfl⟩
      exact ⟨rest'', by simp⟩
    · rintro ⟨rest, rfl⟩
      exact ⟨middle ++ (after ++ rest), by simp, after ++ rest, rfl, rest, rfl⟩

end Fnmatch

end ChangeOps
