import Mathlib.Data.List.Forall2
import ChangeOps.Lib.Prog

/-!
# ChangeOps.Lib — rely/guarantee reasoning for resumable programs

`RG R G Q p s` says of the program `p`, started in the state `s`, that whatever the
environment does between its actions within the *rely* `R`,

* every action of `p` satisfies the *guarantee* `G`, and
* when `p` ends, its outcome and the state it is observed in satisfy `Q`.

The definition follows the tree, so each construct of `Prog` has one rule
(`RG.andThen`, `RG.bind`, `RG.tryCatch`, `RG.atomic`, `RG.both`, `RG.gather`). A program
that runs alone is the case where the environment does nothing (`Rely.alone`):
`RG.of_reaches` and `RG.of_runs` carry the triple to every point where it can be stopped
and to every outcome.
-/

namespace ChangeOps

/-- What a program may rely on: a preorder on states that the environment respects. -/
structure Rely (σ : Type) where
  rel : σ → σ → Prop
  refl : ∀ s, rel s s
  trans : ∀ {a b c}, rel a b → rel b c → rel a c

namespace Rely

variable {σ : Type}

instance : CoeFun (Rely σ) fun _ => σ → σ → Prop := ⟨Rely.rel⟩

/-- The environment does nothing. -/
def alone : Rely σ := ⟨Eq, fun _ => rfl, Eq.trans⟩

end Rely

namespace Prog

variable {σ ε ε' α β : Type}

/-- The rely/guarantee triple; see the head of the module. -/
def RG (R : Rely σ) (G : σ → σ → Prop) (Q : Except ε α → σ → Prop) : Prog σ ε α → σ → Prop
  | .ret a, s => ∀ s', R s s' → Q (.ok a) s'
  | .raise e, s => ∀ s', R s s' → Q (.error e) s'
  | .step u k, s => ∀ s', R s s' → G s' (u s') ∧ RG R G Q (k s') (u s')
  | .choice l r, s => RG R G Q l s ∧ RG R G Q r s

/-- The triple of a program whose first action happens at once, before the environment can
act. -/
def RGStart (R : Rely σ) (G : σ → σ → Prop) (Q : Except ε α → σ → Prop) : Prog σ ε α → σ → Prop
  | .step u k, s => G s (u s) ∧ RG R G Q (k s) (u s)
  | p, s => RG R G Q p s

namespace RG

variable {R : Rely σ} {G : σ → σ → Prop}

/-! ## Structural rules -/

/-- A triple survives what the environment does. -/
theorem stable {Q : Except ε α → σ → Prop} {p : Prog σ ε α} {s t : σ}
    (h : RG R G Q p s) (hst : R s t) : RG R G Q p t := by
  induction p generalizing s t with
  | ret a => exact fun s' hs' => h s' (R.trans hst hs')
  | raise e => exact fun s' hs' => h s' (R.trans hst hs')
  | step u k _ => exact fun s' hs' => h s' (R.trans hst hs')
  | choice l r ihl ihr => exact ⟨ihl h.1 hst, ihr h.2 hst⟩

/-- Consequence: a weaker guarantee and a weaker postcondition, under a stronger rely. -/
theorem weaken {R' : Rely σ} {G' : σ → σ → Prop} {Q Q' : Except ε α → σ → Prop}
    {p : Prog σ ε α} {s : σ} (h : RG R G Q p s)
    (hR : ∀ a b, R' a b → R a b) (hG : ∀ a b, G a b → G' a b)
    (hQ : ∀ r t, Q r t → Q' r t) : RG R' G' Q' p s := by
  induction p generalizing s with
  | ret a => exact fun s' hs' => hQ _ _ (h s' (hR _ _ hs'))
  | raise e => exact fun s' hs' => hQ _ _ (h s' (hR _ _ hs'))
  | step u k ih =>
    intro s' hs'
    obtain ⟨hstep, hrest⟩ := h s' (hR _ _ hs')
    exact ⟨hG _ _ hstep, ih s' hrest⟩
  | choice l r ihl ihr => exact ⟨ihl h.1, ihr h.2⟩

theorem mono {Q Q' : Except ε α → σ → Prop} {p : Prog σ ε α} {s : σ} (h : RG R G Q p s)
    (hQ : ∀ r t, Q r t → Q' r t) : RG R G Q' p s :=
  h.weaken (fun _ _ => id) (fun _ _ => id) hQ

/-- When the guarantee is part of the rely, the whole run of `p` moves the state within
the rely, and the postcondition may say so. -/
theorem path {Q : Except ε α → σ → Prop} {p : Prog σ ε α} {s : σ}
    (hGR : ∀ a b, G a b → R a b) (h : RG R G Q p s) :
    RG R G (fun r t => Q r t ∧ R s t) p s := by
  have aux : ∀ {p : Prog σ ε α} {s₀ s : σ}, R s₀ s → RG R G Q p s →
      RG R G (fun r t => Q r t ∧ R s₀ t) p s := by
    intro p
    induction p with
    | ret a => exact fun hs h s' hs' => ⟨h s' hs', R.trans hs hs'⟩
    | raise e => exact fun hs h s' hs' => ⟨h s' hs', R.trans hs hs'⟩
    | step u k ih =>
      intro s₀ s hs h s' hs'
      obtain ⟨hstep, hrest⟩ := h s' hs'
      exact ⟨hstep, ih s' (R.trans (R.trans hs hs') (hGR _ _ hstep)) hrest⟩
    | choice l r ihl ihr => exact fun hs h => ⟨ihl hs h.1, ihr hs h.2⟩
  exact aux (R.refl s) h

/-- A postcondition may be observed later: it holds in whatever the environment makes of
the final state. -/
theorem settle {Q : Except ε α → σ → Prop} {p : Prog σ ε α} {s : σ} (h : RG R G Q p s) :
    RG R G (fun r t => ∀ t', R t t' → Q r t') p s := by
  induction p generalizing s with
  | ret a => exact fun s' hs' t' ht' => h t' (R.trans hs' ht')
  | raise e => exact fun s' hs' t' ht' => h t' (R.trans hs' ht')
  | step u k ih =>
    intro s' hs'
    obtain ⟨hstep, hrest⟩ := h s' hs'
    exact ⟨hstep, ih s' hrest⟩
  | choice l r ihl ihr => exact ⟨ihl h.1, ihr h.2⟩

/-- Two triples of one program hold together. -/
theorem and {G' : σ → σ → Prop} {Q Q' : Except ε α → σ → Prop} {p : Prog σ ε α} {s : σ}
    (h : RG R G Q p s) (h' : RG R G' Q' p s) :
    RG R (fun a b => G a b ∧ G' a b) (fun r t => Q r t ∧ Q' r t) p s := by
  induction p generalizing s with
  | ret a => exact fun s' hs' => ⟨h s' hs', h' s' hs'⟩
  | raise e => exact fun s' hs' => ⟨h s' hs', h' s' hs'⟩
  | step u k ih =>
    intro s' hs'
    obtain ⟨hstep, hrest⟩ := h s' hs'
    obtain ⟨hstep', hrest'⟩ := h' s' hs'
    exact ⟨⟨hstep, hstep'⟩, ih s' hrest hrest'⟩
  | choice l r ihl ihr => exact ⟨ihl h.1 h'.1, ihr h.2 h'.2⟩

/-! ## One rule for each construct -/

theorem ret {Q : Except ε α → σ → Prop} {a : α} {s : σ}
    (h : ∀ t, R s t → Q (.ok a) t) : RG R G Q (.ret a) s := h

theorem raise {Q : Except ε α → σ → Prop} {e : ε} {s : σ}
    (h : ∀ t, R s t → Q (.error e) t) : RG R G Q (.raise e) s := h

theorem ofExcept {Q : Except ε α → σ → Prop} {r : Except ε α} {s : σ}
    (h : ∀ t, R s t → Q r t) : RG R G Q (Prog.ofExcept r) s := by
  cases r with
  | ok a => exact h
  | error e => exact h

theorem step {Q : Except ε α → σ → Prop} {u : σ → σ} {k : σ → Prog σ ε α} {s : σ}
    (h : ∀ t, R s t → G t (u t) ∧ RG R G Q (k t) (u t)) : RG R G Q (.step u k) s := h

theorem atomic {Q : Except ε α → σ → Prop} {f : σ → Except ε α × σ} {s : σ}
    (h : ∀ t, R s t → G t (f t).2 ∧ ∀ t', R (f t).2 t' → Q (f t).1 t') :
    RG R G Q (Prog.atomic f) s := by
  intro t ht
  exact ⟨(h t ht).1, ofExcept (h t ht).2⟩

/-- Sequencing through the outcome, normal or not. -/
theorem andThen {P : Except ε α → σ → Prop} {Q : Except ε' β → σ → Prop}
    {p : Prog σ ε α} {f : Except ε α → Prog σ ε' β} {s : σ}
    (hp : RG R G P p s) (hf : ∀ r t, P r t → RG R G Q (f r) t) :
    RG R G Q (p.andThen f) s := by
  induction p generalizing s with
  | ret a => exact hf _ s (hp s (R.refl s))
  | raise e => exact hf _ s (hp s (R.refl s))
  | step u k ih =>
    intro s' hs'
    obtain ⟨hstep, hrest⟩ := hp s' hs'
    exact ⟨hstep, ih s' hrest⟩
  | choice l r ihl ihr => exact ⟨ihl hp.1, ihr hp.2⟩

theorem bind {P : Except ε α → σ → Prop} {Q : Except ε β → σ → Prop}
    {p : Prog σ ε α} {f : α → Prog σ ε β} {s : σ} (hp : RG R G P p s)
    (hok : ∀ a t, P (.ok a) t → RG R G Q (f a) t)
    (herr : ∀ e t, P (.error e) t → Q (.error e) t) :
    RG R G Q (p.bind f) s := by
  refine hp.settle.andThen ?_
  intro r t ht
  cases r with
  | ok a => exact hok a t (ht t (R.refl t))
  | error e => exact fun t' ht' => herr e t' (ht t' ht')

theorem tryCatch {P Q : Except ε α → σ → Prop}
    {p : Prog σ ε α} {f : ε → Prog σ ε α} {s : σ} (hp : RG R G P p s)
    (hok : ∀ a t, P (.ok a) t → Q (.ok a) t)
    (herr : ∀ e t, P (.error e) t → RG R G Q (f e) t) :
    RG R G Q (p.tryCatch f) s := by
  refine hp.settle.andThen ?_
  intro r t ht
  cases r with
  | ok a => exact fun t' ht' => hok a t' (ht t' ht')
  | error e => exact herr e t (ht t (R.refl t))

theorem attempt {Q : Except ε α → σ → Prop} {p : Prog σ ε α} {s : σ} (hp : RG R G Q p s) :
    RG R G (fun r t => ∃ o, r = .ok o ∧ Q o t) p.attempt s := by
  refine hp.settle.andThen ?_
  intro r t ht t' ht'
  exact ⟨r, rfl, ht t' ht'⟩

/-- A loop over a list: `I b done` is the invariant after the elements `done`. -/
theorem foldlP {I : β → List α → σ → Prop} {Q : Except ε β → σ → Prop}
    {body : β → α → Prog σ ε β} {as : List α}
    (hstable : ∀ b l s t, I b l s → R s t → I b l t)
    (hbody : ∀ b before a after s, as = before ++ a :: after → I b before s →
      RG R G (fun r t => match r with
        | .ok b' => I b' (before ++ [a]) t
        | .error e => Q (.error e) t) (body b a) s)
    (hend : ∀ b t, I b as t → Q (.ok b) t) {b : β} {s : σ} (hinit : I b [] s) :
    RG R G Q (Prog.foldlP body b as) s := by
  suffices aux : ∀ after before b s, as = before ++ after → I b before s →
      RG R G Q (Prog.foldlP body b after) s from aux as [] b s rfl hinit
  intro after
  induction after with
  | nil =>
    intro before b s hsplit hI t ht
    rw [List.append_nil] at hsplit
    exact hend b t (hsplit ▸ hstable b before s t hI ht)
  | cons a after ih =>
    intro before b s hsplit hI
    refine (hbody b before a after s hsplit hI).bind ?_ ?_
    · intro b' t hI'
      exact ih (before ++ [a]) b' t (by simp [hsplit]) hI'
    · intro e t ht
      exact ht

theorem any (p : Prog σ ε α) (s : σ) : RG R (fun _ _ => True) (fun _ _ => True) p s := by
  induction p generalizing s with
  | ret a => exact fun _ _ => True.intro
  | raise e => exact fun _ _ => True.intro
  | step u k ih => exact fun t _ => ⟨True.intro, ih t (u t)⟩
  | choice l r ihl ihr => exact ⟨ihl s, ihr s⟩

/-! ## Programs side by side -/

/-- Two programs side by side: each relies on what the other guarantees. -/
theorem both {P : Except Empty α → σ → Prop} {Q : Except Empty β → σ → Prop}
    (hGR : ∀ a b, G a b → R a b) {p : Prog σ Empty α} {q : Prog σ Empty β} {s : σ}
    (hp : RG R G P p s) (hq : RG R G Q q s) :
    RG R G (fun r t => ∃ a b, r = .ok (a, b) ∧ P (.ok a) t ∧ Q (.ok b) t) (both p q) s := by
  induction p generalizing q s with
  | ret a =>
    -- the first program has ended: only the second still moves, within the rely
    refine (hq.settle.path hGR).andThen ?_
    rintro (e | b) t ⟨hb, hst⟩
    · exact e.elim
    · exact fun t' ht' => ⟨a, b, rfl, hp t' (R.trans hst ht'), hb t' ht'⟩
  | raise e => exact e.elim
  | choice l r ihl ihr => exact ⟨ihl hp.1 hq, ihr hp.2 hq⟩
  | step u k ih =>
    induction q generalizing s with
    | ret b =>
      refine (hp.settle.path hGR).andThen ?_
      rintro (e | a) t ⟨ha, hst⟩
      · exact e.elim
      · exact fun t' ht' => ⟨a, b, rfl, ha t' ht', hq t' (R.trans hst ht')⟩
    | raise e => exact e.elim
    | choice l r ihl ihr => exact ⟨ihl hp hq.1, ihr hp hq.2⟩
    | step u' k' ih' =>
      refine ⟨?_, ?_⟩
      · -- the first program acts; the second sees one more environment action
        intro t ht
        obtain ⟨hstep, hrest⟩ := hp t ht
        exact ⟨hstep, ih t hrest (hq.stable (R.trans ht (hGR _ _ hstep)))⟩
      · intro t ht
        obtain ⟨hstep, hrest⟩ := hq t ht
        exact ⟨hstep, ih' t (hp.stable (R.trans ht (hGR _ _ hstep))) hrest⟩

theorem gatherOutcomes {ι : Type} {Q : ι → Except ε α → σ → Prop}
    (hGR : ∀ a b, G a b → R a b) {f : ι → Prog σ ε α} {is : List ι} {s : σ}
    (h : ∀ i ∈ is, RG R G (Q i) (f i) s) :
    RG R G (fun r t => ∃ rs, r = .ok rs ∧ List.Forall₂ (fun i o => Q i o t) is rs)
      (Prog.gatherOutcomes (is.map f)) s := by
  induction is with
  | nil => exact fun t _ => ⟨[], rfl, .nil⟩
  | cons i is ih =>
    have hhead := (h i List.mem_cons_self).attempt
    have htail := ih fun j hj => h j (List.mem_cons_of_mem _ hj)
    refine (both hGR hhead htail).settle.andThen ?_
    intro r t ht
    obtain ⟨o, rs, rfl, -, -⟩ := ht t (R.refl t)
    intro t' ht'
    obtain ⟨_, _, heq, ⟨o', ho', hQ⟩, ⟨rs', hrs', hall⟩⟩ := ht t' ht'
    cases heq
    cases ho'
    cases hrs'
    exact ⟨_, rfl, .cons hQ hall⟩

/-- `gather`: the outcome of each program satisfies its own postcondition. -/
theorem gather {ι : Type} {Q : ι → Except ε α → σ → Prop}
    (hGR : ∀ a b, G a b → R a b) {f : ι → Prog σ ε α} {is : List ι} {s : σ}
    (h : ∀ i ∈ is, RG R G (Q i) (f i) s) :
    RG R G (fun r t => ∃ rs, r = .ok rs ∧ List.Forall₂ (fun i o => Q i o t) is rs)
      (Prog.gather (is.map f)) s := by
  refine (gatherOutcomes hGR h).settle.andThen ?_
  intro r t ht
  obtain ⟨rs, rfl, -⟩ := ht t (R.refl t)
  intro t' ht'
  obtain ⟨_, heq, hall⟩ := ht t' ht'
  cases heq
  exact ⟨_, rfl, hall⟩

/-- `gatherAll`: the results satisfy the postconditions, when there are results. -/
theorem gatherAll {ι : Type} {Q : ι → Except ε α → σ → Prop}
    (hGR : ∀ a b, G a b → R a b) {f : ι → Prog σ ε α} {is : List ι} {s : σ}
    (h : ∀ i ∈ is, RG R G (Q i) (f i) s) :
    RG R G (fun r t => ∀ as, r = .ok as → List.Forall₂ (fun i a => Q i (.ok a) t) is as)
      (Prog.gatherAll (is.map f)) s := by
  refine (gather hGR h).settle.bind (fun outcomes t ht => ofExcept fun t' ht' as has => ?_) ?_
  · obtain ⟨_, heq, hall⟩ := ht t' ht'
    cases heq
    rw [firstError_eq_ok has, List.forall₂_map_right_iff] at hall
    exact hall
  · rintro e t - as heq
    cases heq

/-! ## From a triple to runs -/

/-- One move of a program that runs alone keeps the triple, and an action meets `G`. -/
theorem of_moves {Q : Except ε α → σ → Prop} {p p' : Prog σ ε α} {s s' : σ}
    (h : RG R G Q p s) (hm : Moves p s p' s') : RG R G Q p' s' ∧ (s' = s ∨ G s s') := by
  cases hm with
  | step u k => exact ⟨(h s (R.refl s)).2, Or.inr (h s (R.refl s)).1⟩
  | left l r => exact ⟨h.1, Or.inl rfl⟩
  | right l r => exact ⟨h.2, Or.inl rfl⟩

/-- At every point where a program that runs alone can be stopped, the triple holds of
what is left to run; and a property that the actions of `p` keep holds of the state. -/
theorem of_reaches {Q : Except ε α → σ → Prop} {I : σ → Prop} {p p' : Prog σ ε α} {s s' : σ}
    (h : RG R G Q p s) (hI : ∀ a b, I a → G a b → I b) (hs : I s) (hr : Reaches p s p' s') :
    RG R G Q p' s' ∧ I s' := by
  induction hr with
  | refl => exact ⟨h, hs⟩
  | tail _ last ih =>
    obtain ⟨hrest, hinv⟩ := ih
    obtain ⟨hnext, heq | hstep⟩ := hrest.of_moves last
    · exact ⟨hnext, heq ▸ hinv⟩
    · exact ⟨hnext, hI _ _ hinv hstep⟩

/-- A whole run ends in the postcondition. -/
theorem of_runs {Q : Except ε α → σ → Prop} {p : Prog σ ε α} {s s' : σ} {r : Except ε α}
    (h : RG R G Q p s) (hr : Runs p s r s') : Q r s' := by
  have hend := (h.of_reaches (I := fun _ => True) (fun _ _ _ _ => trivial) trivial hr).1
  cases r with
  | ok a => exact hend s' (R.refl s')
  | error e => exact hend s' (R.refl s')

/-! ## Programs that run alone

With `Rely.alone` a triple is computed step by step: these rules are for `simp`. -/

section Alone

variable {Q : Except ε α → σ → Prop}

@[simp] theorem alone_ret (a : α) (s : σ) : RG .alone G Q (.ret a) s ↔ Q (.ok a) s :=
  ⟨fun h => h s rfl, fun h _ hs => hs ▸ h⟩

@[simp] theorem alone_raise (e : ε) (s : σ) : RG .alone G Q (.raise e) s ↔ Q (.error e) s :=
  ⟨fun h => h s rfl, fun h _ hs => hs ▸ h⟩

theorem alone_step (u : σ → σ) (k : σ → Prog σ ε α) (s : σ) :
    RG .alone G Q (.step u k) s ↔ G s (u s) ∧ RG .alone G Q (k s) (u s) :=
  ⟨fun h => h s rfl, fun h _ hs => hs ▸ h⟩

@[simp] theorem alone_atomic (f : σ → Except ε α × σ) (s : σ) :
    RG .alone G Q (Prog.atomic f) s ↔ G s (f s).2 ∧ Q (f s).1 (f s).2 := by
  rw [Prog.atomic, alone_step]
  cases (f s).1 with
  | ok a => rw [Prog.ofExcept, alone_ret]
  | error e => rw [Prog.ofExcept, alone_raise]

theorem alone_andThen {Q : Except ε' β → σ → Prop} (p : Prog σ ε α)
    (f : Except ε α → Prog σ ε' β) (s : σ) :
    RG .alone G Q (p.andThen f) s ↔ RG .alone G (fun r t => RG .alone G Q (f r) t) p s := by
  induction p generalizing s with
  | ret a => rw [alone_ret]; rfl
  | raise e => rw [alone_raise]; rfl
  | step u k ih =>
    rw [Prog.andThen, alone_step, alone_step, ih]
  | choice l r ihl ihr => exact and_congr (ihl s) (ihr s)

theorem alone_bind {Q : Except ε β → σ → Prop} (p : Prog σ ε α) (f : α → Prog σ ε β) (s : σ) :
    RG .alone G Q (p.bind f) s ↔
      RG .alone G (fun r t => match r with
        | .ok a => RG .alone G Q (f a) t
        | .error e => Q (.error e) t) p s := by
  rw [Prog.bind, alone_andThen]
  constructor <;> refine fun h => h.mono ?_ <;> rintro (e | a) t ht
  · exact (alone_raise e t).mp ht
  · exact ht
  · exact (alone_raise e t).mpr ht
  · exact ht

theorem alone_tryCatch (p : Prog σ ε α) (f : ε → Prog σ ε α) (s : σ) :
    RG .alone G Q (p.tryCatch f) s ↔
      RG .alone G (fun r t => match r with
        | .ok a => Q (.ok a) t
        | .error e => RG .alone G Q (f e) t) p s := by
  rw [Prog.tryCatch, alone_andThen]
  constructor <;> refine fun h => h.mono ?_ <;> rintro (e | a) t ht
  · exact ht
  · exact (alone_ret a t).mp ht
  · exact ht
  · exact (alone_ret a t).mpr ht

@[simp] theorem alone_ofExcept (r : Except ε α) (s : σ) :
    RG .alone G Q (Prog.ofExcept r) s ↔ Q r s := by
  cases r with
  | ok a => exact alone_ret a s
  | error e => exact alone_raise e s

end Alone

/-- A triple that holds whatever the environment does first. -/
theorem start {Q : Except ε α → σ → Prop} {p : Prog σ ε α} {s : σ} (h : RG R G Q p s) :
    RGStart R G Q p s := by
  cases p with
  | ret a => exact h
  | raise e => exact h
  | step u k => exact h s (R.refl s)
  | choice l r => exact h

end RG

namespace RGStart

variable {R : Rely σ} {G : σ → σ → Prop}

theorem atomic {Q : Except ε α → σ → Prop} {f : σ → Except ε α × σ} {s : σ} (hG : G s (f s).2)
    (hQ : ∀ t, R (f s).2 t → Q (f s).1 t) : RGStart R G Q (Prog.atomic f) s :=
  ⟨hG, RG.ofExcept hQ⟩

theorem bind {P : Except ε α → σ → Prop} {Q : Except ε β → σ → Prop}
    {p : Prog σ ε α} {f : α → Prog σ ε β} {s : σ} (hp : RGStart R G P p s)
    (hok : ∀ a t, P (.ok a) t → RG R G Q (f a) t)
    (herr : ∀ e t, P (.error e) t → Q (.error e) t) :
    RGStart R G Q (p.bind f) s := by
  cases p with
  | ret a => exact (RG.bind hp hok herr).start
  | raise e => exact (RG.bind hp hok herr).start
  | step u k => exact ⟨hp.1, RG.bind hp.2 hok herr⟩
  | choice l r => exact (RG.bind hp hok herr).start

/-- A program that begins with an atomic operation. -/
theorem atomic_bind {Q : Except ε β → σ → Prop} {f : σ → Except ε α × σ}
    {g : α → Prog σ ε β} {s : σ} (hG : G s (f s).2)
    (hrest : RG R G Q ((Prog.ofExcept (f s).1).bind g) (f s).2) :
    RGStart R G Q ((Prog.atomic f).bind g) s :=
  ⟨hG, hrest⟩

/-- The first move of a program: what is left satisfies the triple. -/
theorem of_moves {Q : Except ε α → σ → Prop} {p p' : Prog σ ε α} {s s' : σ}
    (h : RGStart R G Q p s) (hm : Moves p s p' s') : RG R G Q p' s' ∧ (s' = s ∨ G s s') := by
  cases hm with
  | step u k => exact ⟨h.2, Or.inr h.1⟩
  | left l r => exact ⟨h.1, Or.inl rfl⟩
  | right l r => exact ⟨h.2, Or.inl rfl⟩

end RGStart

/-! ## What a program can return

A property of the outcomes of a program that holds whatever states its actions see. -/

def Returns (Q : Except ε α → Prop) : Prog σ ε α → Prop
  | .ret a => Q (.ok a)
  | .raise e => Q (.error e)
  | .step _ k => ∀ s, Returns Q (k s)
  | .choice l r => Returns Q l ∧ Returns Q r

namespace Returns

theorem mono {Q Q' : Except ε α → Prop} {p : Prog σ ε α} (h : Returns Q p)
    (hQ : ∀ r, Q r → Q' r) : Returns Q' p := by
  induction p with
  | ret a => exact hQ _ h
  | raise e => exact hQ _ h
  | step u k ih => exact fun s => ih s (h s)
  | choice l r ihl ihr => exact ⟨ihl h.1, ihr h.2⟩

theorem andThen {Q : Except ε' β → Prop} (p : Prog σ ε α) {f : Except ε α → Prog σ ε' β}
    (hf : ∀ r, Returns Q (f r)) : Returns Q (p.andThen f) := by
  induction p with
  | ret a => exact hf (.ok a)
  | raise e => exact hf (.error e)
  | step u k ih => exact fun s => ih s
  | choice l r ihl ihr => exact ⟨ihl, ihr⟩

/-- Only the end of a program decides what it returns. -/
theorem bind {Q : Except ε β → Prop} (p : Prog σ ε α) {f : α → Prog σ ε β}
    (hf : ∀ a, Returns Q (f a)) (herr : ∀ e, Q (.error e)) : Returns Q (p.bind f) := by
  refine andThen p fun r => ?_
  cases r with
  | ok a => exact hf a
  | error e => exact herr e

theorem atomic {Q : Except ε α → Prop} {f : σ → Except ε α × σ} (h : ∀ s, Q (f s).1) :
    Returns Q (Prog.atomic f) := by
  intro s
  have hs := h s
  dsimp only
  cases hr : (f s).1 with
  | ok a =>
    rw [hr] at hs
    exact hs
  | error e =>
    rw [hr] at hs
    exact hs

/-- What both parts return. -/
theorem seq {P : Except ε α → Prop} {Q : Except ε β → Prop} {p : Prog σ ε α} {f : α → Prog σ ε β}
    (hp : Returns P p) (hok : ∀ a, P (.ok a) → Returns Q (f a))
    (herr : ∀ e, P (.error e) → Q (.error e)) : Returns Q (p.bind f) := by
  induction p with
  | ret a => exact hok a hp
  | raise e => exact herr e hp
  | step u k ih => exact fun s => ih s (hp s)
  | choice l r ihl ihr => exact ⟨ihl hp.1, ihr hp.2⟩

end Returns

/-- A triple may say in its postcondition what the program can return. -/
theorem RG.returns {R : Rely σ} {G : σ → σ → Prop} {Q : Except ε α → σ → Prop}
    {Q' : Except ε α → Prop} {p : Prog σ ε α} {s : σ} (h : RG R G Q p s) (hp : Returns Q' p) :
    RG R G (fun r t => Q r t ∧ Q' r) p s := by
  induction p generalizing s with
  | ret a => exact fun t ht => ⟨h t ht, hp⟩
  | raise e => exact fun t ht => ⟨h t ht, hp⟩
  | step u k ih => exact fun t ht => ⟨(h t ht).1, ih t (h t ht).2 (hp t)⟩
  | choice l r ihl ihr => exact ⟨ihl h.1 hp.1, ihr h.2 hp.2⟩

end Prog

end ChangeOps
