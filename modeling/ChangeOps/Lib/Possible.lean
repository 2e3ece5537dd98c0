import ChangeOps.Lib.RelyGuarantee

/-!
# ChangeOps.Lib — what some schedule makes of a program

A triple speaks of every run. `Can I p s` says that the program `p`, alone and started in `s`,
can be brought to a point, possibly before its end, where the state satisfies `I`. A prefix that
is known by its triple is skipped (`Can.of_bind`), and of programs side by side the first one may
simply go first (`Can.gatherAll_head`).
-/

namespace ChangeOps

namespace Prog

variable {σ ε ε' α β : Type}

/-- The moves of the first program of a sequence. -/
theorem Reaches.andThen {p p' : Prog σ ε α} {s s' : σ} (h : Reaches p s p' s')
    (f : Except ε α → Prog σ ε' β) : Reaches (p.andThen f) s (p'.andThen f) s' := by
  induction h with
  | refl => exact .refl _ _
  | tail _ last ih =>
    refine .tail ih ?_
    cases last with
    | step u k => exact .step u (fun t => (k t).andThen f) _
    | left l r => exact .left _ _ _
    | right l r => exact .right _ _ _

/-- With a program that has ended, the other one goes on alone. -/
theorem both_ret (p : Prog σ Empty α) (b : β) :
    both p (.ret b) = p.andThen fun
      | .ok a => .ret (a, b) := by
  induction p with
  | ret a => rfl
  | raise e => exact e.elim
  | step u k _ => rfl
  | choice l r ihl ihr =>
    show Prog.choice (both l (.ret b)) (both r (.ret b)) = _
    rw [ihl, ihr]
    rfl

/-- The first of two programs may move first. -/
theorem Moves.both_left {p p' : Prog σ Empty α} {s s' : σ} (h : Moves p s p' s')
    (q : Prog σ Empty β) : ∃ q', Reaches (both p q) s (both p' q') s' := by
  cases h with
  | left l r => exact ⟨q, .tail (.refl _ _) (.left _ _ _)⟩
  | right l r => exact ⟨q, .tail (.refl _ _) (.right _ _ _)⟩
  | step u k =>
    -- the choices of the other program come first
    induction q with
    | ret b =>
      refine ⟨.ret b, ?_⟩
      rw [both_ret, both_ret]
      exact .tail (.refl _ _) (.step _ _ _)
    | raise e => exact e.elim
    | step u' k' _ =>
      exact ⟨.step u' k', .tail (.tail (.refl _ _) (.left _ _ _)) (.step _ _ _)⟩
    | choice l r ihl _ =>
      obtain ⟨q', hreach⟩ := ihl
      exact ⟨q', Reaches.trans (.tail (.refl _ _) (.left _ _ _)) hreach⟩

theorem Reaches.both_left {p p' : Prog σ Empty α} {s s' : σ} (h : Reaches p s p' s')
    (q : Prog σ Empty β) : ∃ q', Reaches (both p q) s (both p' q') s' := by
  induction h with
  | refl => exact ⟨q, .refl _ _⟩
  | tail _ last ih =>
    obtain ⟨q', hbefore⟩ := ih
    obtain ⟨q'', hlast⟩ := last.both_left q'
    exact ⟨q'', hbefore.trans hlast⟩

/-- Some schedule brings the program to a point where the state satisfies `I`. -/
def Can (I : σ → Prop) (p : Prog σ ε α) (s : σ) : Prop := ∃ p' s', Reaches p s p' s' ∧ I s'

namespace Can

variable {I : σ → Prop}

theorem here {p : Prog σ ε α} {s : σ} (h : I s) : Can I p s := ⟨p, s, .refl _ _, h⟩

theorem andThen {p : Prog σ ε α} {s : σ} (h : Can I p s) (f : Except ε α → Prog σ ε' β) :
    Can I (p.andThen f) s := by
  obtain ⟨p', s', hreach, hs'⟩ := h
  exact ⟨_, s', hreach.andThen f, hs'⟩

theorem bind {p : Prog σ ε α} {s : σ} (h : Can I p s) (f : α → Prog σ ε β) :
    Can I (p.bind f) s := h.andThen _

theorem tryCatch {p : Prog σ ε α} {s : σ} (h : Can I p s) (f : ε → Prog σ ε α) :
    Can I (p.tryCatch f) s := h.andThen _

/-- What comes after a first part that is known by its triple. -/
theorem of_andThen {G : σ → σ → Prop} {p : Prog σ ε α} {f : Except ε α → Prog σ ε' β} {s : σ}
    (h : RG .alone G (fun r t => Can I (f r) t) p s) : Can I (p.andThen f) s := by
  obtain ⟨outcome, t, hrun⟩ := exists_runs p s
  obtain ⟨p', s', hreach, hs'⟩ := h.of_runs hrun
  refine ⟨p', s', Reaches.trans (hrun.andThen f) ?_, hs'⟩
  cases outcome with
  | ok a => exact hreach
  | error e => exact hreach

theorem of_bind {G : σ → σ → Prop} {p : Prog σ ε α} {f : α → Prog σ ε β} {s : σ}
    (h : RG .alone G (fun r t => match r with
      | .ok a => Can I (f a) t
      | .error _ => I t) p s) : Can I (p.bind f) s := by
  refine of_andThen (h.mono fun r t ht => ?_)
  cases r with
  | ok a => exact ht
  | error e => exact here ht

theorem atomic_bind {g : σ → Except ε α × σ} {f : α → Prog σ ε β} {s : σ}
    (h : Can I ((Prog.ofExcept (g s).1).bind f) (g s).2) : Can I ((Prog.atomic g).bind f) s := by
  obtain ⟨p', s', hreach, hs'⟩ := h
  exact ⟨p', s', Reaches.trans (.tail (.refl _ _) (.step _ _ _)) hreach, hs'⟩

/-- Of programs side by side, the first one may go first. -/
theorem gatherAll_head {p : Prog σ ε α} {s : σ} (h : Can I p s) (ps : List (Prog σ ε α)) :
    Can I (gatherAll (p :: ps)) s := by
  obtain ⟨p', s', hreach, hs'⟩ := h
  have hfirst : Reaches (p.andThen .ret) s (p'.andThen .ret : Prog σ Empty (Except ε α)) s' :=
    hreach.andThen .ret
  obtain ⟨q', hboth⟩ := hfirst.both_left (gatherOutcomes ps)
  have houtcomes : Can I (gatherOutcomes (p :: ps)) s := Can.andThen ⟨_, s', hboth, hs'⟩ _
  exact bind (houtcomes.andThen _) _

end Can

/-! ## Programs that begin by reading -/

/-- In the state `s` the program reads its way to `p'`, without a choice and without a write. -/
inductive Reads (s : σ) : Prog σ ε α → Prog σ ε α → Prop where
  | refl (p : Prog σ ε α) : Reads s p p
  | step {u : σ → σ} {k : σ → Prog σ ε α} {p : Prog σ ε α} (hsame : u s = s)
      (rest : Reads s (k s) p) : Reads s (.step u k) p

theorem Reads.atomic_bind {s : σ} {g : σ → Except ε α × σ} {f : α → Prog σ ε β}
    {p : Prog σ ε β} {a : α} (h : g s = (.ok a, s)) (rest : Reads s (f a) p) :
    Reads s ((Prog.atomic g).bind f) p := by
  refine .step (by rw [h]) ?_
  show Reads s ((Prog.ofExcept (g s).1).bind f) p
  rw [h]
  exact rest

theorem Reads.reaches {s : σ} {p p' : Prog σ ε α} (h : Reads s p p') : Reaches p s p' s := by
  induction h with
  | refl => exact .refl _ _
  | @step u k p hsame _ ih =>
    have hmove : Moves (.step u k) s (k s) s := by
      have hstep := Moves.step u k s
      rwa [hsame] at hstep
    exact Reaches.trans (.tail (.refl _ _) hmove) ih

theorem Can.of_reads {I : σ → Prop} {s : σ} {p p' : Prog σ ε α} (h : Reads s p p')
    (hp : Can I p' s) : Can I p s := by
  obtain ⟨p'', s', hreach, hs'⟩ := hp
  exact ⟨p'', s', h.reaches.trans hreach, hs'⟩

theorem RG.of_reads {G : σ → σ → Prop} {Q : Except ε α → σ → Prop} {s : σ} {p p' : Prog σ ε α}
    (h : Reads s p p') (hG : G s s) (hp : RG .alone G Q p' s) : RG .alone G Q p s := by
  induction h with
  | refl => exact hp
  | step hsame _ ih =>
    rw [RG.alone_step, hsame]
    exact ⟨hG, ih hp⟩

end Prog

end ChangeOps
