import ChangeOps.Lib.RelyGuarantee

/-!
# ChangeOps.Lib — what a successful run leaves

`Prog.Yields P p s`: a run of `p` from `s` that nobody disturbs leaves `P` with its result, if it
returns. A run that raises is free to leave anything, so the rules follow the normal path only.
-/

namespace ChangeOps.Prog

variable {σ ε α β : Type}

/-- Partial correctness, for runs that return. -/
def Yields (P : α → σ → Prop) (p : Prog σ ε α) (s : σ) : Prop :=
  RG .alone (fun _ _ => True) (fun r t => ∀ a, r = .ok a → P a t) p s

namespace Yields

variable {P P' : α → σ → Prop} {Q : β → σ → Prop} {p : Prog σ ε α} {s t : σ}

theorem mono (h : Yields P p s) (hP : ∀ a t, P a t → P' a t) : Yields P' p s :=
  RG.mono h fun _ t hr a ha => hP a t (hr a ha)

/-- Any rule for a program that runs alone, as far as its results go. -/
theorem of_alone {G : σ → σ → Prop} {R : Except ε α → σ → Prop} (h : RG .alone G R p s)
    (hP : ∀ a t, R (.ok a) t → P a t) : Yields P p s := by
  refine h.weaken (fun _ _ => id) (fun _ _ _ => trivial) fun r t hr a ha => ?_
  rw [ha] at hr
  exact hP a t hr

theorem ret {a : α} (h : P a s) : Yields (ε := ε) P (.ret a) s := by
  refine (RG.alone_ret _ _).mpr fun b hb => ?_
  cases hb
  exact h

theorem raise (e : ε) : Yields P (.raise e) s := by
  refine (RG.alone_raise _ _).mpr fun b hb => ?_
  cases hb

theorem ofExcept {r : Except ε α} (h : ∀ a, r = .ok a → P a s) : Yields P (Prog.ofExcept r) s :=
  (RG.alone_ofExcept _ _).mpr h

theorem atomic {f : σ → Except ε α × σ} (h : ∀ a, (f s).1 = .ok a → P a (f s).2) :
    Yields P (Prog.atomic f) s :=
  (RG.alone_atomic _ _).mpr ⟨trivial, h⟩

theorem bind {f : α → Prog σ ε β} (hp : Yields P p s) (hf : ∀ a t, P a t → Yields Q (f a) t) :
    Yields Q (p.bind f) s := by
  refine (RG.alone_bind _ _ _).mpr (RG.mono hp fun r t hr => ?_)
  cases r with
  | ok a => exact hf a t (hr a rfl)
  | error e =>
    intro b hb
    cases hb

/-- A loop over a list: `I b done` is the invariant after the elements `done`. -/
theorem foldlP {I : β → List α → σ → Prop} {body : β → α → Prog σ ε β} {as : List α} {b : β}
    (hbody : ∀ b before a after s, as = before ++ a :: after → I b before s →
      Yields (fun b' t => I b' (before ++ [a]) t) (body b a) s)
    (hinit : I b [] s) : Yields (fun b t => I b as t) (Prog.foldlP body b as) s := by
  suffices h : ∀ before after, as = before ++ after → ∀ b s, I b before s →
      Yields (fun b t => I b as t) (Prog.foldlP body b after) s from h [] as rfl b s hinit
  intro before after
  induction after generalizing before with
  | nil =>
    intro has b s hI
    rw [List.append_nil] at has
    exact ret (has ▸ hI)
  | cons a after ih =>
    intro has b s hI
    refine bind (hbody b before a after s has hI) fun b' t hI' => ?_
    exact ih (before ++ [a]) (by rw [has, List.append_assoc]; rfl) b' t hI'

theorem of_runs {a : α} (h : Yields P p s) (hr : Runs p s (.ok a) t) : P a t :=
  RG.of_runs h hr a rfl

end Yields

end ChangeOps.Prog
