import Mathlib.Logic.Basic

/-!
# ChangeOps.Lib — resumable programs over a shared state

A program is a tree of *atomic* actions on a shared state `σ`. Between two actions of
one program any other program may act, so a program is never more than its next action
and a continuation: exactly what a coroutine is at an `await`, or a thread between two
critical sections.

* `step u k` performs the atomic action `u` and continues with `k`, which is told the
  state the action saw;
* `raise e` ends the program with an exception;
* `choice l r` leaves the choice to the scheduler; it is what `both` and `gather` use to
  describe every interleaving of programs that one program has started side by side.

Everything here is parametric in the state, the exceptions and the results.
-/

namespace ChangeOps

/-- A resumable program over the shared state `σ`, with exceptions `ε` and result `α`. -/
inductive Prog (σ ε α : Type) where
  | ret (a : α)
  | raise (e : ε)
  | step (update : σ → σ) (cont : σ → Prog σ ε α)
  | choice (left right : Prog σ ε α)

namespace Prog

variable {σ ε ε' α β : Type}

/-! ## Sequencing and exceptions -/

/-- A result without an action: `ret` or `raise`. -/
def ofExcept : Except ε α → Prog σ ε α
  | .ok a => .ret a
  | .error e => .raise e

/-- Run `p` to its end, normal or exceptional, and hand the outcome to `f`. -/
def andThen (p : Prog σ ε α) (f : Except ε α → Prog σ ε' β) : Prog σ ε' β :=
  match p with
  | .ret a => f (.ok a)
  | .raise e => f (.error e)
  | .step u k => .step u fun s => (k s).andThen f
  | .choice l r => .choice (l.andThen f) (r.andThen f)

/-- Sequencing: an exception of `p` skips `f`. -/
def bind (p : Prog σ ε α) (f : α → Prog σ ε β) : Prog σ ε β :=
  p.andThen fun
    | .ok a => f a
    | .error e => .raise e

/-- `try p except h`. -/
def tryCatch (p : Prog σ ε α) (h : ε → Prog σ ε α) : Prog σ ε α :=
  p.andThen fun
    | .ok a => .ret a
    | .error e => h e

/-- The outcome of `p` as a value; the program itself no longer raises. -/
def attempt (p : Prog σ ε α) : Prog σ Empty (Except ε α) :=
  p.andThen .ret

instance : Monad (Prog σ ε) where
  pure := .ret
  bind := bind

/-- One atomic operation that returns or raises and replaces the state. -/
def atomic (f : σ → Except ε α × σ) : Prog σ ε α :=
  .step (fun s => (f s).2) fun s => ofExcept (f s).1

/-- Run `body` on each element in turn, threading an accumulator. -/
def foldlP (body : β → α → Prog σ ε β) : β → List α → Prog σ ε β
  | b, [] => .ret b
  | b, a :: as => (body b a).bind fun b' => foldlP body b' as

@[simp] theorem pure_eq_ret (a : α) : (pure a : Prog σ ε α) = .ret a := rfl

@[simp] theorem bind_eq_bind (p : Prog σ ε α) (f : α → Prog σ ε β) : (p >>= f) = p.bind f := rfl

/-! ## Programs side by side -/

/-- All interleavings of two programs. -/
def both (p : Prog σ Empty α) : Prog σ Empty β → Prog σ Empty (α × β) :=
  match p with
  | .ret a => fun q => q.andThen fun
      | .ok b => .ret (a, b)
  | .step u k => bothStep u k fun s => both (k s)
  | .choice l r => fun q => .choice (both l q) (both r q)
where
  /-- `both` when the first program is about to act: either it acts, or the second does. -/
  bothStep (u : σ → σ) (k : σ → Prog σ Empty α)
      (ih : σ → Prog σ Empty β → Prog σ Empty (α × β)) :
      Prog σ Empty β → Prog σ Empty (α × β)
    | .ret b => (Prog.step u k).andThen fun
        | .ok a => .ret (a, b)
    | .step u' k' =>
        .choice (.step u fun s => ih s (.step u' k')) (.step u' fun s => bothStep u k ih (k' s))
    | .choice l r => .choice (bothStep u k ih l) (bothStep u k ih r)

/-- All interleavings of a list of programs, with the outcome of each. -/
def gatherOutcomes : List (Prog σ ε α) → Prog σ Empty (List (Except ε α))
  | [] => .ret []
  | p :: ps => (both p.attempt (gatherOutcomes ps)).andThen fun
      | .ok (a, as) => .ret (a :: as)

/-- `asyncio.gather(..., return_exceptions=True)`: the outcomes, in the order of the list. -/
def gather (ps : List (Prog σ ε α)) : Prog σ ε (List (Except ε α)) :=
  (gatherOutcomes ps).andThen fun
    | .ok as => .ret as

/-- The results of a list of outcomes, or its first exception. -/
def firstError : List (Except ε α) → Except ε (List α)
  | [] => .ok []
  | .error e :: _ => .error e
  | .ok a :: rest => (firstError rest).map (a :: ·)

theorem firstError_eq_ok {outcomes : List (Except ε α)} {as : List α}
    (h : firstError outcomes = .ok as) : outcomes = as.map .ok := by
  induction outcomes generalizing as with
  | nil =>
    cases h
    rfl
  | cons outcome rest ih =>
    cases outcome with
    | error e => cases h
    | ok a =>
      rw [firstError] at h
      cases hrest : firstError rest with
      | error e =>
        rw [hrest] at h
        cases h
      | ok as' =>
        rw [hrest] at h
        cases h
        rw [List.map_cons, ih hrest]

/-- `asyncio.gather(...)`: the results, or the first exception. The programs that did not
raise still run to their end, as they do under `asyncio`; only the report waits for them. -/
def gatherAll (ps : List (Prog σ ε α)) : Prog σ ε (List α) :=
  (gather ps).bind fun outcomes => ofExcept (firstError outcomes)

/-! ## Runs of one program -/

/-- One move of a program: its next action, or a scheduling choice. -/
inductive Moves : Prog σ ε α → σ → Prog σ ε α → σ → Prop where
  | step (u : σ → σ) (k : σ → Prog σ ε α) (s : σ) : Moves (.step u k) s (k s) (u s)
  | left (l r : Prog σ ε α) (s : σ) : Moves (.choice l r) s l s
  | right (l r : Prog σ ε α) (s : σ) : Moves (.choice l r) s r s

/-- Some number of moves of a program that runs alone: `Reaches p s p' s'` says that `p`,
started in `s`, can be stopped with `p'` still to run and the state `s'` left behind. -/
inductive Reaches : Prog σ ε α → σ → Prog σ ε α → σ → Prop where
  | refl (p : Prog σ ε α) (s : σ) : Reaches p s p s
  | tail {p : Prog σ ε α} {s : σ} {q : Prog σ ε α} {t : σ} {q' : Prog σ ε α} {t' : σ}
      (before : Reaches p s q t) (last : Moves q t q' t') : Reaches p s q' t'

/-- A whole run of a program that runs alone. -/
def Runs (p : Prog σ ε α) (s : σ) (outcome : Except ε α) (s' : σ) : Prop :=
  Reaches p s (ofExcept outcome) s'

theorem Reaches.trans {p q r : Prog σ ε α} {s t u : σ} (h : Reaches p s q t)
    (h' : Reaches q t r u) : Reaches p s r u := by
  induction h' with
  | refl => exact h
  | tail _ last ih => exact .tail ih last

/-- Every program has a run. -/
theorem exists_runs (p : Prog σ ε α) (s : σ) : ∃ outcome s', Runs p s outcome s' := by
  induction p generalizing s with
  | ret a => exact ⟨.ok a, s, .refl _ _⟩
  | raise e => exact ⟨.error e, s, .refl _ _⟩
  | step u k ih =>
    obtain ⟨outcome, s', hrun⟩ := ih s (u s)
    exact ⟨outcome, s', Reaches.trans (.tail (.refl _ _) (.step u k s)) hrun⟩
  | choice l r ihl _ =>
    obtain ⟨outcome, s', hrun⟩ := ihl s
    exact ⟨outcome, s', Reaches.trans (.tail (.refl _ _) (.left l r s)) hrun⟩

end Prog

end ChangeOps
