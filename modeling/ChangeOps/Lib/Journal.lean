import ChangeOps.Lib.Pool

/-!
# ChangeOps.Lib — runs with a journal

What a call does in a run is spread over the run. A journal collects it: one entry for each
action, with the call that acts and the states before and after. `Prog.journaled` is the program
that keeps the journal next to the state, and `Pool.RunsWith` a run together with its journal;
every run has one (`Pool.exists_runsWith`).
-/

namespace ChangeOps

/-- An action of a call, with the states before and after. -/
structure Entry (κ σ : Type) where
  call : κ
  before : σ
  after : σ

/-- A state with the journal of the run so far. -/
abbrev Journaled (κ σ : Type) := σ × List (Entry κ σ)

variable {κ σ ε ε' α β : Type}

namespace Prog

/-- The program, keeping a journal of its actions. -/
def journaled (call : κ) : Prog σ ε α → Prog (Journaled κ σ) ε α
  | .ret a => .ret a
  | .raise e => .raise e
  | .step u k =>
      .step (fun s => (u s.1, s.2 ++ [⟨call, s.1, u s.1⟩])) fun s => journaled call (k s.1)
  | .choice l r => .choice (journaled call l) (journaled call r)

@[simp] theorem journaled_ret (call : κ) (a : α) :
    (.ret a : Prog σ ε α).journaled call = .ret a := rfl

@[simp] theorem journaled_raise (call : κ) (e : ε) :
    (.raise e : Prog σ ε α).journaled call = .raise e := rfl

@[simp] theorem journaled_ofExcept (call : κ) (outcome : Except ε α) :
    (ofExcept outcome : Prog σ ε α).journaled call = ofExcept outcome := by
  cases outcome with
  | ok a => rfl
  | error e => rfl

theorem journaled_andThen (call : κ) (p : Prog σ ε α) (f : Except ε α → Prog σ ε' β) :
    (p.andThen f).journaled call = (p.journaled call).andThen fun r => (f r).journaled call := by
  induction p with
  | ret a => rfl
  | raise e => rfl
  | step u k ih =>
    simp only [andThen, journaled, ih]
  | choice l r ihl ihr =>
    simp only [andThen, journaled, ihl, ihr]

theorem journaled_bind (call : κ) (p : Prog σ ε α) (f : α → Prog σ ε β) :
    (p.bind f).journaled call = (p.journaled call).bind fun a => (f a).journaled call := by
  unfold bind
  rw [journaled_andThen]
  congr 1
  funext r
  cases r with
  | ok a => rfl
  | error e => rfl

theorem journaled_tryCatch (call : κ) (p : Prog σ ε α) (h : ε → Prog σ ε α) :
    (p.tryCatch h).journaled call =
      (p.journaled call).tryCatch fun e => (h e).journaled call := by
  unfold tryCatch
  rw [journaled_andThen]
  congr 1
  funext r
  cases r with
  | ok a => rfl
  | error e => rfl

theorem journaled_atomic (call : κ) (f : σ → Except ε α × σ) :
    (atomic f).journaled call = atomic fun s : Journaled κ σ =>
      ((f s.1).1, (f s.1).2, s.2 ++ [⟨call, s.1, (f s.1).2⟩]) := by
  simp only [atomic, journaled, journaled_ofExcept]

/-- A move, with its entry. -/
theorem Moves.journaled {p p' : Prog σ ε α} {s s' : σ} (call : κ) (h : Moves p s p' s')
    (journal : List (Entry κ σ)) : ∃ journal', Moves (p.journaled call) (s, journal)
      (p'.journaled call) (s', journal') := by
  cases h with
  | step u k => exact ⟨_, .step _ _ (s, journal)⟩
  | left l r => exact ⟨journal, .left _ _ _⟩
  | right l r => exact ⟨journal, .right _ _ _⟩

end Prog

/-! ## Runs of a pool -/

namespace Pool

variable {prog : κ → Prog σ ε α} {ok : Actor κ → σ → σ → Prop}

/-- The pool, with its journal. -/
def withJournal (P : Pool κ σ ε α) (journal : List (Entry κ σ)) : Pool κ (Journaled κ σ) ε α :=
  ⟨P.threads.map fun thread => (thread.1, thread.2.journaled thread.1), P.state, journal⟩

/-- Every call keeps its journal. -/
def journaled (prog : κ → Prog σ ε α) (call : κ) : Prog (Journaled κ σ) ε α :=
  (prog call).journaled call

/-- The events meet `ok`, and the environment writes nothing into the journal. -/
def okJournaled (ok : Actor κ → σ → σ → Prop) (actor : Actor κ) (s s' : Journaled κ σ) : Prop :=
  ok actor s.1 s'.1 ∧ (Actor.call? actor = none → s'.2 = s.2)

/-- `P` is reached from an idle pool, and `journal` is what the calls have done. -/
def RunsWith (prog : κ → Prog σ ε α) (ok : Actor κ → σ → σ → Prop) (s : σ) (P : Pool κ σ ε α)
    (journal : List (Entry κ σ)) : Prop :=
  Reach (journaled prog) (okJournaled ok) (.idle (s, [])) (P.withJournal journal)

@[simp] theorem calls_withJournal (P : Pool κ σ ε α) (journal : List (Entry κ σ)) :
    (P.withJournal journal).calls = P.calls := by
  simp [calls, withJournal]

theorem Step.journaled {P P' : Pool κ σ ε α} {actor : Actor κ} (h : Step prog P actor P')
    (hok : ok actor P.state P'.state) (journal : List (Entry κ σ)) :
    ∃ journal', Step (Pool.journaled prog) (P.withJournal journal) actor (P'.withJournal journal') ∧
      okJournaled ok actor (P.state, journal) (P'.state, journal') := by
  cases h with
  | start threads call hm =>
    obtain ⟨journal', hmove⟩ := hm.journaled call journal
    refine ⟨journal', ?_, hok, nofun⟩
    have hstep : Step (Pool.journaled prog) _ _ _ := .start
      (threads.map fun thread => (thread.1, thread.2.journaled thread.1)) call hmove
    simpa [withJournal] using hstep
  | move before after call hm =>
    obtain ⟨journal', hmove⟩ := hm.journaled call journal
    refine ⟨journal', ?_, hok, nofun⟩
    have hstep : Step (Pool.journaled prog) _ _ _ := .move
      (before.map fun thread => (thread.1, thread.2.journaled thread.1))
      (after.map fun thread => (thread.1, thread.2.journaled thread.1)) call hmove
    simpa [withJournal] using hstep
  | env threads s s' => exact ⟨journal, .env _ _ _, hok, fun _ => rfl⟩

/-- **Every run has a journal.** -/
theorem exists_runsWith {s : σ} {P : Pool κ σ ε α} (h : Reach prog ok (.idle s) P) :
    ∃ journal, RunsWith prog ok s P journal := by
  induction h with
  | refl => exact ⟨[], .refl _⟩
  | tail _ last hok ih =>
    obtain ⟨journal, hrun⟩ := ih
    obtain ⟨journal', hstep, hok'⟩ := last.journaled hok journal
    exact ⟨journal', hrun.tail hstep hok'⟩

/-- The thread of a call, in a run with a journal. -/
theorem mem_withJournal {P : Pool κ σ ε α} {journal : List (Entry κ σ)} {call : κ}
    {p : Prog σ ε α} (h : (call, p) ∈ P.threads) :
    (call, p.journaled call) ∈ (P.withJournal journal).threads :=
  List.mem_map_of_mem h

end Pool

end ChangeOps
