import ChangeOps.Lib.Pool

/-!
# ChangeOps.Lib — explicit schedules

A schedule names, turn by turn, who acts next in a pool. `Pool.play` executes it, so a
concrete interleaving is a list and its effect can be computed; `Pool.reach_play` says that
what it computes is a run.
-/

namespace ChangeOps

/-- One turn: a call starts, or the call at an index moves (`right` decides a choice). -/
inductive Turn (κ : Type) where
  | start (call : κ)
  | move (index : Nat) (right : Bool)

namespace Prog

variable {σ ε α : Type}

/-- The move of a program, if it has one. -/
def next (right : Bool) : Prog σ ε α → σ → Option (Prog σ ε α × σ)
  | .ret _, _ => none
  | .raise _, _ => none
  | .step u k, s => some (k s, u s)
  | .choice l r, s => some (if right then r else l, s)

theorem moves_of_next {right : Bool} {p p' : Prog σ ε α} {s s' : σ}
    (h : next right p s = some (p', s')) : Moves p s p' s' := by
  cases p with
  | ret a => cases h
  | raise e => cases h
  | step u k =>
    cases h
    exact .step u k s
  | choice l r =>
    cases right with
    | true =>
      cases h
      exact .right l r s
    | false =>
      cases h
      exact .left l r s

/-- Run a program that is alone to its end; the first of two choices is taken. -/
def run : Prog σ ε α → σ → Except ε α × σ
  | .ret a, s => (.ok a, s)
  | .raise e, s => (.error e, s)
  | .step u k, s => run (k s) (u s)
  | .choice l _, s => run l s

theorem runs_run (p : Prog σ ε α) (s : σ) : Runs p s (p.run s).1 (p.run s).2 := by
  induction p generalizing s with
  | ret a => exact .refl _ _
  | raise e => exact .refl _ _
  | step u k ih => exact Reaches.trans (.tail (.refl _ _) (.step u k s)) (ih s (u s))
  | choice l r ihl _ => exact Reaches.trans (.tail (.refl _ _) (.left l r s)) (ihl s)

@[simp] theorem run_ret (a : α) (s : σ) : (.ret a : Prog σ ε α).run s = (.ok a, s) := rfl

@[simp] theorem run_raise (e : ε) (s : σ) : (.raise e : Prog σ ε α).run s = (.error e, s) := rfl

@[simp] theorem run_ofExcept (outcome : Except ε α) (s : σ) :
    (ofExcept outcome).run s = (outcome, s) := by
  cases outcome <;> rfl

@[simp] theorem run_atomic (f : σ → Except ε α × σ) (s : σ) : (atomic f).run s = f s :=
  run_ofExcept _ _

theorem run_andThen {ε' β : Type} (p : Prog σ ε α) (f : Except ε α → Prog σ ε' β) (s : σ) :
    (p.andThen f).run s = (f (p.run s).1).run (p.run s).2 := by
  induction p generalizing s with
  | ret a => rfl
  | raise e => rfl
  | step u k ih => exact ih s (u s)
  | choice l r ihl _ => exact ihl s

theorem run_bind_ok {β : Type} {p : Prog σ ε α} {s s' : σ} {a : α} (h : p.run s = (.ok a, s'))
    (f : α → Prog σ ε β) : (p.bind f).run s = (f a).run s' := by
  rw [bind, run_andThen, h]

theorem run_bind_error {β : Type} {p : Prog σ ε α} {s s' : σ} {e : ε}
    (h : p.run s = (.error e, s')) (f : α → Prog σ ε β) : (p.bind f).run s = (.error e, s') := by
  rw [bind, run_andThen, h]
  rfl

/-- Run a program that is alone for a number of moves; `false` decides every choice. -/
def runFor : Nat → Prog σ ε α → σ → Prog σ ε α × σ
  | 0, p, s => (p, s)
  | n + 1, p, s =>
      match next false p s with
      | none => (p, s)
      | some (p', s') => runFor n p' s'

@[simp] theorem runFor_ret (n : Nat) (a : α) (s : σ) :
    runFor n (.ret a : Prog σ ε α) s = (.ret a, s) := by
  cases n <;> rfl

@[simp] theorem runFor_raise (n : Nat) (e : ε) (s : σ) :
    runFor n (.raise e : Prog σ ε α) s = (.raise e, s) := by
  cases n <;> rfl

/-- An action that returns hands its result on. -/
theorem runFor_atomic_ok {β : Type} {f : σ → Except ε β × σ} {s : σ} {b : β} (h : (f s).1 = .ok b)
    (k : β → Prog σ ε α) (n : Nat) :
    runFor (n + 1) ((atomic f).bind k) s = runFor n (k b) (f s).2 := by
  show runFor n ((ofExcept (f s).1).bind k) (f s).2 = _
  rw [h]
  rfl

/-- An action that raises ends the program. -/
theorem runFor_atomic_error {β : Type} {f : σ → Except ε β × σ} {s : σ} {e : ε}
    (h : (f s).1 = .error e) (k : β → Prog σ ε α) (n : Nat) :
    runFor (n + 1) ((atomic f).bind k) s = (.raise e, (f s).2) := by
  show runFor n ((ofExcept (f s).1).bind k) (f s).2 = _
  rw [h]
  exact runFor_raise n e _

/-- Whether a program has come to its result. -/
def returned : Prog σ ε α → Bool
  | .ret _ => true
  | _ => false

end Prog

namespace Pool

variable {κ σ ε α : Type} (prog : κ → Prog σ ε α)

/-- The effect of one turn; a turn that names no move leaves the pool alone. -/
def turn (P : Pool κ σ ε α) : Turn κ → Pool κ σ ε α
  | .start call =>
      match (prog call).next false P.state with
      | none => P
      | some (p, s) => ⟨P.threads ++ [(call, p)], s⟩
  | .move index right =>
      match P.threads[index]? with
      | none => P
      | some (call, p) =>
          match p.next right P.state with
          | none => P
          | some (p', s) => ⟨P.threads.set index (call, p'), s⟩

/-- The effect of a schedule. -/
def play (P : Pool κ σ ε α) : List (Turn κ) → Pool κ σ ε α
  | [] => P
  | t :: rest => play (turn prog P t) rest

variable {prog}

/-- A turn that moves a call is an event of that call. -/
theorem step_move {P : Pool κ σ ε α} {index : Nat} {right : Bool} {call : κ}
    {p p' : Prog σ ε α} {s : σ} (hget : P.threads[index]? = some (call, p))
    (hnext : p.next right P.state = some (p', s)) :
    Step prog P (.by call) (turn prog P (.move index right)) := by
  obtain ⟨hlt, hthread⟩ := List.getElem?_eq_some_iff.mp hget
  have hsplit : P.threads = P.threads.take index ++ (call, p) :: P.threads.drop (index + 1) := by
    rw [← hthread, List.getElem_cons_drop, List.take_append_drop]
  have hset : P.threads.set index (call, p') =
      P.threads.take index ++ (call, p') :: P.threads.drop (index + 1) :=
    List.set_eq_take_append_cons_drop.trans (if_pos hlt)
  have hmove : Step prog _ _ _ := .move (P.threads.take index)
    (P.threads.drop (index + 1)) call (Prog.moves_of_next hnext)
  rw [← hsplit, ← hset] at hmove
  simpa only [turn, hget, hnext] using hmove

/-- A turn is an event of the pool, or nothing. -/
theorem step_turn (P : Pool κ σ ε α) (t : Turn κ) :
    turn prog P t = P ∨
      (∃ call, t = .start call ∧ Step prog P (.start call) (turn prog P t)) ∨
      ∃ call, Step prog P (.by call) (turn prog P t) := by
  cases t with
  | start call =>
    cases hnext : (prog call).next false P.state with
    | none => exact .inl (by simp [turn, hnext])
    | some next =>
      obtain ⟨p, s⟩ := next
      refine .inr (.inl ⟨call, rfl, ?_⟩)
      simp only [turn, hnext]
      exact .start P.threads call (Prog.moves_of_next hnext)
  | move index right =>
    cases hget : P.threads[index]? with
    | none => exact .inl (by simp [turn, hget])
    | some thread =>
      obtain ⟨call, p⟩ := thread
      cases hnext : p.next right P.state with
      | none => exact .inl (by simp [turn, hget, hnext])
      | some next => exact .inr (.inr ⟨call, step_move hget hnext⟩)

/-- The call that a turn would move, if the turn moves a call. -/
theorem step_of_turn_ne {P : Pool κ σ ε α} {index : Nat} {right : Bool}
    (hne : turn prog P (.move index right) ≠ P) : ∃ call p, P.threads[index]? = some (call, p) ∧
      Step prog P (.by call) (turn prog P (.move index right)) := by
  cases hget : P.threads[index]? with
  | none => exact absurd (by simp [turn, hget]) hne
  | some thread =>
    obtain ⟨call, p⟩ := thread
    cases hnext : p.next right P.state with
    | none => exact absurd (by simp [turn, hget, hnext]) hne
    | some next => exact ⟨call, p, rfl, step_move hget hnext⟩

theorem calls_turn_move (P : Pool κ σ ε α) (index : Nat) (right : Bool) :
    (turn prog P (.move index right)).calls = P.calls := by
  cases hget : P.threads[index]? with
  | none => simp only [turn, hget]
  | some thread =>
    obtain ⟨call, p⟩ := thread
    cases hnext : p.next right P.state with
    | none => simp only [turn, hget, hnext]
    | some next =>
      rcases (step_move hget hnext).calls_eq with heq | ⟨_, hactor, -⟩
      · exact heq
      · cases hactor

/-- Moves start no call. -/
theorem calls_play_replicate (n index : Nat) (right : Bool) (P : Pool κ σ ε α) :
    (play prog P (List.replicate n (.move index right))).calls = P.calls := by
  induction n generalizing P with
  | zero => rfl
  | succ n ih =>
    rw [List.replicate_succ, play, ih, calls_turn_move]

/-- A call starts, or it has no first move. -/
theorem calls_turn_start (P : Pool κ σ ε α) (call : κ) :
    (turn prog P (.start call)).calls = P.calls ∨
      (turn prog P (.start call)).calls = P.calls ++ [call] := by
  cases hnext : (prog call).next false P.state with
  | none => exact .inl (by simp only [turn, hnext])
  | some next => exact .inr (by simp [turn, hnext, calls])

/-- A schedule is a run, if its calls may start and calls may move. -/
theorem reach_play {ok : Actor κ → σ → σ → Prop} (hby : ∀ c s s', ok (.by c) s s')
    (turns : List (Turn κ)) (hstart : ∀ c s s', .start c ∈ turns → ok (.start c) s s')
    (P : Pool κ σ ε α) : Reach prog ok P (play prog P turns) := by
  induction turns generalizing P with
  | nil => exact .refl P
  | cons t rest ih =>
    have hrest := ih (fun c s s' hmem => hstart c s s' (List.mem_cons_of_mem _ hmem))
      (turn prog P t)
    have hfirst : Reach prog ok P (turn prog P t) := by
      rcases step_turn P t with heq | ⟨call, rfl, hstep⟩ | ⟨call, hstep⟩
      · rw [heq]
        exact .refl P
      · exact .tail (.refl P) hstep (hstart call _ _ List.mem_cons_self)
      · exact .tail (.refl P) hstep (hby call _ _)
    exact hfirst.trans hrest

/-! ## Schedules with a check

A condition on the events of a run that can be computed is checked turn by turn. -/

section Check

variable (prog)

/-- The call that acts in a turn. -/
def turnCall (P : Pool κ σ ε α) : Turn κ → Option κ
  | .start call => some call
  | .move index _ => P.threads[index]?.map Prod.fst

/-- Every turn of a schedule passes the check of the call that acts. -/
def passes (check : κ → σ → σ → Bool) (P : Pool κ σ ε α) : List (Turn κ) → Bool
  | [] => true
  | t :: rest =>
      (turnCall P t).all (fun call => check call P.state (turn prog P t).state) &&
        passes check (turn prog P t) rest

variable {prog}

variable (prog) in
/-- A turn is an event of the call that acts, or nothing. -/
theorem step_turnCall (P : Pool κ σ ε α) (t : Turn κ) :
    turn prog P t = P ∨ ∃ actor call, Actor.call? actor = some call ∧ turnCall P t = some call ∧
      Step prog P actor (turn prog P t) := by
  cases t with
  | start call =>
    cases hnext : (prog call).next false P.state with
    | none => exact .inl (by simp [turn, hnext])
    | some next =>
      obtain ⟨p, s⟩ := next
      refine .inr ⟨.start call, call, rfl, rfl, ?_⟩
      simp only [turn, hnext]
      exact .start P.threads call (Prog.moves_of_next hnext)
  | move index right =>
    by_cases hne : turn prog P (.move index right) = P
    · exact .inl hne
    · obtain ⟨call, p, hget, hstep⟩ := step_of_turn_ne hne
      exact .inr ⟨.by call, call, rfl, by simp [turnCall, hget], hstep⟩

theorem reach_play_of_passes {ok : Actor κ → σ → σ → Prop} {check : κ → σ → σ → Bool}
    (hcheck : ∀ actor call s s', Actor.call? actor = some call → check call s s' = true →
      ok actor s s') (turns : List (Turn κ)) (P : Pool κ σ ε α)
    (hpasses : passes prog check P turns = true) : Reach prog ok P (play prog P turns) := by
  induction turns generalizing P with
  | nil => exact .refl P
  | cons t rest ih =>
    rw [passes, Bool.and_eq_true] at hpasses
    have hrest := ih (turn prog P t) hpasses.2
    have hfirst : Reach prog ok P (turn prog P t) := by
      rcases step_turnCall prog P t with heq | ⟨actor, call, hactor, hcall, hstep⟩
      · rw [heq]
        exact .refl P
      · have hpass := hpasses.1
        rw [hcall, Option.all_some] at hpass
        exact .tail (.refl P) hstep (hcheck actor call _ _ hactor hpass)
    exact hfirst.trans hrest

end Check

end Pool

end ChangeOps
