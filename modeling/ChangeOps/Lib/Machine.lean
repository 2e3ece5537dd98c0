import Mathlib.Data.List.Forall2
import Mathlib.Data.List.Infix

/-!
# ChangeOps.Lib — machines that answer

A machine takes one operation after the other, answers each of them and moves on. Its `history`
over a list of operations has one event for each, with the states before and after it.

* `Unwinding.purged` — a machine that is shared by several owners shows one owner the same answers
  when the operations of another one are left out.
* `Replays.bound` — a machine that keeps the result of a keyed call, and answers a second call
  with the result it has, keeps for each key what the first call since the last clearing did.
-/

namespace ChangeOps

namespace Machine

variable {σ ω α : Type} (step : σ → ω → α × σ)

/-- One operation, with its answer and the states around it. -/
structure Event (σ ω α : Type) where
  before : σ
  operation : ω
  answer : α
  after : σ

/-- The event of an operation. -/
def event (s : σ) (operation : ω) : Event σ ω α :=
  ⟨s, operation, (step s operation).1, (step s operation).2⟩

/-- The state after some operations. -/
def final (s : σ) (operations : List ω) : σ :=
  operations.foldl (fun s operation => (step s operation).2) s

/-- The events of some operations. -/
def history (s : σ) : List ω → List (Event σ ω α)
  | [] => []
  | operation :: rest => event step s operation :: history (step s operation).2 rest

@[simp] theorem final_nil (s : σ) : final step s [] = s := rfl

@[simp] theorem final_cons (s : σ) (operation : ω) (rest : List ω) :
    final step s (operation :: rest) = final step (step s operation).2 rest := rfl

/-- What every step keeps, a run keeps. -/
theorem final_induction {I : σ → Prop} {allowed : ω → Prop}
    (hstep : ∀ s operation, allowed operation → I s → I (step s operation).2) {s : σ}
    {operations : List ω} (hall : ∀ operation ∈ operations, allowed operation) (h : I s) :
    I (final step s operations) := by
  induction operations generalizing s with
  | nil => exact h
  | cons operation rest ih =>
    rw [List.forall_mem_cons] at hall
    exact ih hall.2 (hstep s operation hall.1 h)

/-! ## Owners -/

/-- What one owner sees of the state: the operations of the others leave it, and its own operations
    depend on nothing else. -/
structure Unwinding {τ : Type} (owner : ω → τ) (observer : τ) (Alike : σ → σ → Prop)
    (Agree : ω → α → α → Prop) : Prop where
  refl : ∀ s, Alike s s
  others : ∀ {s t operation}, owner operation ≠ observer → Alike s t →
    Alike (step s operation).2 t ∧ Alike s (step t operation).2
  own : ∀ {s t operation}, owner operation = observer → Alike s t →
    Agree operation (step s operation).1 (step t operation).1 ∧
      Alike (step s operation).2 (step t operation).2

section Purge

variable {τ : Type} [DecidableEq τ] (owner : ω → τ)

/-- The operations without those of an owner. -/
def without (hidden : τ) (operations : List ω) : List ω :=
  operations.filter fun operation => owner operation ≠ hidden

/-- What an owner is answered: its operations with their answers. -/
def answers (observer : τ) (events : List (Event σ ω α)) : List (ω × α) :=
  (events.filter fun event => owner event.operation = observer).map
    fun event => (event.operation, event.answer)

/-- The same operation, with answers that agree. -/
def SameAnswer (Agree : ω → α → α → Prop) (a b : ω × α) : Prop := a.1 = b.1 ∧ Agree a.1 a.2 b.2

variable {step owner} {observer hidden : τ} {Alike : σ → σ → Prop} {Agree : ω → α → α → Prop}

theorem Unwinding.answers_alike (h : Unwinding step owner observer Alike Agree)
    (hne : hidden ≠ observer) {s t : σ} (halike : Alike s t) (operations : List ω) :
    List.Forall₂ (SameAnswer Agree) (answers owner observer (history step s operations))
      (answers owner observer (history step t (without owner hidden operations))) := by
  induction operations generalizing s t with
  | nil => exact .nil
  | cons operation rest ih =>
    by_cases hhidden : owner operation = hidden
    · -- the operation is only in the run on the left, where the observer does not see it
      have hother : owner operation ≠ observer := hhidden ▸ hne
      have hwithout : without owner hidden (operation :: rest) = without owner hidden rest := by
        simp [without, hhidden]
      have hleft : answers owner observer (history step s (operation :: rest)) =
          answers owner observer (history step (step s operation).2 rest) := by
        simp [answers, history, event, hother]
      rw [hwithout, hleft]
      exact ih (h.others hother halike).1
    · have hwithout : without owner hidden (operation :: rest) =
          operation :: without owner hidden rest := by
        simp [without, hhidden]
      rw [hwithout]
      by_cases hown : owner operation = observer
      · have hanswers : ∀ (u : σ) (more : List ω),
            answers owner observer (history step u (operation :: more)) =
              (operation, (step u operation).1) ::
                answers owner observer (history step (step u operation).2 more) := by
          intro u more
          simp [answers, history, event, hown]
        obtain ⟨hagree, hnext⟩ := h.own hown halike
        rw [hanswers, hanswers]
        exact .cons ⟨rfl, hagree⟩ (ih hnext)
      · have hanswers : ∀ (u : σ) (more : List ω),
            answers owner observer (history step u (operation :: more)) =
              answers owner observer (history step (step u operation).2 more) := by
          intro u more
          simp [answers, history, event, hown]
        rw [hanswers, hanswers]
        exact ih (h.others hown (h.others hown halike).1).2

/-- **An owner's answers do not depend on the operations of another one.** -/
theorem Unwinding.purged (h : Unwinding step owner observer Alike Agree) (hne : hidden ≠ observer)
    (s : σ) (operations : List ω) :
    List.Forall₂ (SameAnswer Agree) (answers owner observer (history step s operations))
      (answers owner observer (history step s (without owner hidden operations))) :=
  h.answers_alike hne (h.refl s) operations

end Purge

/-! ## Keyed calls -/

/-- The use that an operation makes of a table of results. -/
inductive Use (κ θ : Type) where
  | call (key : κ) (request : θ)
  | clear (cleared : κ → Bool)
  | other

/-- A machine with a table of the results of keyed calls: a key that is known is answered with the
    result in the table and changes nothing, a new one is entered when the call has a result. -/
structure Replays {κ θ ρ : Type} [DecidableEq κ] (use : ω → Use κ θ) (table : σ → κ → Option ρ)
    (result : α → Option ρ) (replay : ρ → α) : Prop where
  known : ∀ {s operation key request r}, use operation = .call key request →
    table s key = some r → step s operation = (replay r, s)
  new : ∀ {s operation key request}, use operation = .call key request → table s key = none →
    ∀ key', table (step s operation).2 key' =
      if key' = key then result (step s operation).1 else table s key'
  clear : ∀ {s operation cleared}, use operation = .clear cleared →
    ∀ key, table (step s operation).2 key = if cleared key then none else table s key
  other : ∀ {s operation}, use operation = .other → table (step s operation).2 = table s

section Replay

variable {κ θ ρ : Type} [DecidableEq κ] (use : ω → Use κ θ) (result : α → Option ρ)

/-- What is bound to a key after an event: the first call with a result, until it is cleared. -/
def enter (key : κ) (bound : Option (θ × ρ)) (event : Event σ ω α) : Option (θ × ρ) :=
  match use event.operation with
  | .call key' request =>
      if key' = key then bound <|> (result event.answer).map (request, ·) else bound
  | .clear cleared => if cleared key then none else bound
  | .other => bound

/-- The call that was executed under a key since the key was last cleared, and its result. -/
def executed (key : κ) (events : List (Event σ ω α)) : Option (θ × ρ) :=
  events.foldl (enter use result key) none

variable {step use result} {table : σ → κ → Option ρ} {replay : ρ → α}

theorem Replays.table_step (h : Replays step use table result replay) {key : κ} {s : σ}
    {bound : Option (θ × ρ)} (hbound : bound.map Prod.snd = table s key) (operation : ω) :
    (enter use result key bound (event step s operation)).map Prod.snd =
      table (step s operation).2 key := by
  unfold enter event
  dsimp only
  cases huse : use operation with
  | call key' request =>
    dsimp only
    by_cases hkey : key' = key
    · subst hkey
      rw [if_pos rfl]
      cases bound with
      | some entry =>
        rw [h.known huse hbound.symm]
        exact hbound
      | none =>
        rw [h.new huse hbound.symm, if_pos rfl]
        cases result (step s operation).1 <;> rfl
    · rw [if_neg hkey, hbound]
      cases htable : table s key' with
      | some r => rw [h.known huse htable]
      | none => rw [h.new huse htable, if_neg (Ne.symm hkey)]
  | clear cleared =>
    dsimp only
    rw [h.clear huse]
    split_ifs
    · rfl
    · exact hbound
  | other =>
    rw [h.other huse]
    exact hbound

theorem Replays.table_foldl (h : Replays step use table result replay) {key : κ} {s : σ}
    {bound : Option (θ × ρ)} (hbound : bound.map Prod.snd = table s key) (operations : List ω) :
    ((history step s operations).foldl (enter use result key) bound).map Prod.snd =
      table (final step s operations) key := by
  induction operations generalizing s bound with
  | nil => exact hbound
  | cons operation rest ih => exact ih (h.table_step hbound operation)

/-- **The table holds what the history has executed.** -/
theorem Replays.bound (h : Replays step use table result replay) {key : κ} {s : σ}
    (hempty : table s key = none) (operations : List ω) :
    (executed use result key (history step s operations)).map Prod.snd =
      table (final step s operations) key := by
  have hbound : Option.map Prod.snd (none : Option (θ × ρ)) = table s key := hempty.symm
  exact h.table_foldl hbound operations

/-- A key stays known as long as it is not cleared. -/
theorem Replays.table_final (h : Replays step use table result replay) {key : κ} {s : σ} {r : ρ}
    (hknown : table s key = some r) {operations : List ω}
    (hclear : ∀ operation ∈ operations, ∀ cleared, use operation = .clear cleared →
      cleared key = false) : table (final step s operations) key = some r := by
  refine final_induction step (I := fun s => table s key = some r) (fun s operation hop hs => ?_)
    hclear hknown
  cases huse : use operation with
  | call key' request =>
    cases htable : table s key' with
    | some r' => rw [h.known huse htable, hs]
    | none =>
      have hne : key ≠ key' := by
        intro heq
        rw [heq, htable] at hs
        cases hs
      rw [h.new huse htable, if_neg hne, hs]
  | clear cleared => rw [h.clear huse, hop cleared huse, if_neg Bool.false_ne_true, hs]
  | other => rw [h.other huse, hs]

/-- **Between two clearings a key has one call that is not answered from the table.** -/
theorem Replays.once (h : Replays step use table result replay) {key : κ} {s : σ}
    {first second : ω} {request request' : θ} (hfirst : use first = .call key request)
    (hsecond : use second = .call key request') {r : ρ}
    (hresult : result (step s first).1 = some r) (hnew : table s key = none) {between : List ω}
    (hclear : ∀ operation ∈ between, ∀ cleared, use operation = .clear cleared →
      cleared key = false) :
    step (final step s (first :: between)) second =
      (replay r, final step s (first :: between)) := by
  have hknown : table (step s first).2 key = some r := by
    rw [h.new hfirst hnew, if_pos rfl, hresult]
  exact h.known hsecond (h.table_final hknown hclear)

end Replay

end Machine

end ChangeOps
