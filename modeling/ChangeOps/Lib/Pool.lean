import ChangeOps.Lib.RelyGuarantee

/-!
# ChangeOps.Lib — pools of concurrent calls

A `Pool` is a shared state with any number of calls in flight. A new call joins with its
first action at any time, any call in flight makes its next move at any time, and the
environment may act in between: `Pool.Step` is one such event, labelled with who acted.
`Pool.Reach ok` are the runs all of whose events meet the condition `ok`;
`fun _ _ _ => True` admits every interleaving with an arbitrary environment.

`Pool.sound` is the rule of the whole library: calls that satisfy rely/guarantee triples
with compatible relies keep them in every interleaving.
-/

namespace ChangeOps

/-- Who acts in an event of a pool: a call with its first action, a call in flight, or the
environment. -/
inductive Actor (κ : Type) where
  | start (call : κ)
  | by (call : κ)
  | env

/-- The call that acts, if one does. -/
def Actor.call? {κ : Type} : Actor κ → Option κ
  | .start call => some call
  | .by call => some call
  | .env => none

/-- Calls in flight over a shared state; `κ` names the calls. -/
structure Pool (κ σ ε α : Type) where
  threads : List (κ × Prog σ ε α)
  state : σ

namespace Pool

variable {κ σ ε α : Type} {prog : κ → Prog σ ε α}

/-- One event of a pool. -/
inductive Step (prog : κ → Prog σ ε α) : Pool κ σ ε α → Actor κ → Pool κ σ ε α → Prop where
  | start (threads : List (κ × Prog σ ε α)) (call : κ) {p : Prog σ ε α} {s s' : σ}
      (h : (prog call).Moves s p s') :
      Step prog ⟨threads, s⟩ (.start call) ⟨threads ++ [(call, p)], s'⟩
  | move (before after : List (κ × Prog σ ε α)) (call : κ) {p p' : Prog σ ε α} {s s' : σ}
      (h : p.Moves s p' s') :
      Step prog ⟨before ++ (call, p) :: after, s⟩ (.by call) ⟨before ++ (call, p') :: after, s'⟩
  | env (threads : List (κ × Prog σ ε α)) (s s' : σ) :
      Step prog ⟨threads, s⟩ .env ⟨threads, s'⟩

/-- The runs all of whose events meet `ok`. -/
inductive Reach (prog : κ → Prog σ ε α) (ok : Actor κ → σ → σ → Prop) :
    Pool κ σ ε α → Pool κ σ ε α → Prop where
  | refl (P : Pool κ σ ε α) : Reach prog ok P P
  | tail {P P' P'' : Pool κ σ ε α} {actor : Actor κ} (before : Reach prog ok P P')
      (last : Step prog P' actor P'') (hok : ok actor P'.state P''.state) : Reach prog ok P P''

/-- The idle pool: no call in flight. -/
def idle (s : σ) : Pool κ σ ε α := ⟨[], s⟩

theorem Reach.trans {ok : Actor κ → σ → σ → Prop} {P P' P'' : Pool κ σ ε α}
    (h : Reach prog ok P P') (h' : Reach prog ok P' P'') : Reach prog ok P P'' := by
  induction h' with
  | refl => exact h
  | tail _ last hok ih => exact .tail ih last hok

/-- A condition on the calls in flight: the shared rely `R`, a guarantee `G` for each call,
the postconditions `Q` and an invariant `Inv` under which calls may start. -/
structure Sound (prog : κ → Prog σ ε α) (ok : Actor κ → σ → σ → Prop) (R : Rely σ)
    (G : κ → σ → σ → Prop) (Q : κ → Except ε α → σ → Prop) (Inv : σ → Prop) : Prop where
  /-- What a call guarantees, every other call may rely on. -/
  guarantee : ∀ actor c s s', Actor.call? actor = some c → ok actor s s' → G c s s' → R s s'
  /-- The environment stays within the rely. -/
  environment : ∀ s s', ok .env s s' → R s s'
  /-- The rely keeps the invariant. -/
  invariant : ∀ s s', Inv s → R s s' → Inv s'
  /-- A call that starts satisfies its triple. -/
  triple : ∀ c s s', Inv s → ok (.start c) s s' → (prog c).RGStart R (G c) (Q c) s

variable {ok : Actor κ → σ → σ → Prop} {R : Rely σ} {G : κ → σ → σ → Prop}
  {Q : κ → Except ε α → σ → Prop} {Inv : σ → Prop}

/-- The invariant of a pool: every call in flight still satisfies its triple. -/
structure Holds (R : Rely σ) (G : κ → σ → σ → Prop) (Q : κ → Except ε α → σ → Prop)
    (Inv : σ → Prop) (P : Pool κ σ ε α) : Prop where
  inv : Inv P.state
  triples : ∀ thread ∈ P.threads, thread.2.RG R (G thread.1) (Q thread.1) P.state

theorem Holds.idle {s : σ} (h : Inv s) : Holds R G Q Inv (idle s : Pool κ σ ε α) :=
  ⟨h, fun _ hmem => absurd hmem List.not_mem_nil⟩

/-- In a pool that holds, an action of a call meets the guarantee of that call. -/
theorem Holds.guarantee {P P' : Pool κ σ ε α} {actor : Actor κ} {c : κ}
    (hs : Sound prog ok R G Q Inv) (h : Holds R G Q Inv P) (hstep : Step prog P actor P')
    (hok : ok actor P.state P'.state) (hc : Actor.call? actor = some c) :
    P'.state = P.state ∨ G c P.state P'.state := by
  cases hstep with
  | start threads call hm =>
    cases hc
    exact ((hs.triple c _ _ h.inv hok).of_moves hm).2
  | move before after call hm =>
    cases hc
    exact ((h.triples (c, _) (by simp)).of_moves hm).2
  | env => cases hc

/-- An event keeps the triples of the pool and moves its state within the rely. -/
theorem Holds.step {P P' : Pool κ σ ε α} {actor : Actor κ} (hs : Sound prog ok R G Q Inv)
    (h : Holds R G Q Inv P) (hstep : Step prog P actor P') (hok : ok actor P.state P'.state) :
    Holds R G Q Inv P' ∧ R P.state P'.state := by
  have hrely : R P.state P'.state := by
    cases hcall : Actor.call? actor with
    | some c =>
      rcases h.guarantee hs hstep hok hcall with heq | hg
      · exact heq ▸ R.refl _
      · exact hs.guarantee actor c _ _ hcall hok hg
    | none =>
      cases hstep with
      | start => cases hcall
      | move => cases hcall
      | env => exact hs.environment _ _ hok
  refine ⟨⟨hs.invariant _ _ h.inv hrely, ?_⟩, hrely⟩
  intro thread hmem
  cases hstep with
  | @start threads call p s s' hm =>
    rcases List.mem_append.mp hmem with hold | hnew
    · exact (h.triples thread hold).stable hrely
    · obtain rfl := List.mem_singleton.mp hnew
      exact ((hs.triple call s s' h.inv hok).of_moves hm).1
  | @move before after call p p' s s' hm =>
    -- the call that moved keeps its own triple, the others rely on it
    rcases List.mem_append.mp hmem with hold | hmem
    · exact (h.triples thread (by simp [hold])).stable hrely
    · rcases List.mem_cons.mp hmem with rfl | hold
      · exact ((h.triples (call, p) (by simp)).of_moves hm).1
      · exact (h.triples thread (by simp [hold])).stable hrely
  | env threads s s' => exact (h.triples thread hmem).stable hrely

/-- **Soundness.** In every run from a pool that holds, the reached pool holds and its
state is within the rely of the first. -/
theorem sound {P P' : Pool κ σ ε α} (hs : Sound prog ok R G Q Inv) (h : Holds R G Q Inv P)
    (hr : Reach prog ok P P') : Holds R G Q Inv P' ∧ R P.state P'.state := by
  induction hr with
  | refl => exact ⟨h, R.refl _⟩
  | tail _ last hok ih =>
    obtain ⟨hmid, hrel⟩ := ih
    obtain ⟨hlast, hstep⟩ := hmid.step hs last hok
    exact ⟨hlast, R.trans hrel hstep⟩

/-- Every pool that is reached from the idle pool holds. -/
theorem Sound.holds {s : σ} {P : Pool κ σ ε α} (hs : Sound prog ok R G Q Inv) (hinv : Inv s)
    (hr : Reach prog ok (.idle s) P) : Holds R G Q Inv P :=
  (sound hs (Holds.idle hinv) hr).1

/-! ## Calls that own part of the state

Where every call is started once, a call may rely on more than the others do: that nobody else
writes what is its own. `Apart` has a rely for each call, and `untouched c` says that the call
`c` has left no trace yet, so that it may start. -/

/-- The calls that have been started, in order. -/
def calls (P : Pool κ σ ε α) : List κ := P.threads.map Prod.fst

/-- An event leaves the calls alone or adds the one that starts. -/
theorem Step.calls_eq {P P' : Pool κ σ ε α} {actor : Actor κ} (h : Step prog P actor P') :
    P'.calls = P.calls ∨ ∃ call, actor = .start call ∧ P'.calls = P.calls ++ [call] := by
  cases h with
  | start threads call hm => exact Or.inr ⟨call, rfl, by simp [calls]⟩
  | move before after call hm => exact Or.inl (by simp [calls])
  | env threads s s' => exact Or.inl rfl

theorem Step.calls_prefix {P P' : Pool κ σ ε α} {actor : Actor κ} (h : Step prog P actor P') :
    P.calls <+: P'.calls := by
  rcases h.calls_eq with heq | ⟨call, -, heq⟩
  · exact heq ▸ List.prefix_refl _
  · exact heq ▸ List.prefix_append _ _

/-- A call that acts is one of the calls. -/
theorem Step.mem_calls {P P' : Pool κ σ ε α} {actor : Actor κ} (h : Step prog P actor P') {call : κ}
    (hcall : actor.call? = some call) : call ∈ P'.calls := by
  cases h with
  | start threads call =>
    cases hcall
    simp [calls]
  | move before after call =>
    cases hcall
    simp [calls]
  | env => cases hcall

/-- A call that starts without repeating another is not in flight. -/
theorem not_mem_of_nodup_start {threads : List (κ × Prog σ ε α)} {call : κ} {p : Prog σ ε α} {s : σ}
    (h : (calls ⟨threads ++ [(call, p)], s⟩).Nodup) : call ∉ threads.map Prod.fst := by
  simp only [calls, List.map_append, List.map_cons, List.map_nil, List.nodup_append,
    List.mem_singleton] at h
  exact fun hmem => h.2.2 call hmem call rfl rfl

/-- A condition on the calls in flight, with a rely `R` for each call. -/
structure Apart (prog : κ → Prog σ ε α) (ok : Actor κ → σ → σ → Prop) (R : κ → Rely σ)
    (G : κ → σ → σ → Prop) (Q : κ → Except ε α → σ → Prop) (Inv : σ → Prop)
    (untouched : κ → σ → Prop) : Prop where
  /-- What a call guarantees, every other call may rely on. -/
  guarantee : ∀ actor c c' s s', Actor.call? actor = some c → c' ≠ c → ok actor s s' →
    G c s s' → R c' s s'
  environment : ∀ c s s', ok .env s s' → R c s s'
  invariant : ∀ actor c s s', Actor.call? actor = some c → ok actor s s' → Inv s → G c s s' → Inv s'
  invariant_env : ∀ s s', ok .env s s' → Inv s → Inv s'
  stable : ∀ c s s', untouched c s → R c s s' → untouched c s'
  triple : ∀ c s s', untouched c s → ok (.start c) s s' → (prog c).RGStart (R c) (G c) (Q c) s

/-- The invariant of a pool of calls that are started once. -/
structure HoldsApart (R : κ → Rely σ) (G : κ → σ → σ → Prop) (Q : κ → Except ε α → σ → Prop)
    (Inv : σ → Prop) (untouched : κ → σ → Prop) (P : Pool κ σ ε α) : Prop where
  inv : Inv P.state
  triples : ∀ thread ∈ P.threads, thread.2.RG (R thread.1) (G thread.1) (Q thread.1) P.state
  others : ∀ c, c ∉ P.calls → untouched c P.state

section Apart

variable {R : κ → Rely σ} {untouched : κ → σ → Prop}

theorem HoldsApart.idle {s : σ} (h : Inv s) (hothers : ∀ c, untouched c s) :
    HoldsApart R G Q Inv untouched (idle s : Pool κ σ ε α) :=
  ⟨h, fun _ hmem => absurd hmem List.not_mem_nil, fun c _ => hothers c⟩

/-- An action of a call keeps the triples of the other calls, and every call that has not been
started untouched. -/
theorem HoldsApart.action {P : Pool κ σ ε α} {actor : Actor κ} {c : κ} {s' : σ}
    (hs : Apart prog ok R G Q Inv untouched) (h : HoldsApart R G Q Inv untouched P)
    (hcall : Actor.call? actor = some c) (hok : ok actor P.state s')
    (hg : s' = P.state ∨ G c P.state s') :
    Inv s' ∧ ∀ c', c' ≠ c → R c' P.state s' := by
  rcases hg with rfl | hg
  · exact ⟨h.inv, fun c' _ => (R c').refl _⟩
  · exact ⟨hs.invariant actor c _ _ hcall hok h.inv hg,
      fun c' hne => hs.guarantee actor c c' _ _ hcall hne hok hg⟩

theorem HoldsApart.step {P P' : Pool κ σ ε α} {actor : Actor κ}
    (hs : Apart prog ok R G Q Inv untouched) (h : HoldsApart R G Q Inv untouched P)
    (hstep : Step prog P actor P') (hok : ok actor P.state P'.state) (hnodup : P'.calls.Nodup) :
    HoldsApart R G Q Inv untouched P' := by
  cases hstep with
  | @start threads call p s s' hm =>
    have hfresh : call ∉ threads.map Prod.fst := not_mem_of_nodup_start hnodup
    have hstart := (hs.triple call s s' (h.others call hfresh) hok).of_moves hm
    obtain ⟨hinv, hrely⟩ := h.action hs rfl hok hstart.2
    refine ⟨hinv, ?_, ?_⟩
    · intro thread hmem
      rcases List.mem_append.mp hmem with hold | hnew
      · refine (h.triples thread hold).stable (hrely thread.1 ?_)
        rintro rfl
        exact hfresh (List.mem_map_of_mem hold)
      · obtain rfl := List.mem_singleton.mp hnew
        exact hstart.1
    · intro c hc
      simp only [calls, List.map_append, List.map_cons, List.map_nil, List.mem_append,
        List.mem_singleton, not_or] at hc
      exact hs.stable c s s' (h.others c hc.1) (hrely c hc.2)
  | @move before after call p p' s s' hm =>
    have hmove := (h.triples (call, p) (by simp)).of_moves hm
    obtain ⟨hinv, hrely⟩ := h.action hs rfl hok hmove.2
    -- the call that moved occurs once, so every other thread is another call
    simp only [calls, List.map_append, List.map_cons, List.nodup_append, List.nodup_cons,
      List.mem_map, Prod.exists, exists_and_right, exists_eq_right, List.mem_cons] at hnodup
    refine ⟨hinv, ?_, ?_⟩
    · intro thread hmem
      rcases List.mem_append.mp hmem with hold | hmem
      · refine (h.triples thread (by simp [hold])).stable (hrely thread.1 ?_)
        exact hnodup.2.2 thread.1 ⟨thread.2, hold⟩ call (Or.inl rfl)
      · rcases List.mem_cons.mp hmem with rfl | hold
        · exact hmove.1
        · refine (h.triples thread (by simp [hold])).stable (hrely thread.1 ?_)
          obtain ⟨call', q⟩ := thread
          rintro rfl
          exact hnodup.2.1.1 ⟨q, hold⟩
    · intro c hc
      have hc' : c ∉ calls ⟨before ++ (call, p) :: after, s⟩ := by
        simpa [calls] using hc
      have hne : c ≠ call := by
        rintro rfl
        exact hc (by simp [calls])
      exact hs.stable c s s' (h.others c hc') (hrely c hne)
  | env threads s s' =>
    refine ⟨hs.invariant_env s s' hok h.inv, ?_, ?_⟩
    · intro thread hmem
      exact (h.triples thread hmem).stable (hs.environment _ s s' hok)
    · intro c hc
      exact hs.stable c s s' (h.others c hc) (hs.environment c s s' hok)

/-- In a pool that holds, an action of a call meets the guarantee of that call. -/
theorem HoldsApart.guarantee {P P' : Pool κ σ ε α} {actor : Actor κ} {c : κ}
    (hs : Apart prog ok R G Q Inv untouched) (h : HoldsApart R G Q Inv untouched P)
    (hstep : Step prog P actor P') (hok : ok actor P.state P'.state)
    (hc : Actor.call? actor = some c) (hnodup : P'.calls.Nodup) :
    P'.state = P.state ∨ G c P.state P'.state := by
  cases hstep with
  | start threads call hm =>
    cases hc
    have hfresh : c ∉ threads.map Prod.fst := not_mem_of_nodup_start hnodup
    exact ((hs.triple c _ _ (h.others c hfresh) hok).of_moves hm).2
  | move before after call hm =>
    cases hc
    exact ((h.triples (c, _) (by simp)).of_moves hm).2
  | env => cases hc

/-- **Soundness for calls that are started once.** -/
theorem Apart.holds {s : σ} {P : Pool κ σ ε α} (hs : Apart prog ok R G Q Inv untouched)
    (hinv : Inv s) (hothers : ∀ c, untouched c s) (hr : Reach prog ok (.idle s) P)
    (hnodup : P.calls.Nodup) : HoldsApart R G Q Inv untouched P := by
  induction hr with
  | refl => exact .idle hinv hothers
  | @tail P' P'' actor _ last hok ih =>
    refine (ih ?_).step hs last hok hnodup
    exact hnodup.sublist last.calls_prefix.sublist

end Apart

end Pool

end ChangeOps
