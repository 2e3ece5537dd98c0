import Mathlib.Data.List.Chain
import Mathlib.Data.List.Nodup
import Mathlib.Logic.Relation
import Mathlib.Algebra.Order.BigOperators.Group.List
import Mathlib.Algebra.Order.Ring.Nat
import Mathlib.Order.Monotone.Basic

/-!
# ChangeOps.Lib — paths of a graph, from a work list

A graph is given by the children of each node. `loop` takes a path from the front of a queue,
records it when it cannot be continued, and queues every continuation that repeats no node. What it
returns is the set of the paths that grow from the queue and end in a node without children
(`mem_loop`); on a finite graph some number of rounds is enough (`loop_isSome`), however many cycles
it has.
-/

namespace ChangeOps

namespace Walks

variable {α : Type} (children : α → List α)

/-- Follow an edge of the graph. -/
def Edge (a b : α) : Prop := b ∈ children a

/-- A path that follows edges and repeats no node. -/
structure Route (source : α) (path : List α) : Prop where
  starts : path.head? = some source
  follows : path.IsChain (Edge children)
  nodup : path.Nodup

/-! ## The loop -/

/-- A path that is recorded: it has two nodes at least and its last one has no children. -/
def recorded (path : List α) : List (List α) :=
  match path.getLast? with
  | none => []
  | some last => if children last = [] ∧ 1 < path.length then [path] else []

/-- The continuations of a path by a node that is not on it. -/
def extensions [DecidableEq α] (path : List α) : List (List α) :=
  match path.getLast? with
  | none => []
  | some last => ((children last).filter (· ∉ path)).map fun child => path ++ [child]

/-- The loop over the queue, for a number of rounds. -/
def loop [DecidableEq α] : Nat → List (List α) → List (List α) → Option (List (List α))
  | _, [], paths => some paths
  | 0, _ :: _, _ => none
  | n + 1, path :: queue, paths =>
      loop n (queue ++ extensions children path) (paths ++ recorded children path)

/-! ## What it returns -/

/-- A path and its continuations. -/
inductive Grows : List α → List α → Prop where
  | refl (path : List α) : Grows path path
  | extend {path path' : List α} {last child : α} (hlast : path.getLast? = some last)
      (hchild : child ∈ children last) (hnew : child ∉ path) (rest : Grows (path ++ [child]) path') :
      Grows path path'

/-- A path that cannot be continued. -/
def Ended (path : List α) : Prop :=
  ∃ last, path.getLast? = some last ∧ children last = [] ∧ 1 < path.length

variable {children}

theorem mem_extensions [DecidableEq α] {path next : List α} : next ∈ extensions children path ↔
    ∃ last child, path.getLast? = some last ∧ child ∈ children last ∧ child ∉ path ∧
      next = path ++ [child] := by
  unfold extensions
  cases path.getLast? with
  | none => simp
  | some last =>
    simp only [List.mem_map, List.mem_filter, decide_eq_true_eq, Option.some.injEq]
    constructor
    · rintro ⟨child, ⟨hchild, hnew⟩, rfl⟩
      exact ⟨last, child, rfl, hchild, hnew, rfl⟩
    · rintro ⟨_, child, rfl, hchild, hnew, rfl⟩
      exact ⟨child, ⟨hchild, hnew⟩, rfl⟩

theorem mem_recorded {path path' : List α} :
    path' ∈ recorded children path ↔ path' = path ∧ Ended children path := by
  unfold recorded Ended
  cases path.getLast? with
  | none => simp
  | some last =>
    simp only [Option.some.injEq, exists_eq_left']
    split_ifs with h
    · simp [h]
    · simp [h]

/-- A path grows into itself, or one of its continuations does. -/
theorem grows_iff [DecidableEq α] {path path' : List α} : Grows children path path' ↔
    path' = path ∨ ∃ next ∈ extensions children path, Grows children next path' := by
  constructor
  · intro h
    cases h with
    | refl => exact .inl rfl
    | extend hlast hchild hnew rest =>
      exact .inr ⟨_, mem_extensions.mpr ⟨_, _, hlast, hchild, hnew, rfl⟩, rest⟩
  · rintro (rfl | ⟨next, hnext, hgrows⟩)
    · exact .refl _
    · obtain ⟨last, child, hlast, hchild, hnew, rfl⟩ := mem_extensions.mp hnext
      exact .extend hlast hchild hnew hgrows

/-- **What the loop returns**: the paths it had, and those that grow from the queue and cannot be
continued. -/
theorem mem_loop [DecidableEq α] {rounds : Nat} {queue paths result : List (List α)}
    (h : loop children rounds queue paths = some result) (path' : List α) :
    path' ∈ result ↔
      path' ∈ paths ∨ ∃ path ∈ queue, Grows children path path' ∧ Ended children path' := by
  induction rounds generalizing queue paths with
  | zero =>
    cases queue with
    | nil =>
      cases h
      simp
    | cons path queue => cases h
  | succ rounds ih =>
    cases queue with
    | nil =>
      cases h
      simp
    | cons path queue =>
      rw [ih h, List.mem_append, mem_recorded]
      constructor
      · rintro ((hold | ⟨rfl, hended⟩) | ⟨next, hnext, hgrows, hended⟩)
        · exact .inl hold
        · exact .inr ⟨_, List.mem_cons_self, .refl _, hended⟩
        · rcases List.mem_append.mp hnext with hqueued | hextends
          · exact .inr ⟨next, List.mem_cons_of_mem _ hqueued, hgrows, hended⟩
          · exact .inr ⟨path, List.mem_cons_self, grows_iff.mpr (.inr ⟨next, hextends, hgrows⟩), hended⟩
      · rintro (hold | ⟨start, hstart, hgrows, hended⟩)
        · exact .inl (.inl hold)
        · rcases List.mem_cons.mp hstart with rfl | hqueued
          · -- the path itself is recorded, a longer one is found in a later round
            rcases grows_iff.mp hgrows with rfl | ⟨next, hnext, hrest⟩
            · exact .inl (.inr ⟨rfl, hended⟩)
            · exact .inr ⟨next, List.mem_append_right _ hnext, hrest, hended⟩
          · exact .inr ⟨start, List.mem_append_left _ hqueued, hgrows, hended⟩

/-! ### Routes -/

theorem Route.snoc {source last child : α} {path : List α} (h : Route children source path)
    (hlast : path.getLast? = some last) (hchild : child ∈ children last) (hnew : child ∉ path) :
    Route children source (path ++ [child]) where
  starts := by
    rw [List.head?_append, h.starts]
    rfl
  follows := by
    rw [List.isChain_append]
    refine ⟨h.follows, List.isChain_singleton _, ?_⟩
    intro a ha b hb
    rw [hlast] at ha
    cases ha
    cases hb
    exact hchild
  nodup := by
    rw [List.nodup_append]
    refine ⟨h.nodup, List.nodup_singleton _, ?_⟩
    rintro a ha b hb rfl
    exact hnew (List.mem_singleton.mp hb ▸ ha)

theorem Grows.route {source : α} {path path' : List α} (h : Grows children path path')
    (hroute : Route children source path) : Route children source path' := by
  induction h with
  | refl => exact hroute
  | extend hlast hchild hnew _ ih => exact ih (hroute.snoc hlast hchild hnew)

/-- A path grows into every route that it is the beginning of. -/
theorem grows_append {path rest : List α} (hne : path ≠ [])
    (hfollows : (path ++ rest).IsChain (Edge children)) (hnodup : (path ++ rest).Nodup) :
    Grows children path (path ++ rest) := by
  induction rest generalizing path with
  | nil =>
    rw [List.append_nil]
    exact .refl path
  | cons child rest ih =>
    have hlast : path.getLast? = some (path.getLast hne) := List.getLast?_eq_some_getLast hne
    have hchild : child ∈ children (path.getLast hne) :=
      (List.isChain_append.mp hfollows).2.2 _ hlast _ rfl
    have hnew : child ∉ path := fun hmem =>
      (List.nodup_append.mp hnodup).2.2 child hmem child List.mem_cons_self rfl
    have hassoc : path ++ child :: rest = (path ++ [child]) ++ rest := by simp
    rw [hassoc] at hfollows hnodup ⊢
    exact .extend hlast hchild hnew (ih (by simp) hfollows hnodup)

/-- What grows from a node are the routes from it. -/
theorem grows_singleton_iff {source : α} {path : List α} :
    Grows children [source] path ↔ Route children source path := by
  constructor
  · intro h
    exact h.route ⟨rfl, List.isChain_singleton _, List.nodup_singleton _⟩
  · intro h
    obtain ⟨rest, rfl⟩ : ∃ rest, path = source :: rest := by
      cases path with
      | nil => cases h.starts
      | cons a rest =>
        cases h.starts
        exact ⟨rest, rfl⟩
    have hgrows : Grows children [source] ([source] ++ rest) :=
      grows_append (List.cons_ne_nil _ _) h.follows h.nodup
    exact hgrows

/-! ## How long it takes -/

section Rounds

variable [DecidableEq α]

/-- The graph is finite: where its edges lead to, and how many a node has. -/
structure Finite (children : α → List α) (nodes : List α) (degree : Nat) : Prop where
  targets : ∀ a, children a ⊆ nodes
  length_le : ∀ a, (children a).length ≤ degree

/-- How many nodes are not on a path yet. -/
def remaining (nodes path : List α) : Nat := (nodes.filter (· ∉ path)).length

/-- The rounds that a path is good for, by the number of nodes that are not on it. -/
def weight (degree : Nat) : Nat → Nat
  | 0 => 1
  | n + 1 => 1 + degree * weight degree n

/-- The rounds that a queue is good for. -/
def rounds (nodes : List α) (degree : Nat) (queue : List (List α)) : Nat :=
  (queue.map fun path => weight degree (remaining nodes path)).sum

theorem remaining_snoc_lt {nodes path : List α} {child : α} (hnode : child ∈ nodes)
    (hnew : child ∉ path) : remaining nodes (path ++ [child]) < remaining nodes path := by
  have hfilter : nodes.filter (· ∉ path ++ [child]) =
      (nodes.filter (· ∉ path)).filter (· ≠ child) := by
    rw [List.filter_filter]
    apply List.filter_congr
    intro a _
    simp [not_or, and_comm]
  rw [remaining, hfilter, remaining, List.length_filter_lt_length_iff_exists]
  exact ⟨child, List.mem_filter.mpr ⟨hnode, by simpa using hnew⟩, by simp⟩

theorem weight_mono (degree : Nat) : Monotone (weight degree) := by
  apply monotone_nat_of_le_succ
  intro n
  induction n with
  | zero => exact Nat.le_add_right 1 _
  | succ n ih => exact Nat.add_le_add_left (Nat.mul_le_mul_left degree ih) 1

theorem one_le_weight (degree n : Nat) : 1 ≤ weight degree n := weight_mono degree (Nat.zero_le n)

/-- A round uses up more than it adds. -/
theorem rounds_extensions_lt {nodes : List α} {degree : Nat} (hfinite : Finite children nodes degree)
    (path : List α) :
    rounds nodes degree (extensions children path) < weight degree (remaining nodes path) := by
  have hlength : (extensions children path).length ≤ degree := by
    unfold extensions
    cases path.getLast? with
    | none => exact Nat.zero_le _
    | some last =>
      rw [List.length_map]
      exact (List.length_filter_le _ _).trans (hfinite.length_le last)
  have hfewer : ∀ next ∈ extensions children path, remaining nodes next < remaining nodes path := by
    intro next hnext
    obtain ⟨last, child, -, hchild, hnew, rfl⟩ := mem_extensions.mp hnext
    exact remaining_snoc_lt (hfinite.targets last hchild) hnew
  cases hremaining : remaining nodes path with
  | zero =>
    -- a continuation would have fewer nodes to go
    have hnil : extensions children path = [] := by
      apply List.eq_nil_iff_forall_not_mem.mpr
      intro next hnext
      have hlt := hfewer next hnext
      omega
    rw [hnil]
    exact one_le_weight degree 0
  | succ n =>
    have hbound : ∀ w ∈ (extensions children path).map (fun next => weight degree
        (remaining nodes next)), w ≤ weight degree n := by
      intro w hw
      obtain ⟨next, hnext, rfl⟩ := List.mem_map.mp hw
      have hlt := hfewer next hnext
      exact weight_mono degree (by omega)
    have hsum := List.sum_le_card_nsmul _ _ hbound
    rw [List.length_map, nsmul_eq_mul, Nat.cast_id] at hsum
    calc rounds nodes degree (extensions children path)
        ≤ (extensions children path).length * weight degree n := hsum
      _ ≤ degree * weight degree n := Nat.mul_le_mul_right _ hlength
      _ < weight degree (n + 1) := by
          rw [weight]
          omega

/-- **The loop ends**, on any finite graph. -/
theorem loop_isSome {nodes : List α} {degree : Nat} (hfinite : Finite children nodes degree)
    {n : Nat} {queue : List (List α)} (hrounds : rounds nodes degree queue ≤ n)
    (paths : List (List α)) : (loop children n queue paths).isSome := by
  induction n generalizing queue paths with
  | zero =>
    cases queue with
    | nil => rfl
    | cons path queue =>
      have hone := one_le_weight degree (remaining nodes path)
      simp only [rounds, List.map_cons, List.sum_cons] at hrounds
      omega
  | succ n ih =>
    cases queue with
    | nil => rfl
    | cons path queue =>
      apply ih
      have hlt := rounds_extensions_lt hfinite path
      simp only [rounds, List.map_cons, List.sum_cons, List.map_append, List.sum_append] at hrounds hlt ⊢
      omega

/-! ### One round after another -/

variable (children) in
/-- A round of the loop: the queue and the paths before it and after it. -/
inductive Round : List (List α) × List (List α) → List (List α) × List (List α) → Prop where
  | next (path : List α) (queue paths : List (List α)) :
      Round (path :: queue, paths) (queue ++ extensions children path, paths ++ recorded children path)

/-- There is no infinite run of the loop. -/
theorem acc_round {nodes : List α} {degree : Nat} (hfinite : Finite children nodes degree)
    (state : List (List α) × List (List α)) :
    Acc (fun after before => Round children before after) state := by
  have hwf := (measure fun state : List (List α) × List (List α) => rounds nodes degree state.1).wf
  refine Subrelation.accessible ?_ (hwf.apply state)
  rintro after before ⟨path, queue, paths⟩
  have hlt := rounds_extensions_lt hfinite path
  show rounds nodes degree (queue ++ extensions children path) < rounds nodes degree (path :: queue)
  simp only [rounds, List.map_cons, List.sum_cons, List.map_append, List.sum_append] at hlt ⊢
  omega

/-- The runs to an empty queue are those of `loop`. -/
theorem exists_loop_iff {queue paths result : List (List α)} :
    (∃ n, loop children n queue paths = some result) ↔
      Relation.ReflTransGen (Round children) (queue, paths) ([], result) := by
  constructor
  · rintro ⟨n, h⟩
    induction n generalizing queue paths with
    | zero =>
      cases queue with
      | nil =>
        cases h
        exact .refl
      | cons path queue => cases h
    | succ n ih =>
      cases queue with
      | nil =>
        cases h
        exact .refl
      | cons path queue => exact .head (.next path queue paths) (ih h)
  · intro h
    generalize hstate : (queue, paths) = state at h
    induction h using Relation.ReflTransGen.head_induction_on generalizing queue paths with
    | refl =>
      cases hstate
      exact ⟨0, rfl⟩
    | head hround _ ih =>
      cases hround with
      | next path queue' paths' =>
        cases hstate
        obtain ⟨n, hloop⟩ := ih rfl
        exact ⟨n + 1, hloop⟩

/-- More rounds change nothing. -/
theorem loop_mono {n m : Nat} (hle : n ≤ m) {queue paths result : List (List α)}
    (h : loop children n queue paths = some result) : loop children m queue paths = some result := by
  induction n generalizing m queue paths with
  | zero =>
    cases queue with
    | nil =>
      cases h
      cases m <;> rfl
    | cons path queue => cases h
  | succ n ih =>
    obtain ⟨m, rfl⟩ := Nat.exists_eq_add_of_le' (Nat.zero_lt_of_lt hle)
    cases queue with
    | nil =>
      cases h
      rfl
    | cons path queue => exact ih (Nat.le_of_succ_le_succ hle) h

/-! ## Graphs without cycles -/

omit [DecidableEq α] in
/-- Without cycles a path repeats no node. -/
theorem nodup_of_acyclic {path : List α} (hacyclic : ∀ a, ¬ Relation.TransGen (Edge children) a a)
    (hfollows : path.IsChain (Edge children)) : path.Nodup := by
  have htrans : path.IsChain (Relation.TransGen (Edge children)) :=
    hfollows.imp fun _ _ hedge => .single hedge
  refine htrans.pairwise.imp ?_
  rintro a _ hab rfl
  exact hacyclic a hab

/-- Without cycles every route goes on to a node without children. -/
theorem Route.exists_end {nodes : List α} {degree : Nat} (hfinite : Finite children nodes degree)
    (hacyclic : ∀ a, ¬ Relation.TransGen (Edge children) a a) {source : α} {path : List α}
    (hroute : Route children source path) :
    ∃ rest last, Route children source (path ++ rest) ∧ (path ++ rest).getLast? = some last ∧
      children last = [] := by
  induction hn : remaining nodes path using Nat.strong_induction_on generalizing path with
  | _ n ih =>
    have hne : path ≠ [] := by
      rintro rfl
      cases hroute.starts
    have hlast := List.getLast?_eq_some_getLast hne
    cases hchildren : children (path.getLast hne) with
    | nil => exact ⟨[], path.getLast hne, by simpa using hroute, by simpa using hlast, hchildren⟩
    | cons child others =>
      have hchild : child ∈ children (path.getLast hne) := by
        rw [hchildren]
        exact List.mem_cons_self
      have hnodup : (path ++ [child]).Nodup := by
        refine nodup_of_acyclic hacyclic (List.isChain_append.mpr
          ⟨hroute.follows, List.isChain_singleton _, fun a ha b hb => ?_⟩)
        rw [hlast] at ha
        cases ha
        cases hb
        exact hchild
      have hnew : child ∉ path := fun hmem =>
        (List.nodup_append.mp hnodup).2.2 child hmem child (List.mem_singleton_self _) rfl
      have hfewer := remaining_snoc_lt (hfinite.targets _ hchild) hnew
      obtain ⟨rest, last, hrest, hend, hleaf⟩ :=
        ih _ (hn ▸ hfewer) (hroute.snoc hlast hchild hnew) rfl
      rw [List.append_assoc] at hrest hend
      exact ⟨[child] ++ rest, last, hrest, hend, hleaf⟩

end Rounds

end Walks

end ChangeOps
