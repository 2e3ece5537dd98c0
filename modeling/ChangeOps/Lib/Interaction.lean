import ChangeOps.Lib.Dict

/-!
# ChangeOps.Lib — interactive programs on a keyed store

An `Interaction` reads and writes a keyed store; what it does next depends on what it has read. It
says nothing about how its accesses are served: a `Server` does, on a state of its own.

Two servers that answer alike on related states, and relate the states after a write, cannot be told
apart by any interaction that keeps to keys on which they do (`Interaction.run_alike`). The two servers that a transaction may have
are a copy of the store and a buffer of writes over it; `Dict.get?_setAll` is what relates them.
-/

namespace ChangeOps

/-! ## Interactions -/

/-- A data-dependent sequence of reads and writes that ends in a return or a raise. -/
inductive Interaction (κ ν ε α : Type) where
  | ret (a : α)
  | raise (e : ε)
  | get (key : κ) (next : Option ν → Interaction κ ν ε α)
  | put (key : κ) (value : ν) (next : Interaction κ ν ε α)

/-- What serves the accesses; a read may fail. -/
structure Server (κ ν ε σ : Type) where
  get : σ → κ → Except ε (Option ν)
  put : σ → κ → ν → σ

/-- How an interaction went: the values its reads got, and its end. -/
structure Interaction.Course (ν ε α σ : Type) where
  answers : List (Option ν)
  outcome : Except ε (α × σ)

namespace Interaction

variable {κ ν ε α σ τ : Type}

def run (server : Server κ ν ε σ) (s : σ) : Interaction κ ν ε α → Course ν ε α σ
  | ret a => ⟨[], .ok (a, s)⟩
  | raise e => ⟨[], .error e⟩
  | get key next =>
      match server.get s key with
      | .error e => ⟨[], .error e⟩
      | .ok value => { run server s (next value) with
          answers := value :: (run server s (next value)).answers }
  | put key value next => run server (server.put s key value) next

/-- Every access of the run is to one of these keys. -/
def Keeps (server : Server κ ν ε σ) (P : κ → Prop) (s : σ) : Interaction κ ν ε α → Prop
  | ret _ => True
  | raise _ => True
  | get key next => P key ∧ ∀ value, server.get s key = .ok value → Keeps server P s (next value)
  | put key value next => P key ∧ Keeps server P (server.put s key value) next

end Interaction

/-! ## Servers that cannot be told apart -/

section Alike

variable {κ ν ε α σ τ : Type}

/-- On these keys, related states answer alike and stay related. -/
structure Server.Alike (server : Server κ ν ε σ) (server' : Server κ ν ε τ) (P : κ → Prop)
    (Related : σ → τ → Prop) : Prop where
  get : ∀ {s t}, Related s t → ∀ key, P key → server.get s key = server'.get t key
  put : ∀ {s t}, Related s t → ∀ key value, P key →
    Related (server.put s key value) (server'.put t key value)

/-- The same exception, or the same result and related states. -/
inductive SameEnd (Related : σ → τ → Prop) : Except ε (α × σ) → Except ε (α × τ) → Prop where
  | raised (e : ε) : SameEnd Related (.error e) (.error e)
  | returned (a : α) {s : σ} {t : τ} (h : Related s t) : SameEnd Related (.ok (a, s)) (.ok (a, t))

/-- No interaction that keeps to these keys tells the servers apart. -/
theorem Interaction.run_alike {server : Server κ ν ε σ} {server' : Server κ ν ε τ} {P : κ → Prop}
    {Related : σ → τ → Prop} (halike : server.Alike server' P Related)
    (interaction : Interaction κ ν ε α) {s : σ} {t : τ} (hkeeps : interaction.Keeps server P s)
    (h : Related s t) :
    (interaction.run server s).answers = (interaction.run server' t).answers ∧
      SameEnd Related (interaction.run server s).outcome (interaction.run server' t).outcome := by
  induction interaction generalizing s t with
  | ret a => exact ⟨rfl, .returned a h⟩
  | raise e => exact ⟨rfl, .raised e⟩
  | get key next ih =>
    obtain ⟨hkey, hnext⟩ := hkeeps
    have hget := halike.get h key hkey
    unfold run
    rw [← hget]
    cases hvalue : server.get s key with
    | error e => exact ⟨rfl, .raised e⟩
    | ok value =>
      obtain ⟨hanswers, hend⟩ := ih value (hnext value hvalue) h
      exact ⟨congrArg (value :: ·) hanswers, hend⟩
  | put key value next ih => exact ih hkeeps.2 (halike.put h key value hkeeps.1)

end Alike

/-! ## Writes that are made later -/

namespace Dict

variable {κ ν : Type} [DecidableEq κ]

/-- Set one key after the other. -/
def setAll (d : Dict κ ν) (sets : List (κ × ν)) : Dict κ ν :=
  sets.foldl (fun d entry => d.set entry.1 entry.2) d

/-- Where no key is set twice, the order does not matter to what is read. -/
theorem get?_setAll {sets : List (κ × ν)} (hnodup : (sets.map Prod.fst).Nodup) (d : Dict κ ν)
    (key : κ) : (d.setAll sets).get? key = (find key sets).or (d.get? key) := by
  induction sets generalizing d with
  | nil => rfl
  | cons entry rest ih =>
    obtain ⟨key', value⟩ := entry
    rw [List.map_cons, List.nodup_cons] at hnodup
    show ((d.set key' value).setAll rest).get? key = _
    rw [ih hnodup.2, find]
    by_cases hkey : key' = key
    · subst hkey
      have hnone : find key' rest = none := by
        cases hfind : find key' rest with
        | none => rfl
        | some _ => exact absurd (List.mem_map_of_mem (mem_of_find hfind)) hnodup.1
      rw [hnone, if_pos rfl, get?_set_self]
      rfl
    · rw [if_neg hkey, get?_set_ne _ _ (Ne.symm hkey)]

/-- The writes of a dictionary win over what was there. -/
theorem get?_setAll_entries (d writes : Dict κ ν) (key : κ) :
    (d.setAll writes.entries).get? key = (writes.get? key).or (d.get? key) :=
  get?_setAll writes.nodup d key

end Dict

end ChangeOps
