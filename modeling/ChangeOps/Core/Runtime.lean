import ChangeOps.Persistence.Memory
import ChangeOps.Lib.Prog

/-!
# ChangeOps.Core — the shared world and its primitive actions

A `World` is everything that concurrent calls of the services share: the change repository,
the readings of the clock and of `uuid4` that have been handed out so far, and the state of
the other components. An `Action` is a resumable program on a world; each access to the
repository, each reading of the clock and each fresh identifier is one atomic action, and
other calls may act in between.
-/

namespace ChangeOps

/-- The sources of time and of identifiers: the `n`-th reading of each. -/
structure Runtime where
  clock : Nat → Time
  uuid4 : Nat → String

/-- A runtime whose clock never goes back and whose identifiers never repeat. -/
structure LawfulRuntime extends Runtime where
  clock_mono : ∀ {m n : Nat}, m ≤ n → clock m ≤ clock n
  uuid4_injective : ∀ {m n : Nat}, uuid4 m = uuid4 n → m = n

/-- The shared state; `rest` is what the change repository knows nothing about. -/
structure World (X : Type) where
  changes : InMemoryChangeStateRepository
  tick : Nat
  uuid : Nat
  rest : X

/-- A resumable program of the services. -/
abbrev Action (X α : Type) := Prog (World X) Exn α

section Primitive

variable {X α : Type}

/-- `self._clock()`. -/
def now (rt : Runtime) : Action X Time :=
  .atomic fun w => (.ok (rt.clock w.tick), { w with tick := w.tick + 1 })

/-- `uuid4().hex`. -/
def uuid4Hex (rt : Runtime) : Action X String :=
  .atomic fun w => (.ok (rt.uuid4 w.uuid), { w with uuid := w.uuid + 1 })

/-- `changes.get(tenant_id, change_id)`. -/
def getChange (tenantId changeId : String) : Action X ChangeRecord :=
  .atomic fun w => (w.changes.get tenantId changeId, w)

/-- A writing method of the change repository. -/
def onChanges (method : InMemoryChangeStateRepository →
    Except Exn α × InMemoryChangeStateRepository) : Action X α :=
  .atomic fun w => ((method w.changes).1, { w with changes := (method w.changes).2 })

end Primitive

end ChangeOps
