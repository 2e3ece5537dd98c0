import ChangeOps.Lib.Dict

/-!
# ChangeOps.Lib — transactions on a keyed store

A transaction reads and writes a copy of the store. The copy becomes the store when the
transaction returns and is dropped when it raises: `transact_cases` is the whole of atomicity.
Any single access may fail; `Faults` says which ones do.

`Does` forgets the faults: what a transaction that returned has read and written. It is inverted
construct by construct. `Takes`, `Stops` and `Leads` look ahead: how many accesses a transaction makes,
and what it does if none of them fails. `RaisesOnly` bounds what it may raise.
-/

namespace ChangeOps

/-- The exception with which the `n`-th access of a transaction fails, if it does. -/
abbrev Faults (ε : Type) := Nat → Option ε

/-- Where a transaction is: its copy of the store, and how often it has accessed it. -/
structure Session (κ ν : Type) where
  items : Dict κ ν
  accesses : Nat

def Transaction (κ ν ε α : Type) := Faults ε → Session κ ν → Except ε (α × Session κ ν)

namespace Transaction

variable {κ ν ε α β : Type}

instance : Monad (Transaction κ ν ε) where
  pure a := fun _ s => .ok (a, s)
  bind p f := fun faults s =>
    match p faults s with
    | .ok (a, s') => f a faults s'
    | .error e => .error e

def raise (e : ε) : Transaction κ ν ε α := fun _ _ => .error e

def ofExcept : Except ε α → Transaction κ ν ε α
  | .ok a => pure a
  | .error e => raise e

/-- An access that may fail. -/
def access (f : Dict κ ν → α × Dict κ ν) : Transaction κ ν ε α := fun faults s =>
  match faults s.accesses with
  | some e => .error e
  | none => .ok ((f s.items).1, ⟨(f s.items).2, s.accesses + 1⟩)

section Access

variable [DecidableEq κ]

def get (key : κ) : Transaction κ ν ε (Option ν) := access fun items => (items.get? key, items)

def put (key : κ) (value : ν) : Transaction κ ν ε Unit :=
  access fun items => ((), items.set key value)

end Access

/-- Run a transaction: all of its writes, or none. -/
def transact (p : Transaction κ ν ε α) (faults : Faults ε) (items : Dict κ ν) :
    Except ε α × Dict κ ν :=
  match p faults ⟨items, 0⟩ with
  | .ok (a, s) => (.ok a, s.items)
  | .error e => (.error e, items)

theorem bind_apply (p : Transaction κ ν ε α) (f : α → Transaction κ ν ε β) (faults : Faults ε)
    (s : Session κ ν) :
    (p >>= f) faults s = (p faults s).bind fun result => f result.1 faults result.2 := by
  change (match p faults s with
    | .ok (a, s') => f a faults s'
    | .error e => .error e) = _
  cases p faults s <;> rfl

/-! ## What a transaction has done -/

/-- With some faults the transaction can return `a` and turn `items` into `items'`. -/
def Does (p : Transaction κ ν ε α) (items : Dict κ ν) (a : α) (items' : Dict κ ν) : Prop :=
  ∃ faults n n', p faults ⟨items, n⟩ = .ok (a, ⟨items', n'⟩)

/-- **Atomicity.** A transaction raises and changes nothing, or returns what it has done. -/
theorem transact_cases (p : Transaction κ ν ε α) (faults : Faults ε) (items : Dict κ ν) :
    (∃ e, p.transact faults items = (.error e, items)) ∨
      ∃ a items', p.transact faults items = (.ok a, items') ∧ p.Does items a items' := by
  unfold transact
  cases h : p faults ⟨items, 0⟩ with
  | error e => exact .inl ⟨e, rfl⟩
  | ok result =>
    obtain ⟨a, items', n'⟩ := result
    exact .inr ⟨a, items', rfl, faults, 0, n', h⟩

namespace Does

variable {items items' : Dict κ ν}

theorem bind_inv {p : Transaction κ ν ε α} {f : α → Transaction κ ν ε β} {b : β}
    (h : (p >>= f).Does items b items') :
    ∃ a middle, p.Does items a middle ∧ (f a).Does middle b items' := by
  obtain ⟨faults, n, n', h⟩ := h
  rw [bind_apply] at h
  cases hp : p faults ⟨items, n⟩ with
  | error e =>
    rw [hp] at h
    cases h
  | ok result =>
    obtain ⟨a, middle, m⟩ := result
    rw [hp] at h
    exact ⟨a, middle, ⟨faults, n, m, hp⟩, ⟨faults, m, n', h⟩⟩

theorem pure_inv {a b : α} (h : (pure a : Transaction κ ν ε α).Does items b items') :
    b = a ∧ items' = items := by
  obtain ⟨faults, n, n', h⟩ := h
  cases h
  exact ⟨rfl, rfl⟩

theorem raise_inv {e : ε} {a : α} (h : (raise e : Transaction κ ν ε α).Does items a items') :
    False := by
  obtain ⟨faults, n, n', h⟩ := h
  cases h

theorem ofExcept_inv {r : Except ε α} {a : α}
    (h : (ofExcept r : Transaction κ ν ε α).Does items a items') : r = .ok a ∧ items' = items := by
  cases r with
  | error e => exact h.raise_inv.elim
  | ok b =>
    obtain ⟨rfl, rfl⟩ := h.pure_inv
    exact ⟨rfl, rfl⟩

theorem ofExcept_bind_inv {r : Except ε α} {f : α → Transaction κ ν ε β} {b : β}
    (h : (ofExcept r >>= f).Does items b items') : ∃ a, r = .ok a ∧ (f a).Does items b items' := by
  obtain ⟨a, middle, hr, hf⟩ := h.bind_inv
  obtain ⟨hok, rfl⟩ := hr.ofExcept_inv
  exact ⟨a, hok, hf⟩

theorem access_inv {f : Dict κ ν → α × Dict κ ν} {a : α}
    (h : (access f : Transaction κ ν ε α).Does items a items') : f items = (a, items') := by
  obtain ⟨faults, n, n', h⟩ := h
  unfold access at h
  split at h
  · cases h
  · cases h
    rfl

variable [DecidableEq κ]

theorem get_bind_inv {key : κ} {f : Option ν → Transaction κ ν ε β} {b : β}
    (h : (get key >>= f).Does items b items') : (f (items.get? key)).Does items b items' := by
  obtain ⟨value, middle, hget, hf⟩ := h.bind_inv
  cases hget.access_inv
  exact hf

theorem put_inv {key : κ} {value : ν} {u : Unit}
    (h : (put key value : Transaction κ ν ε Unit).Does items u items') :
    items' = items.set key value := by
  cases h.access_inv
  rfl

theorem put_bind_inv {key : κ} {value : ν} {f : Unit → Transaction κ ν ε β} {b : β}
    (h : (put key value >>= f).Does items b items') :
    (f ()).Does (items.set key value) b items' := by
  obtain ⟨u, middle, hput, hf⟩ := h.bind_inv
  rw [← hput.put_inv]
  exact hf

end Does

/-! ## What a transaction will do -/

/-- The first failure among the `n` accesses from the `m`-th on. -/
def firstFault (faults : Faults ε) : Nat → Nat → Option ε
  | _, 0 => none
  | m, n + 1 => (faults m).or (firstFault faults (m + 1) n)

theorem firstFault_add (faults : Faults ε) (m n k : Nat) :
    firstFault faults m (n + k) = (firstFault faults m n).or (firstFault faults (m + n) k) := by
  induction n generalizing m with
  | zero =>
    rw [Nat.zero_add]
    rfl
  | succ n ih =>
    rw [Nat.add_right_comm, firstFault, firstFault, ih, Option.or_assoc, Nat.add_right_comm m 1 n]
    rfl

theorem firstFault_none (m n : Nat) : firstFault (fun _ => none : Faults ε) m n = none := by
  induction n generalizing m with
  | zero => rfl
  | succ n ih => exact ih (m + 1)

/-- On `items` the transaction makes `n` accesses; unless one of them fails it returns `a` and
leaves `items'`. -/
def Takes (p : Transaction κ ν ε α) (items : Dict κ ν) (n : Nat) (a : α) (items' : Dict κ ν) :
    Prop :=
  ∀ faults m, p faults ⟨items, m⟩ =
    (firstFault faults m n).elim (.ok (a, ⟨items', m + n⟩)) .error

/-- On `items` the transaction makes `n` accesses and, unless one of them fails, goes on as `q` on
`items'`. -/
def Leads (p : Transaction κ ν ε α) (items : Dict κ ν) (n : Nat) (q : Transaction κ ν ε α)
    (items' : Dict κ ν) : Prop :=
  ∀ faults m, p faults ⟨items, m⟩ = (firstFault faults m n).elim (q faults ⟨items', m + n⟩) .error

/-- On `items` the transaction makes `n` accesses and raises `e`, unless one of them fails. -/
def Stops (p : Transaction κ ν ε α) (items : Dict κ ν) (n : Nat) (e : ε) : Prop :=
  ∀ faults m, p faults ⟨items, m⟩ = .error ((firstFault faults m n).getD e)

/-- On `items` the transaction raises only what `P` says, and what an access fails with. -/
def RaisesOnly (P : ε → Prop) (p : Transaction κ ν ε α) (items : Dict κ ν) : Prop :=
  ∀ faults m e, p faults ⟨items, m⟩ = .error e → P e ∨ ∃ n, faults n = some e

namespace Takes

variable {items items' items'' : Dict κ ν} {n k : Nat}

theorem pure (a : α) : Takes (Pure.pure a : Transaction κ ν ε α) items 0 a items :=
  fun _ _ => rfl

theorem ofExcept {r : Except ε α} {a : α} (h : r = .ok a) :
    Takes (Transaction.ofExcept r : Transaction κ ν ε α) items 0 a items := by
  rw [h]
  exact Takes.pure a

theorem bind {p : Transaction κ ν ε α} {f : α → Transaction κ ν ε β} {a : α} {b : β}
    (hp : p.Takes items n a items') (hf : (f a).Takes items' k b items'') :
    (p >>= f).Takes items (n + k) b items'' := by
  intro faults m
  rw [bind_apply, hp, firstFault_add]
  cases firstFault faults m n with
  | some e => rfl
  | none =>
    show f a faults ⟨items', m + n⟩ = _
    rw [hf, Option.none_or, Nat.add_assoc]

theorem access (f : Dict κ ν → α × Dict κ ν) :
    Takes (Transaction.access f : Transaction κ ν ε α) items 1 (f items).1 (f items).2 := by
  intro faults m
  unfold Transaction.access firstFault firstFault
  cases faults m <;> rfl

section Access

variable [DecidableEq κ]

theorem get (key : κ) :
    Takes (Transaction.get key : Transaction κ ν ε (Option ν)) items 1 (items.get? key) items :=
  Takes.access _

theorem put (key : κ) (value : ν) :
    Takes (Transaction.put key value : Transaction κ ν ε Unit) items 1 () (items.set key value) :=
  Takes.access _

end Access

/-- The transaction commits, unless one of its accesses fails. -/
theorem transact {p : Transaction κ ν ε α} {a : α} (h : p.Takes items n a items')
    (faults : Faults ε) :
    p.transact faults items =
      (firstFault faults 0 n).elim (.ok a, items') fun e => (.error e, items) := by
  unfold Transaction.transact
  rw [h]
  cases firstFault faults 0 n <;> rfl

end Takes

/-- On `items` the transaction returns, unless one of its accesses fails. -/
def Completes (p : Transaction κ ν ε α) (items : Dict κ ν) : Prop :=
  ∃ n a items', p.Takes items n a items'

namespace Completes

variable {items items' : Dict κ ν} {n : Nat}

theorem pure (a : α) : Completes (Pure.pure a : Transaction κ ν ε α) items :=
  ⟨0, a, items, Takes.pure a⟩

theorem bind {p : Transaction κ ν ε α} {f : α → Transaction κ ν ε β} {a : α}
    (hp : p.Takes items n a items') (hf : (f a).Completes items') : (p >>= f).Completes items := by
  obtain ⟨k, b, items'', hf⟩ := hf
  exact ⟨n + k, b, items'', hp.bind hf⟩

theorem exists_ok {p : Transaction κ ν ε α} (h : p.Completes items) :
    ∃ a, (p.transact (fun _ => none) items).1 = .ok a := by
  obtain ⟨n, a, items', h⟩ := h
  refine ⟨a, ?_⟩
  rw [h.transact, firstFault_none]
  rfl

end Completes

namespace Stops

variable {items items' : Dict κ ν} {n k : Nat} {e : ε}

theorem raise (e : ε) : Stops (Transaction.raise e : Transaction κ ν ε α) items 0 e :=
  fun _ _ => rfl

theorem ofExcept {r : Except ε α} (h : r = .error e) :
    Stops (Transaction.ofExcept r : Transaction κ ν ε α) items 0 e := by
  rw [h]
  exact raise e

theorem bind {p : Transaction κ ν ε α} {f : α → Transaction κ ν ε β} {a : α}
    (hp : p.Takes items n a items') (hf : (f a).Stops items' k e) : (p >>= f).Stops items (n + k) e := by
  intro faults m
  rw [bind_apply, hp, firstFault_add]
  cases firstFault faults m n with
  | some fault => rfl
  | none =>
    show f a faults ⟨items', m + n⟩ = _
    rw [hf, Option.none_or]

theorem bind_left {p : Transaction κ ν ε α} (hp : p.Stops items n e)
    (f : α → Transaction κ ν ε β) : (p >>= f).Stops items n e := by
  intro faults m
  rw [bind_apply, hp]
  rfl

theorem transact {p : Transaction κ ν ε α} (h : p.Stops items n e) (faults : Faults ε) :
    p.transact faults items = (.error ((firstFault faults 0 n).getD e), items) := by
  unfold Transaction.transact
  rw [h]

end Stops

namespace Leads

variable {items items' items'' : Dict κ ν} {n k : Nat}

theorem refl (p : Transaction κ ν ε α) : p.Leads items 0 p items := fun _ _ => rfl

theorem bind {p : Transaction κ ν ε α} {f : α → Transaction κ ν ε β} {a : α}
    {q : Transaction κ ν ε β} (hp : p.Takes items n a items') (hf : (f a).Leads items' k q items'') :
    (p >>= f).Leads items (n + k) q items'' := by
  intro faults m
  rw [bind_apply, hp, firstFault_add]
  cases firstFault faults m n with
  | some e => rfl
  | none =>
    show f a faults ⟨items', m + n⟩ = _
    rw [hf, Option.none_or, Nat.add_assoc]

theorem takes {p q : Transaction κ ν ε α} {a : α} (h : p.Leads items n q items')
    (hq : q.Takes items' k a items'') : p.Takes items (n + k) a items'' := by
  intro faults m
  rw [h, firstFault_add]
  cases firstFault faults m n with
  | some e => rfl
  | none =>
    show q faults ⟨items', m + n⟩ = _
    rw [hq, Option.none_or, Nat.add_assoc]

theorem stops {p q : Transaction κ ν ε α} {e : ε} (h : p.Leads items n q items')
    (hq : q.Stops items' k e) : p.Stops items (n + k) e := by
  intro faults m
  rw [h, firstFault_add]
  cases firstFault faults m n with
  | some e => rfl
  | none =>
    show q faults ⟨items', m + n⟩ = _
    rw [hq, Option.none_or]

end Leads

/-! ## What a transaction may raise -/

/-- The first failure is one of them. -/
theorem exists_of_firstFault {faults : Faults ε} {m n : Nat} {e : ε}
    (h : firstFault faults m n = some e) : ∃ k, faults k = some e := by
  induction n generalizing m with
  | zero => cases h
  | succ n ih =>
    rw [firstFault, Option.or_eq_some_iff] at h
    rcases h with h | ⟨-, h⟩
    · exact ⟨m, h⟩
    · exact ih h

namespace RaisesOnly

variable {P : ε → Prop} {items items' : Dict κ ν} {n : Nat}

theorem of_takes {p : Transaction κ ν ε α} {a : α} (hp : p.Takes items n a items') :
    p.RaisesOnly P items := by
  intro faults m e hraise
  rw [hp] at hraise
  cases hfault : firstFault faults m n with
  | none =>
    rw [hfault] at hraise
    cases hraise
  | some fault =>
    rw [hfault] at hraise
    cases hraise
    exact .inr (exists_of_firstFault hfault)

theorem of_stops {p : Transaction κ ν ε α} {e : ε} (hp : p.Stops items n e) (h : P e) :
    p.RaisesOnly P items := by
  intro faults m e' hraise
  rw [hp] at hraise
  cases hfault : firstFault faults m n with
  | none =>
    rw [hfault] at hraise
    cases hraise
    exact .inl h
  | some fault =>
    rw [hfault] at hraise
    cases hraise
    exact .inr (exists_of_firstFault hfault)

theorem raise {e : ε} (h : P e) :
    RaisesOnly P (Transaction.raise e : Transaction κ ν ε α) items :=
  of_stops (Stops.raise e) h

theorem pure (a : α) : RaisesOnly P (Pure.pure a : Transaction κ ν ε α) items :=
  of_takes (Takes.pure a)

theorem bind {p : Transaction κ ν ε α} {f : α → Transaction κ ν ε β} {a : α}
    (hp : p.Takes items n a items') (hf : (f a).RaisesOnly P items') : (p >>= f).RaisesOnly P items := by
  intro faults m e hraise
  rw [bind_apply, hp] at hraise
  cases hfault : firstFault faults m n with
  | none =>
    rw [hfault] at hraise
    exact hf faults _ e hraise
  | some fault =>
    rw [hfault] at hraise
    cases hraise
    exact .inr (exists_of_firstFault hfault)

theorem transact {p : Transaction κ ν ε α} (h : p.RaisesOnly P items) {faults : Faults ε} {e : ε}
    (hraise : (p.transact faults items).1 = .error e) : P e ∨ ∃ n, faults n = some e := by
  unfold Transaction.transact at hraise
  cases hrun : p faults ⟨items, 0⟩ with
  | ok result =>
    rw [hrun] at hraise
    cases hraise
  | error e' =>
    rw [hrun] at hraise
    cases hraise
    exact h faults 0 e hrun

end RaisesOnly

end Transaction

end ChangeOps
