import ChangeOps.Core.TransitionLaw
import ChangeOps.Lib.Journal
import ChangeOps.Persistence.AuditTrail
import ChangeOps.Workflow.Models

/-!
# ChangeOps.Core — every transition is audited once

Any number of `transition` calls interleave over the repository. The journal of a run shows what
each call has written: a commit together with its audit event, or the audit event of a refusal,
and nothing else (`AuditedOnce`). So the version of a change counts its commits.

`transition` takes the texts of a call as `AuditEvent` has checked them, which is how the workflow
coordinator calls it; `auditedTransition` checks them.

The audit id of a call is drawn long before it is used, twice if the commit loses a race. Nobody
else writes under it: an id is drawn by one call, and every call writes only under ids of its own
(`Acts`).
-/

namespace ChangeOps

open InMemoryChangeStateRepository

/-! ## The texts of an audit event -/

/-- The texts of a call that its `AuditEvent` checks. -/
def TransitionCall.checked (call : TransitionCall) : Except Exn TransitionCall := do
  let traceId ← nonEmptyStr call.traceId
  let actorId ← nonEmptyStr call.actorId
  let _ ← nonEmptyStr ("changes/" ++ call.changeId)
  return { call with traceId := traceId, actorId := actorId }

/-- The audit event of the call can be built. -/
def TransitionCall.Auditable (call : TransitionCall) : Prop := ∃ checked, call.checked = .ok checked

/-- `StateTransitionService.transition` for a call whose audit event raises `e`: it raises in
`_build_audit_event`, before any write. -/
def refuseTransition {X : Type} (rt : Runtime) (call : TransitionCall) (e : Exn) :
    Action X ChangeRecord := do
  let current ← getChange call.tenantId call.changeId
  let transitionedAt ← now rt
  if transitionedAt < current.updatedAt then
    .raise (.valueError "State transition clock cannot move updated_at backwards.")
  else if call.recordUpdates.unsupported ≠ [] then
    .raise (.valueError ("Unsupported transition record updates: " ++
      ", ".intercalate (call.recordUpdates.unsupported.insertionSort (· ≤ ·))))
  else do
    let _ ← uuid4Hex rt
    .raise e

/-- `StateTransitionService.transition`, with the checks of `_build_audit_event`. They are about the
call alone, as the change that it reads has its id. -/
def auditedTransition [Sha256] {X : Type} (rt : Runtime) (call : TransitionCall) :
    Action X ChangeRecord :=
  match call.checked with
  | .ok checked => transition rt checked
  | .error e => refuseTransition rt call e

/-! ## What a call may write -/

/-- The type of the audit event of a transition. -/
def transitionEventType (status : AuditStatus) : String :=
  "WORKFLOW_STATE_TRANSITION_" ++ (if status = .SUCCESS then "SUCCEEDED" else "REJECTED")

/-- An audit event of a call. -/
structure TransitionEvent (call : TransitionCall) (event : AuditEvent) (status : AuditStatus) :
    Prop where
  key : (event.tenantId, event.changeId) = call.key
  eventType : event.eventType = transitionEventType status
  status_eq : event.status = status

section Writes

variable {X : Type}

/-- The stored change is replaced by the next version, and a success is appended, in one action. -/
def Commits (call : TransitionCall) (updated : ChangeRecord) (w w' : World X) : Prop :=
  ∃ replaced event, w.changes.stored? call.key = some replaced ∧
    (updated.tenantId, updated.changeId) = call.key ∧ updated.status = call.target ∧
    updated.version = replaced.version + 1 ∧ TransitionEvent call event .SUCCESS ∧
    w.changes.audit.get? (event.tenantId, event.auditEventId) = none ∧
    w'.changes = (w.changes.put updated).appendAudit event

/-- A refusal is appended. -/
def Rejects (call : TransitionCall) (w w' : World X) : Prop :=
  ∃ event, w.changes.stored? call.key ≠ none ∧ TransitionEvent call event .REJECTED ∧
    w.changes.audit.get? (event.tenantId, event.auditEventId) = none ∧
    w'.changes = w.changes.appendAudit event

/-- What an action of a call may do to the repository. -/
def Writes (call : TransitionCall) (w w' : World X) : Prop :=
  w'.changes = w.changes ∨ (∃ updated, Commits call updated w w') ∨ Rejects call w w'

theorem TransitionEvent.congr {call call' : TransitionCall} {event : AuditEvent}
    {status : AuditStatus} (hkey : call'.key = call.key) (h : TransitionEvent call event status) :
    TransitionEvent call' event status :=
  ⟨h.key.trans hkey.symm, h.eventType, h.status_eq⟩

theorem Commits.congr {call call' : TransitionCall} {updated : ChangeRecord} {w w' : World X}
    (hkey : call'.key = call.key) (htarget : call'.target = call.target)
    (h : Commits call updated w w') : Commits call' updated w w' := by
  obtain ⟨replaced, event, hreplaced, hupdated, hstatus, hversion, hevent, hrest⟩ := h
  refine ⟨replaced, event, ?_, hupdated.trans hkey.symm, hstatus.trans htarget.symm, hversion,
    hevent.congr hkey, hrest⟩
  rw [hkey]
  exact hreplaced

theorem Rejects.congr {call call' : TransitionCall} {w w' : World X} (hkey : call'.key = call.key)
    (h : Rejects call w w') : Rejects call' w w' := by
  obtain ⟨event, hstored, hevent, hrest⟩ := h
  refine ⟨event, ?_, hevent.congr hkey, hrest⟩
  rw [hkey]
  exact hstored

/-- What a call may write is about its key and its target only. -/
theorem Writes.congr {call call' : TransitionCall} {w w' : World X} (hkey : call'.key = call.key)
    (htarget : call'.target = call.target) (h : Writes call w w') : Writes call' w w' :=
  h.imp_right <| Or.imp (fun ⟨updated, hcommits⟩ => ⟨updated, hcommits.congr hkey htarget⟩)
    (Rejects.congr hkey)

/-- The actions of a call. -/
def entriesOf (id : Nat) (journal : List (Entry Nat (World X))) : List (Entry Nat (World X)) :=
  journal.filter fun entry => entry.call = id

/-- One action writes as `W` says; the others leave the repository alone. -/
def WritesOnce (W : World X → World X → Prop) (entries : List (Entry Nat (World X))) : Prop :=
  ∃ earlier entry later, entries = earlier ++ entry :: later ∧ W entry.before entry.after ∧
    ∀ other ∈ earlier ++ later, other.after.changes = other.before.changes

end Writes

/-- The commits that a list of audit events tells of. -/
def successes (events : List AuditEvent) : Nat :=
  events.countP fun event =>
    event.eventType = transitionEventType .SUCCESS && event.status = .SUCCESS

/-! ## Runs -/

/-- The clock is not behind what is stored, and the audit ids to come are not in use. -/
structure AuditReady {X : Type} (rt : LawfulRuntime) (w : World X) : Prop where
  clock : ∀ {key change}, w.changes.stored? key = some change → change.updatedAt ≤ rt.clock w.tick
  fresh : ∀ n, w.uuid ≤ n → ∀ tenantId,
    w.changes.audit.get? (tenantId, "audit_" ++ rt.uuid4 n) = none

/-- Calls for stored changes with valid arguments, at any time; nobody else acts. -/
def validTransition {X : Type} (calls : Nat → TransitionCall) :
    Actor Nat → World X → World X → Prop
  | .start id, w, _ => 1 ≤ (calls id).expectedVersion ∧ (calls id).recordUpdates.unsupported = [] ∧
      w.changes.stored? (calls id).key ≠ none
  | .by _, _, _ => True
  | .env, _, _ => False

/-- The calls of a run by their numbers. -/
def handleTransition [Sha256] {X : Type} (rt : LawfulRuntime) (calls : Nat → TransitionCall)
    (id : Nat) : Action X ChangeRecord := auditedTransition rt.toRuntime (calls id)

/-- The exceptions of a refusal. -/
def Refusal (e : Exn) : Prop :=
  (∃ current target auditEventId, e = .invalidStateTransition current target auditEventId) ∨
    ∃ changeId expected actual, e = .optimisticConcurrency changeId expected actual

/-- What the journal of a run shows. -/
structure AuditedOnce {X : Type} (calls : Nat → TransitionCall) (w : World X)
    (P : Pool Nat (World X) Exn ChangeRecord) (journal : List (Entry Nat (World X))) : Prop where
  /-- Every action leaves the repository alone, or commits, or appends a refusal. -/
  action : ∀ entry ∈ journal, Writes (calls entry.call) entry.before entry.after
  /-- A call that has returned has committed, once. -/
  returned : ∀ id change, (id, .ret change) ∈ P.threads →
    WritesOnce (Commits (calls id) change) (entriesOf id journal)
  /-- A call that has raised was refused, and has appended that, once. -/
  raised : ∀ id e, (id, .raise e) ∈ P.threads → (calls id).Auditable →
    Refusal e ∧ WritesOnce (Rejects (calls id)) (entriesOf id journal)
  /-- A call whose audit event cannot be built raises for that, and has written nothing. -/
  unaudited : ∀ id, ¬ (calls id).Auditable →
    (∀ change, (id, .ret change) ∉ P.threads) ∧ ∀ e, (id, .raise e) ∈ P.threads →
      (∃ message, e = .validationError message) ∧
        ∀ entry ∈ entriesOf id journal, entry.after.changes = entry.before.changes
  /-- The version of a change counts its commits. -/
  count : ∀ key change events, w.changes.stored? key = some change →
    Trail w.changes key events → ∃ change' events',
      P.state.changes.stored? key = some change' ∧
      P.state.changes.auditEvents key = .ok events' ∧
      change'.version + successes events = change.version + successes events'

/-! ## The repository -/

theorem recordAudit_of_new {repo : InMemoryChangeStateRepository} {event : AuditEvent}
    (hstored : repo.stored? (event.tenantId, event.changeId) ≠ none)
    (hnew : repo.audit.get? (event.tenantId, event.auditEventId) = none) :
    InMemoryChangeStateRepository.recordAudit event repo = (.ok (), repo.appendAudit event) := by
  obtain ⟨current, hcurrent⟩ := Option.ne_none_iff_exists'.mp hstored
  have hget := get_eq_ok.mpr hcurrent
  simp only [InMemoryChangeStateRepository.recordAudit, ensureNewAuditId, hget, hnew, bind,
    Except.bind, Option.isSome_none, Bool.false_eq_true, if_false, guarded]

theorem commitTransition_of_version {repo : InMemoryChangeStateRepository}
    {updated current : ChangeRecord} {event : AuditEvent} {expectedVersion : Nat}
    (hstored : repo.stored? (updated.tenantId, updated.changeId) = some current)
    (hscope : (event.tenantId, event.changeId) = (updated.tenantId, updated.changeId))
    (hnew : repo.audit.get? (event.tenantId, event.auditEventId) = none)
    (hcurrent : current.version = expectedVersion)
    (hversion : updated.version = expectedVersion + 1) :
    InMemoryChangeStateRepository.commitTransition updated event expectedVersion repo =
      (.ok (), (repo.put updated).appendAudit event) := by
  have hget := get_eq_ok.mpr hstored
  obtain ⟨htenant, hchange⟩ := Prod.mk.inj hscope
  rw [htenant] at hnew
  simp only [InMemoryChangeStateRepository.commitTransition, validateAuditScope, ensureNewAuditId,
    hget, hnew, htenant, hchange, hcurrent, hversion, bind, Except.bind, pure, Except.pure, guarded,
    ne_eq, not_true_eq_false, or_self, if_false, Option.isSome_none, Bool.false_eq_true]

theorem commitTransition_of_conflict {repo : InMemoryChangeStateRepository}
    {updated current : ChangeRecord} {event : AuditEvent} {expectedVersion : Nat}
    (hstored : repo.stored? (updated.tenantId, updated.changeId) = some current)
    (hscope : (event.tenantId, event.changeId) = (updated.tenantId, updated.changeId))
    (hnew : repo.audit.get? (event.tenantId, event.auditEventId) = none)
    (hcurrent : current.version ≠ expectedVersion) :
    InMemoryChangeStateRepository.commitTransition updated event expectedVersion repo =
      (.error (.optimisticConcurrency updated.changeId expectedVersion current.version), repo) := by
  have hget := get_eq_ok.mpr hstored
  obtain ⟨htenant, hchange⟩ := Prod.mk.inj hscope
  rw [htenant] at hnew
  simp only [InMemoryChangeStateRepository.commitTransition, validateAuditScope, ensureNewAuditId,
    hget, hnew, htenant, hchange, bind, Except.bind, guarded, ne_eq, not_true_eq_false, or_self,
    if_false, Option.isSome_none, Bool.false_eq_true, hcurrent, not_false_eq_true, if_true]
  rfl

/-! ## Who has drawn an id -/

section Law

variable {X : Type} {rt : LawfulRuntime} {calls : Nat → TransitionCall} {id : Nat}
  {call : TransitionCall}

/-- The `n`-th identifier was drawn in this action. -/
def Drew (n : Nat) (entry : Entry Nat (World X)) : Prop :=
  entry.before.uuid = n ∧ entry.after.uuid = n + 1

/-- What has been drawn has been drawn once. -/
structure JournalInv (rt : LawfulRuntime) (s : Journaled Nat (World X)) : Prop extends
    AuditReady rt s.1 where
  drawn : ∀ {n entry}, entry ∈ s.2 → Drew n entry → n < s.1.uuid
  once : ∀ {n entry entry'}, entry ∈ s.2 → entry' ∈ s.2 → Drew n entry → Drew n entry' →
    entry.call = entry'.call

/-- An action of a call: it is entered in the journal, and writes only under drawn ids. -/
structure Acts (rt : LawfulRuntime) (call : TransitionCall) (id : Nat)
    (s s' : Journaled Nat (World X)) : Prop where
  writes : Writes call s.1 s'.1
  entry : s'.2 = s.2 ++ [⟨id, s.1, s'.1⟩]
  tick : s.1.tick ≤ s'.1.tick
  uuid : s'.1.uuid = s.1.uuid ∨ s'.1.uuid = s.1.uuid + 1
  stored : ∀ {key}, s.1.changes.stored? key ≠ none → s'.1.changes.stored? key ≠ none
  updated : ∀ {key change}, s'.1.changes.stored? key = some change →
    s.1.changes.stored? key = some change ∨ change.updatedAt ≤ rt.clock s.1.tick
  audit : ∀ key, s'.1.changes.audit.get? key = s.1.changes.audit.get? key ∨
    ∃ n, key.2 = "audit_" ++ rt.uuid4 n ∧ ∃ entry ∈ entriesOf id s.2, Drew n entry

/-- What the other calls leave alone. -/
structure OthersTransition (rt : LawfulRuntime) (id : Nat) (s s' : Journaled Nat (World X)) : Prop where
  inv : JournalInv rt s'
  own : entriesOf id s'.2 = entriesOf id s.2
  tick : s.1.tick ≤ s'.1.tick
  stored : ∀ {key}, s.1.changes.stored? key ≠ none → s'.1.changes.stored? key ≠ none
  held : ∀ {n}, (∃ entry ∈ entriesOf id s.2, Drew n entry) → ∀ tenantId,
    s'.1.changes.audit.get? (tenantId, "audit_" ++ rt.uuid4 n) =
      s.1.changes.audit.get? (tenantId, "audit_" ++ rt.uuid4 n)

def othersRely (rt : LawfulRuntime) (id : Nat) : Rely (Journaled Nat (World X)) where
  rel s s' := JournalInv rt s → OthersTransition rt id s s'
  refl s h := ⟨h, rfl, Nat.le_refl _, fun h => h, fun _ _ => rfl⟩
  trans {a b c} hab hbc h := by
    have h₁ := hab h
    have h₂ := hbc h₁.inv
    refine ⟨h₂.inv, h₂.own.trans h₁.own, Nat.le_trans h₁.tick h₂.tick,
      fun hkey => h₂.stored (h₁.stored hkey), ?_⟩
    intro n hdrew tenantId
    have hdrew' : ∃ entry ∈ entriesOf id b.2, Drew n entry := by
      rw [h₁.own]
      exact hdrew
    exact (h₂.held hdrew' tenantId).trans (h₁.held hdrew tenantId)

theorem auditId_injective {m n : Nat} (h : "audit_" ++ rt.uuid4 m = "audit_" ++ rt.uuid4 n) :
    m = n :=
  rt.uuid4_injective (String.append_right_inj _ |>.mp h)

theorem mem_of_mem_entriesOf {journal : List (Entry Nat (World X))} {entry : Entry Nat (World X)}
    (h : entry ∈ entriesOf id journal) : entry ∈ journal ∧ entry.call = id := by
  obtain ⟨hmem, hcall⟩ := List.mem_filter.mp h
  exact ⟨hmem, of_decide_eq_true hcall⟩

theorem Acts.inv {s s' : Journaled Nat (World X)} (h : Acts rt call id s s') (hs : JournalInv rt s) :
    JournalInv rt s' := by
  have huuid : s.1.uuid ≤ s'.1.uuid := by
    rcases h.uuid with heq | heq <;> omega
  have hclock : rt.clock s.1.tick ≤ rt.clock s'.1.tick := rt.clock_mono h.tick
  refine ⟨⟨?clock, ?fresh⟩, ?drawn, ?once⟩
  case clock =>
    intro key change hget
    rcases h.updated hget with hold | hnew
    · exact Nat.le_trans (hs.clock hold) hclock
    · exact Nat.le_trans hnew hclock
  case fresh =>
    intro n hn tenantId
    rcases h.audit (tenantId, "audit_" ++ rt.uuid4 n) with heq | ⟨m, hid, entry, hmem, hdrew⟩
    · rw [heq]
      exact hs.fresh n (Nat.le_trans huuid hn) tenantId
    · -- the id has been drawn before
      obtain rfl := auditId_injective hid
      have hlt := hs.drawn (mem_of_mem_entriesOf hmem).1 hdrew
      omega
  case drawn =>
    intro n entry hmem hdrew
    rw [h.entry, List.mem_append, List.mem_singleton] at hmem
    rcases hmem with hold | rfl
    · have hlt := hs.drawn hold hdrew
      omega
    · have hafter : s'.1.uuid = n + 1 := hdrew.2
      omega
  case once =>
    intro n entry entry' hmem hmem' hdrew hdrew'
    rw [h.entry, List.mem_append, List.mem_singleton] at hmem hmem'
    rcases hmem with hold | rfl
    · rcases hmem' with hold' | rfl
      · exact hs.once hold hold' hdrew hdrew'
      · have hlt := hs.drawn hold hdrew
        have hbefore : s.1.uuid = n := hdrew'.1
        omega
    · rcases hmem' with hold' | rfl
      · have hlt := hs.drawn hold' hdrew'
        have hbefore : s.1.uuid = n := hdrew.1
        omega
      · rfl

/-- The other calls may rely on what a call does. -/
theorem Acts.others {s s' : Journaled Nat (World X)} {other : Nat} (h : Acts rt call id s s')
    (hne : other ≠ id) : (othersRely rt other).rel s s' := by
  intro hs
  refine ⟨h.inv hs, ?_, h.tick, h.stored, ?_⟩
  · rw [h.entry, entriesOf, entriesOf, List.filter_append]
    have hfilter : [(⟨id, s.1, s'.1⟩ : Entry Nat (World X))].filter
        (fun entry => decide (entry.call = other)) = [] := by
      simp [hne.symm]
    rw [hfilter, List.append_nil]
  · intro n hdrew tenantId
    rcases h.audit (tenantId, "audit_" ++ rt.uuid4 n) with heq | ⟨m, hid, entry, hmem, hdrew'⟩
    · exact heq
    · obtain rfl := auditId_injective hid
      obtain ⟨entry', hmem', hdrew⟩ := hdrew
      obtain ⟨hin, hcall⟩ := mem_of_mem_entriesOf hmem
      obtain ⟨hin', hcall'⟩ := mem_of_mem_entriesOf hmem'
      have hsame := hs.once hin hin' hdrew' hdrew
      rw [hcall, hcall'] at hsame
      exact absurd hsame.symm hne

/-! ## The triples -/

/-- A call that has written nothing yet: it may hold an id that it has drawn, and has seen the clock
at `tick`. -/
structure Before (rt : LawfulRuntime) (call : TransitionCall) (id : Nat) (held : Option Nat)
    (tick : Nat) (s : Journaled Nat (World X)) : Prop where
  inv : JournalInv rt s
  idle : ∀ entry ∈ entriesOf id s.2, entry.after.changes = entry.before.changes
  stored : s.1.changes.stored? call.key ≠ none
  tick_le : tick ≤ s.1.tick
  holds : ∀ n, held = some n → (∃ entry ∈ entriesOf id s.2, Drew n entry) ∧
    ∀ tenantId, s.1.changes.audit.get? (tenantId, "audit_" ++ rt.uuid4 n) = none

/-- A call that has written once. -/
structure After (rt : LawfulRuntime) (id : Nat) (W : World X → World X → Prop)
    (s : Journaled Nat (World X)) : Prop where
  inv : JournalInv rt s
  written : WritesOnce W (entriesOf id s.2)

variable {held : Option Nat} {tick : Nat} {s s' : Journaled Nat (World X)}

theorem After.mono {W W' : World X → World X → Prop} (h : After rt id W s)
    (hW : ∀ w w', W w w' → W' w w') : After rt id W' s := by
  obtain ⟨hinv, earlier, entry, later, heq, hwritten, hothers⟩ := h
  exact ⟨hinv, earlier, entry, later, heq, hW _ _ hwritten, hothers⟩

theorem Before.stable (h : Before rt call id held tick s) (hs : (othersRely rt id).rel s s') :
    Before rt call id held tick s' := by
  have hothers := hs h.inv
  refine ⟨hothers.inv, ?_, hothers.stored h.stored, Nat.le_trans h.tick_le hothers.tick, ?_⟩
  · rw [hothers.own]
    exact h.idle
  · intro n hn
    obtain ⟨hdrew, hnone⟩ := h.holds n hn
    rw [hothers.own]
    exact ⟨hdrew, fun tenantId => (hothers.held hdrew tenantId).trans (hnone tenantId)⟩

theorem After.stable {W : World X → World X → Prop} (h : After rt id W s)
    (hs : (othersRely rt id).rel s s') : After rt id W s' := by
  have hothers := hs h.inv
  refine ⟨hothers.inv, ?_⟩
  rw [hothers.own]
  exact h.written

theorem entriesOf_append (journal : List (Entry Nat (World X))) (w w' : World X) :
    entriesOf id (journal ++ [⟨id, w, w'⟩]) = entriesOf id journal ++ [⟨id, w, w'⟩] := by
  simp [entriesOf]

/-- An action that writes nothing and draws nothing. -/
theorem Acts.quiet {w' : World X} (hchanges : w'.changes = s.1.changes) (htick : s.1.tick ≤ w'.tick)
    (huuid : w'.uuid = s.1.uuid ∨ w'.uuid = s.1.uuid + 1) :
    Acts rt call id s (w', s.2 ++ [⟨id, s.1, w'⟩]) where
  writes := Or.inl hchanges
  entry := rfl
  tick := htick
  uuid := huuid
  stored h := by
    rw [hchanges]
    exact h
  updated h := by
    rw [hchanges] at h
    exact Or.inl h
  audit key := by
    rw [hchanges]
    exact Or.inl rfl

theorem Before.quiet (h : Before rt call id held tick s) {w' : World X}
    (hchanges : w'.changes = s.1.changes) (htick : s.1.tick ≤ w'.tick)
    (huuid : w'.uuid = s.1.uuid ∨ w'.uuid = s.1.uuid + 1) :
    Before rt call id held tick (w', s.2 ++ [⟨id, s.1, w'⟩]) := by
  have hacts : Acts rt call id s (w', s.2 ++ [⟨id, s.1, w'⟩]) := .quiet hchanges htick huuid
  refine ⟨hacts.inv h.inv, ?_, ?_, Nat.le_trans h.tick_le htick, ?_⟩
  · intro entry hmem
    rw [entriesOf_append, List.mem_append, List.mem_singleton] at hmem
    rcases hmem with hold | rfl
    · exact h.idle entry hold
    · exact hchanges
  · rw [hchanges]
    exact h.stored
  · intro n hn
    obtain ⟨⟨entry, hmem, hdrew⟩, hnone⟩ := h.holds n hn
    rw [hchanges, entriesOf_append]
    exact ⟨⟨entry, List.mem_append_left _ hmem, hdrew⟩, hnone⟩

/-- The write of a call. -/
theorem Before.write (h : Before rt call id held tick s) {w' : World X}
    {W : World X → World X → Prop} (hacts : Acts rt call id s (w', s.2 ++ [⟨id, s.1, w'⟩]))
    (hwrite : W s.1 w') : After rt id W (w', s.2 ++ [⟨id, s.1, w'⟩]) := by
  refine ⟨hacts.inv h.inv, entriesOf id s.2, ⟨id, s.1, w'⟩, [], entriesOf_append s.2 s.1 w', hwrite,
    ?_⟩
  rw [List.append_nil]
  exact h.idle

abbrev AuditTriple {α : Type} (rt : LawfulRuntime) (call : TransitionCall) (id : Nat)
    (Q : Except Exn α → Journaled Nat (World X) → Prop) (p : Action X α)
    (s : Journaled Nat (World X)) : Prop :=
  (p.journaled id).RG (othersRely rt id) (Acts rt call id) Q s

namespace AuditTriple

variable {α β : Type}

theorem atomic {f : World X → Except Exn α × World X}
    {Q : Except Exn α → Journaled Nat (World X) → Prop}
    (h : ∀ t, (othersRely rt id).rel s t →
      Acts rt call id t ((f t.1).2, t.2 ++ [⟨id, t.1, (f t.1).2⟩]) ∧
        ∀ t', (othersRely rt id).rel ((f t.1).2, t.2 ++ [⟨id, t.1, (f t.1).2⟩]) t' →
          Q (f t.1).1 t') : AuditTriple rt call id Q (.atomic f) s := by
  unfold AuditTriple
  rw [Prog.journaled_atomic]
  exact Prog.RG.atomic h

theorem bind {p : Action X α} {f : α → Action X β}
    {P : Except Exn α → Journaled Nat (World X) → Prop}
    {Q : Except Exn β → Journaled Nat (World X) → Prop} (hp : AuditTriple rt call id P p s)
    (hok : ∀ a t, P (.ok a) t → AuditTriple rt call id Q (f a) t)
    (herr : ∀ e t, P (.error e) t → Q (.error e) t) : AuditTriple rt call id Q (p.bind f) s := by
  unfold AuditTriple
  rw [Prog.journaled_bind]
  exact Prog.RG.bind hp hok herr

theorem tryCatch {p : Action X α} {f : Exn → Action X α}
    {P Q : Except Exn α → Journaled Nat (World X) → Prop} (hp : AuditTriple rt call id P p s)
    (hok : ∀ a t, P (.ok a) t → Q (.ok a) t)
    (herr : ∀ e t, P (.error e) t → AuditTriple rt call id Q (f e) t) :
    AuditTriple rt call id Q (p.tryCatch f) s := by
  unfold AuditTriple
  rw [Prog.journaled_tryCatch]
  exact Prog.RG.tryCatch hp hok herr

/-- The change that a call reads, not younger than the clock. -/
theorem getChange (h : Before rt call id none tick s) :
    AuditTriple rt call id
      (fun r t => ∃ current now, r = .ok current ∧
        (current.tenantId, current.changeId) = call.key ∧ current.updatedAt ≤ rt.clock now ∧
        Before rt call id none now t)
      (getChange call.tenantId call.changeId) s := by
  refine atomic fun t ht => ⟨Acts.quiet rfl (Nat.le_refl _) (Or.inl rfl), fun t' ht' => ?_⟩
  have hbefore := h.stable ht
  obtain ⟨current, hcurrent⟩ := Option.ne_none_iff_exists'.mp hbefore.stored
  refine ⟨current, t.1.tick, get_eq_ok.mpr hcurrent, key_of_stored hcurrent,
    hbefore.inv.clock hcurrent, ?_⟩
  have hnow : Before rt call id none t.1.tick t :=
    ⟨hbefore.inv, hbefore.idle, hbefore.stored, Nat.le_refl _, hbefore.holds⟩
  exact (hnow.quiet rfl (Nat.le_refl _) (Or.inl rfl)).stable ht'

theorem now (h : Before rt call id held tick s) :
    AuditTriple rt call id
      (fun r t => ∃ now, r = .ok (rt.clock now) ∧ tick ≤ now ∧ Before rt call id held now t)
      (now rt.toRuntime) s := by
  refine atomic fun t ht => ⟨Acts.quiet rfl (Nat.le_succ _) (Or.inl rfl), fun t' ht' => ?_⟩
  have hbefore := h.stable ht
  have hnow : Before rt call id held t.1.tick t :=
    ⟨hbefore.inv, hbefore.idle, hbefore.stored, Nat.le_refl _, hbefore.holds⟩
  have hafter : Before rt call id held t.1.tick ({ t.1 with tick := t.1.tick + 1 },
      t.2 ++ [⟨id, t.1, { t.1 with tick := t.1.tick + 1 }⟩]) :=
    hnow.quiet rfl (Nat.le_succ _) (Or.inl rfl)
  exact ⟨t.1.tick, rfl, hbefore.tick_le, hafter.stable ht'⟩

/-- The id that is drawn is in no use. -/
theorem uuid4Hex (h : Before rt call id none tick s) :
    AuditTriple rt call id
      (fun r t => ∃ n, r = .ok (rt.uuid4 n) ∧ Before rt call id (some n) tick t)
      (uuid4Hex rt.toRuntime) s := by
  refine atomic fun t ht => ⟨Acts.quiet rfl (Nat.le_refl _) (Or.inr rfl), fun t' ht' => ?_⟩
  have hbefore := h.stable ht
  have hquiet : Before rt call id none tick ({ t.1 with uuid := t.1.uuid + 1 },
      t.2 ++ [⟨id, t.1, { t.1 with uuid := t.1.uuid + 1 }⟩]) :=
    hbefore.quiet rfl (Nat.le_refl _) (Or.inr rfl)
  refine ⟨t.1.uuid, rfl, Before.stable ?_ ht'⟩
  refine ⟨hquiet.inv, hquiet.idle, hquiet.stored, hquiet.tick_le, ?_⟩
  intro n hn
  cases hn
  refine ⟨⟨⟨id, t.1, { t.1 with uuid := t.1.uuid + 1 }⟩, ?_, rfl, rfl⟩,
    hbefore.inv.fresh _ (Nat.le_refl _)⟩
  rw [entriesOf_append]
  exact List.mem_append_right _ List.mem_cons_self

/-- An action that appends an event under the id that the call holds. -/
theorem acts_appendAudit {t : Journaled Nat (World X)} {n : Nat}
    (h : Before rt call id (some n) tick t) {base : InMemoryChangeStateRepository}
    {event : AuditEvent} (hid : event.auditEventId = "audit_" ++ rt.uuid4 n)
    (hwrites : Writes call t.1 { t.1 with changes := base.appendAudit event })
    (haudit : base.audit = t.1.changes.audit)
    (hstored : ∀ {key}, t.1.changes.stored? key ≠ none → base.stored? key ≠ none)
    (hupdated : ∀ {key change}, base.stored? key = some change →
      t.1.changes.stored? key = some change ∨ change.updatedAt ≤ rt.clock t.1.tick) :
    Acts rt call id t ({ t.1 with changes := base.appendAudit event },
      t.2 ++ [⟨id, t.1, { t.1 with changes := base.appendAudit event }⟩]) where
  writes := hwrites
  entry := rfl
  tick := Nat.le_refl _
  uuid := Or.inl rfl
  stored := hstored
  updated := hupdated
  audit key := by
    by_cases hkey : key = (event.tenantId, event.auditEventId)
    · refine Or.inr ⟨n, ?_, (h.holds n rfl).1⟩
      rw [hkey, ← hid]
    · refine Or.inl ?_
      show (base.appendAudit event).audit.get? key = _
      rw [audit_appendAudit, Dict.get?_set_ne _ _ hkey, haudit]

/-- The audit event of a refusal. -/
theorem recordAudit {n : Nat} (h : Before rt call id (some n) tick s) {event : AuditEvent}
    (hid : event.auditEventId = "audit_" ++ rt.uuid4 n)
    (hevent : TransitionEvent call event .REJECTED) :
    AuditTriple rt call id (fun r t => r = .ok () ∧ After rt id (Rejects call) t)
      (onChanges (InMemoryChangeStateRepository.recordAudit event)) s := by
  refine atomic fun t ht => ?_
  have hbefore := h.stable ht
  have hnone : t.1.changes.audit.get? (event.tenantId, event.auditEventId) = none := by
    rw [hid]
    exact (hbefore.holds n rfl).2 _
  have hrecord : InMemoryChangeStateRepository.recordAudit event t.1.changes =
      (.ok (), t.1.changes.appendAudit event) := recordAudit_of_new ?_ hnone
  · rw [hrecord]
    have hrejects : Rejects call t.1 { t.1 with changes := t.1.changes.appendAudit event } :=
      ⟨event, hbefore.stored, hevent, hnone, rfl⟩
    have hacts := acts_appendAudit hbefore hid (Or.inr (Or.inr hrejects)) rfl (fun h => h) Or.inl
    exact ⟨hacts, fun t' ht' => ⟨rfl, (hbefore.write hacts hrejects).stable ht'⟩⟩
  · rw [hevent.key]
    exact hbefore.stored

/-- The commit: it writes, or it has lost the race. -/
theorem commitTransition {n : Nat} (h : Before rt call id (some n) tick s) {updated : ChangeRecord}
    {event : AuditEvent} (hid : event.auditEventId = "audit_" ++ rt.uuid4 n)
    (hevent : TransitionEvent call event .SUCCESS)
    (hkey : (updated.tenantId, updated.changeId) = call.key)
    (hstatus : updated.status = call.target) (hversion : updated.version = call.expectedVersion + 1)
    (htime : updated.updatedAt ≤ rt.clock tick) :
    AuditTriple rt call id
      (fun r t => (r = .ok () ∧ After rt id (Commits call updated) t) ∨
        ∃ changeId expected actual, r = .error (.optimisticConcurrency changeId expected actual) ∧
          Before rt call id (some n) tick t)
      (onChanges (InMemoryChangeStateRepository.commitTransition updated event
        call.expectedVersion)) s := by
  refine atomic fun t ht => ?_
  have hbefore := h.stable ht
  have hnone : t.1.changes.audit.get? (event.tenantId, event.auditEventId) = none := by
    rw [hid]
    exact (hbefore.holds n rfl).2 _
  obtain ⟨current, hcurrent⟩ := Option.ne_none_iff_exists'.mp hbefore.stored
  have hscope : (event.tenantId, event.changeId) = (updated.tenantId, updated.changeId) :=
    hevent.key.trans hkey.symm
  have hstored : t.1.changes.stored? (updated.tenantId, updated.changeId) = some current := by
    rw [hkey]
    exact hcurrent
  by_cases hsame : current.version = call.expectedVersion
  · have hcommit : InMemoryChangeStateRepository.commitTransition updated event
        call.expectedVersion t.1.changes =
          (.ok (), (t.1.changes.put updated).appendAudit event) :=
      commitTransition_of_version hstored hscope hnone hsame hversion
    rw [hcommit]
    have hcommits : Commits call updated t.1
        { t.1 with changes := (t.1.changes.put updated).appendAudit event } :=
      ⟨current, event, hcurrent, hkey, hstatus, by rw [hversion, hsame], hevent, hnone, rfl⟩
    have hacts : Acts rt call id t
        ({ t.1 with changes := (t.1.changes.put updated).appendAudit event },
          t.2 ++ [⟨id, t.1, { t.1 with
            changes := (t.1.changes.put updated).appendAudit event }⟩]) := by
      refine acts_appendAudit hbefore hid (Or.inr (Or.inl ⟨updated, hcommits⟩)) rfl
        (stored?_put_ne_none updated) ?_
      intro key change hget
      by_cases hk : key = (updated.tenantId, updated.changeId)
      · rw [hk, stored?_put_self] at hget
        cases hget
        exact Or.inr (Nat.le_trans htime (rt.clock_mono hbefore.tick_le))
      · rw [stored?_put_ne _ hk] at hget
        exact Or.inl hget
    exact ⟨hacts, fun t' ht' => Or.inl ⟨rfl, (hbefore.write hacts hcommits).stable ht'⟩⟩
  · have hconflict : InMemoryChangeStateRepository.commitTransition updated event
        call.expectedVersion t.1.changes = (.error (.optimisticConcurrency updated.changeId
          call.expectedVersion current.version), t.1.changes) :=
      commitTransition_of_conflict hstored hscope hnone hsame
    rw [hconflict]
    exact ⟨Acts.quiet rfl (Nat.le_refl _) (Or.inl rfl), fun t' ht' => Or.inr ⟨_, _, _, rfl,
      (hbefore.quiet rfl (Nat.le_refl _) (Or.inl rfl)).stable ht'⟩⟩

variable [Sha256]

theorem transitionEvent_auditEvent {current : ChangeRecord}
    (hkey : (current.tenantId, current.changeId) = call.key) (auditEventId outputHash : String)
    (status : AuditStatus) (createdAt : Time) :
    TransitionEvent call (call.auditEvent current auditEventId outputHash status createdAt) status :=
  ⟨hkey, rfl, rfl⟩

theorem buildAuditEvent {current : ChangeRecord} (outputHash : String) (status : AuditStatus)
    (createdAt : Time) (h : Before rt call id none tick s) :
    AuditTriple rt call id
      (fun r t => ∃ n, r = .ok (call.auditEvent current ("audit_" ++ rt.uuid4 n) outputHash status
        createdAt) ∧ Before rt call id (some n) tick t)
      (buildAuditEvent rt.toRuntime call current outputHash status createdAt) s := by
  unfold ChangeOps.buildAuditEvent
  refine (uuid4Hex h).bind ?_ ?_
  · rintro hex t ⟨n, hn, hbefore⟩ t' ht'
    cases hn
    exact ⟨n, rfl, hbefore.stable ht'⟩
  · rintro e t ⟨n, hn, -⟩
    cases hn

/-- A call whose edge is not in the graph. -/
theorem rejectTransition {current : ChangeRecord}
    (hkey : (current.tenantId, current.changeId) = call.key) (transitionedAt : Time)
    (h : Before rt call id none tick s) :
    AuditTriple rt call id
      (fun r t => ∃ e, r = .error e ∧ Refusal e ∧ After rt id (Rejects call) t)
      (rejectTransition rt.toRuntime call current transitionedAt) s := by
  unfold ChangeOps.rejectTransition
  refine (buildAuditEvent _ .REJECTED transitionedAt h).bind ?_ ?_
  · rintro event t ⟨n, hn, hbefore⟩
    cases hn
    refine (recordAudit hbefore rfl (transitionEvent_auditEvent hkey _ _ _ _)).bind ?_ ?_
    · rintro _ t ⟨-, hafter⟩ t' ht'
      exact ⟨_, rfl, Or.inl ⟨_, _, _, rfl⟩, hafter.stable ht'⟩
    · rintro e t ⟨he, -⟩
      cases he
  · rintro e t ⟨n, hn, -⟩
    cases hn

/-- A call whose edge is in the graph: it commits, or the lost race is audited under the id that
was drawn for the commit. -/
theorem commitUpdated {current updated : ChangeRecord}
    (hcurrent : (current.tenantId, current.changeId) = call.key)
    (hkey : (updated.tenantId, updated.changeId) = call.key)
    (hstatus : updated.status = call.target) (hversion : updated.version = call.expectedVersion + 1)
    (transitionedAt : Time) (htime : updated.updatedAt ≤ rt.clock tick)
    (h : Before rt call id none tick s) :
    AuditTriple rt call id
      (fun r t => (r = .ok updated ∧ After rt id (Commits call updated) t) ∨
        ∃ e, r = .error e ∧ Refusal e ∧ After rt id (Rejects call) t)
      (commitUpdated rt.toRuntime call current updated transitionedAt) s := by
  unfold ChangeOps.commitUpdated
  refine (buildAuditEvent _ .SUCCESS transitionedAt h).bind ?_ ?_
  · rintro event t ⟨n, hn, hbefore⟩
    cases hn
    have hevent := transitionEvent_auditEvent hcurrent ("audit_" ++ rt.uuid4 n)
      (sha256Digest updated.modelDump) .SUCCESS transitionedAt
    refine AuditTriple.bind (P := fun r t => (r = .ok () ∧ After rt id (Commits call updated) t) ∨
        ∃ e, r = .error e ∧ Refusal e ∧ After rt id (Rejects call) t)
      ((commitTransition hbefore rfl hevent hkey hstatus hversion htime).tryCatch ?_ ?_) ?_ ?_
    · rintro _ t (hdone | ⟨_, _, _, he, -⟩)
      · exact Or.inl hdone
      · cases he
    · rintro e t (⟨he, -⟩ | ⟨changeId, expected, actual, he, hbefore⟩)
      · cases he
      · cases he
        have hrejected : TransitionEvent call (call.conflictEvent current (call.auditEvent current
            ("audit_" ++ rt.uuid4 n) (sha256Digest updated.modelDump) .SUCCESS transitionedAt)
            expected actual) .REJECTED := ⟨hcurrent, rfl, rfl⟩
        refine (recordAudit hbefore rfl hrejected).bind ?_ ?_
        · rintro _ t ⟨-, hafter⟩ t' ht'
          exact Or.inr ⟨_, rfl, Or.inr ⟨_, _, _, rfl⟩, hafter.stable ht'⟩
        · rintro e t ⟨he, -⟩
          cases he
    · rintro _ t (⟨-, hafter⟩ | ⟨e, he, -⟩) t' ht'
      · exact Or.inl ⟨rfl, hafter.stable ht'⟩
      · cases he
    · rintro e t (⟨he, -⟩ | ⟨e', he, hrest⟩)
      · cases he
      · cases he
        exact Or.inr ⟨_, rfl, hrest⟩
  · rintro e t ⟨n, hn, -⟩
    cases hn

/-- **One call**, whatever the others do: it commits once, or it is refused and appends that. -/
theorem transition (hupdates : call.recordUpdates.unsupported = [])
    (h : Before rt call id none 0 s) :
    AuditTriple rt call id
      (fun r t => (∃ updated, r = .ok updated ∧ After rt id (Commits call updated) t) ∨
        ∃ e, r = .error e ∧ Refusal e ∧ After rt id (Rejects call) t)
      (transition rt.toRuntime call) s := by
  unfold ChangeOps.transition
  refine (getChange h).bind ?_ ?_
  · rintro current t ⟨current', read, hcurrent, hkey, hyoung, hbefore⟩
    cases hcurrent
    unfold transitionRead
    refine (now hbefore).bind ?_ ?_
    · rintro transitionedAt t ⟨at', hat, hle, hbefore⟩
      cases hat
      have hclock : current.updatedAt ≤ rt.clock at' := Nat.le_trans hyoung (rt.clock_mono hle)
      rw [dif_neg (Nat.not_lt.mpr hclock), if_neg (not_not.mpr hupdates)]
      split_ifs
      · generalize hupdated : call.updated current (rt.clock at') (Nat.not_lt.mpr hclock) = updated
        have hkeyed : (updated.tenantId, updated.changeId) = call.key := by
          rw [← hupdated]
          exact hkey
        have hstatus : updated.status = call.target := by rw [← hupdated]; rfl
        have hversion : updated.version = call.expectedVersion + 1 := by rw [← hupdated]; rfl
        have htime : updated.updatedAt ≤ rt.clock at' := by
          rw [← hupdated]
          exact Nat.le_refl _
        have hcommit := commitUpdated hkey hkeyed hstatus hversion (rt.clock at') htime hbefore
        refine hcommit.mono ?_
        rintro r t (⟨hr, hafter⟩ | hrefused)
        · exact Or.inl ⟨_, hr, hafter⟩
        · exact Or.inr hrefused
      · exact (rejectTransition hkey _ hbefore).mono fun _ _ hrefused => Or.inr hrefused
    · rintro e t ⟨_, he, -⟩
      cases he
  · rintro e t ⟨_, _, he, -⟩
    cases he

omit [Sha256] in
/-- A call whose audit event cannot be built writes nothing. -/
theorem refuseTransition (hupdates : call.recordUpdates.unsupported = []) (e : Exn)
    (h : Before rt call id none 0 s) :
    AuditTriple rt call id (fun r t => r = .error e ∧ ∃ held tick, Before rt call id held tick t)
      (refuseTransition rt.toRuntime call e) s := by
  unfold ChangeOps.refuseTransition
  refine (getChange h).bind ?_ ?_
  · rintro current t ⟨current', read, hcurrent, -, hyoung, hbefore⟩
    cases hcurrent
    refine (now hbefore).bind ?_ ?_
    · rintro transitionedAt t ⟨at', hat, hle, hbefore⟩
      cases hat
      have hclock : current.updatedAt ≤ rt.clock at' := Nat.le_trans hyoung (rt.clock_mono hle)
      rw [if_neg (Nat.not_lt.mpr hclock), if_neg (not_not.mpr hupdates)]
      refine (uuid4Hex hbefore).bind ?_ ?_
      · rintro hex t ⟨n, -, hbefore⟩ t' ht'
        exact ⟨rfl, _, _, hbefore.stable ht'⟩
      · rintro e' t ⟨n, hn, -⟩
        cases hn
    · rintro e' t ⟨_, he, -⟩
      cases he
  · rintro e' t ⟨_, _, he, -⟩
    cases he

end AuditTriple

/-! ## Counting the commits -/

/-- The version of each change has grown by as many as there are new successes. -/
def Counted (w w' : World X) : Prop :=
  ∀ key change events, w.changes.stored? key = some change → Trail w.changes key events →
    ∃ change' events', w'.changes.stored? key = some change' ∧ Trail w'.changes key events' ∧
      change'.version + successes events = change.version + successes events'

theorem successes_append (events events' : List AuditEvent) :
    successes (events ++ events') = successes events + successes events' :=
  List.countP_append

theorem successes_success {event : AuditEvent} (h : TransitionEvent call event .SUCCESS) :
    successes [event] = 1 := by
  simp [successes, h.eventType, h.status_eq]

theorem successes_rejected {event : AuditEvent} (h : TransitionEvent call event .REJECTED) :
    successes [event] = 0 := by
  simp [successes, h.status_eq]

/-- One action. -/
theorem Counted.writes {w w' w'' : World X} (h : Counted w w') (hwrites : Writes call w' w'') :
    Counted w w'' := by
  intro key change events hchange htrail
  obtain ⟨change', events', hchange', htrail', hcount⟩ := h key change events hchange htrail
  rcases hwrites with heq | ⟨updated, replaced, event, hreplaced, hupdated, -, hversion, hevent, hnew,
    heq⟩ | ⟨event, hstored, hevent, hnew, heq⟩
  · rw [heq]
    exact ⟨change', events', hchange', htrail', hcount⟩
  · have hkey : (event.tenantId, event.changeId) = (updated.tenantId, updated.changeId) :=
      hevent.key.trans hupdated.symm
    have hput : (w'.changes.put updated).stored? (event.tenantId, event.changeId) ≠ none := by
      rw [hkey, stored?_put_self]
      exact Option.some_ne_none _
    have hlater := (htrail'.put updated).appendAudit hnew hput
    rw [heq, stored?_appendAudit]
    by_cases hsame : key = call.key
    · subst hsame
      rw [hreplaced] at hchange'
      cases hchange'
      refine ⟨updated, _, by rw [← hupdated, stored?_put_self], hlater, ?_⟩
      rw [Trail.added, if_pos hevent.key, successes_append, successes_success hevent, hversion]
      omega
    · refine ⟨change', _, ?_, hlater, ?_⟩
      · rw [stored?_put_ne _ (by rw [hupdated]; exact hsame), hchange']
      · rw [Trail.added, if_neg (by rw [hevent.key]; exact Ne.symm hsame), List.append_nil]
        exact hcount
  · rw [← hevent.key] at hstored
    have hlater := htrail'.appendAudit hnew hstored
    rw [heq, stored?_appendAudit]
    refine ⟨change', _, hchange', hlater, ?_⟩
    unfold Trail.added
    split_ifs
    · rw [successes_append, successes_rejected hevent]
      exact hcount
    · rw [List.append_nil]
      exact hcount

/-! ## Every interleaving -/

/-- The invariant of a run that started in `w`. -/
structure RunInv (rt : LawfulRuntime) (calls : Nat → TransitionCall) (w : World X)
    (s : Journaled Nat (World X)) : Prop where
  inv : JournalInv rt s
  action : ∀ entry ∈ s.2, Writes (calls entry.call) entry.before entry.after
  count : Counted w s.1

/-- A call that has not started. -/
def Unstarted (rt : LawfulRuntime) (id : Nat) (s : Journaled Nat (World X)) : Prop :=
  JournalInv rt s ∧ entriesOf id s.2 = []

/-- How a call ends: with a commit, with a refusal, or, if its audit event cannot be built, without
having written. -/
def TransitionEnds (rt : LawfulRuntime) (calls : Nat → TransitionCall) (id : Nat)
    (r : Except Exn ChangeRecord) (s : Journaled Nat (World X)) : Prop :=
  ((calls id).Auditable ∧
    ((∃ updated, r = .ok updated ∧ After rt id (Commits (calls id) updated) s) ∨
      ∃ e, r = .error e ∧ Refusal e ∧ After rt id (Rejects (calls id)) s)) ∨
  (¬ (calls id).Auditable ∧ (∃ message, r = .error (.validationError message)) ∧
    ∃ held tick, Before rt (calls id) id held tick s)

theorem validationError_of_checked {e : Exn} (h : call.checked = .error e) :
    ∃ message, e = .validationError message := by
  unfold TransitionCall.checked at h
  rcases nonEmptyStr_cases call.traceId with ⟨traceId, htrace⟩ | ⟨message, htrace⟩
  · rw [htrace] at h
    rcases nonEmptyStr_cases call.actorId with ⟨actorId, hactor⟩ | ⟨message, hactor⟩
    · rw [hactor] at h
      rcases nonEmptyStr_cases ("changes/" ++ call.changeId) with ⟨resource, hres⟩ | ⟨message, hres⟩
      · rw [hres] at h
        cases h
      · rw [hres] at h
        cases h
        exact ⟨message, rfl⟩
    · rw [hactor] at h
      cases h
      exact ⟨message, rfl⟩
  · rw [htrace] at h
    cases h
    exact ⟨message, rfl⟩

/-- A checked call writes what the call would: the checks change neither its key nor its target. -/
theorem exists_checked {checked : TransitionCall} (h : call.checked = .ok checked) :
    ∃ traceId actorId, checked = { call with traceId := traceId, actorId := actorId } := by
  unfold TransitionCall.checked at h
  rcases nonEmptyStr_cases call.traceId with ⟨traceId, htrace⟩ | ⟨message, htrace⟩
  · rw [htrace] at h
    rcases nonEmptyStr_cases call.actorId with ⟨actorId, hactor⟩ | ⟨message, hactor⟩
    · rw [hactor] at h
      rcases nonEmptyStr_cases ("changes/" ++ call.changeId) with ⟨resource, hres⟩ | ⟨message, hres⟩
      · rw [hres] at h
        cases h
        exact ⟨traceId, actorId, rfl⟩
      · rw [hres] at h
        cases h
    · rw [hactor] at h
      cases h
  · rw [htrace] at h
    cases h

theorem AuditTriple.auditedTransition [Sha256] {s : Journaled Nat (World X)}
    (hupdates : (calls id).recordUpdates.unsupported = []) (h : Before rt (calls id) id none 0 s) :
    AuditTriple rt (calls id) id (TransitionEnds rt calls id)
      (auditedTransition rt.toRuntime (calls id)) s := by
  unfold ChangeOps.auditedTransition
  cases hchecked : (calls id).checked with
  | ok checked =>
    obtain ⟨traceId, actorId, rfl⟩ := exists_checked hchecked
    have hcall : AuditTriple rt { calls id with traceId := traceId, actorId := actorId } id _ _ s :=
      AuditTriple.transition hupdates ⟨h.inv, h.idle, h.stored, h.tick_le, h.holds⟩
    refine hcall.weaken (fun _ _ h => h) (fun _ _ hacts => ?_)
      fun r t hends => .inl ⟨⟨_, hchecked⟩, ?_⟩
    · exact ⟨hacts.writes.congr (by rfl) (by rfl), hacts.entry, hacts.tick, hacts.uuid, hacts.stored,
        hacts.updated, hacts.audit⟩
    · rcases hends with ⟨updated, hr, hafter⟩ | ⟨e, hr, hrefusal, hafter⟩
      · exact .inl ⟨updated, hr, hafter.mono fun _ _ => Commits.congr rfl rfl⟩
      · exact .inr ⟨e, hr, hrefusal, hafter.mono fun _ _ => Rejects.congr rfl⟩
  | error e =>
    obtain ⟨message, rfl⟩ := validationError_of_checked hchecked
    refine (AuditTriple.refuseTransition hupdates _ h).mono ?_
    rintro r t ⟨rfl, hbefore⟩
    refine .inr ⟨?_, ⟨message, rfl⟩, hbefore⟩
    rintro ⟨checked, hok⟩
    rw [hchecked] at hok
    cases hok

theorem apart_transition [Sha256] (rt : LawfulRuntime) (calls : Nat → TransitionCall)
    (w : World X) :
    Pool.Apart (Pool.journaled (handleTransition rt calls))
      (Pool.okJournaled (validTransition calls)) (othersRely rt)
      (fun id => Acts rt (calls id) id) (TransitionEnds rt calls) (RunInv rt calls w)
      (Unstarted rt) where
  guarantee _ _ _ _ _ _ hne _ hacts := hacts.others hne
  environment _ _ _ hok := hok.1.elim
  invariant _ id s s' _ _ hs hacts := by
    refine ⟨hacts.inv hs.inv, ?_, hs.count.writes hacts.writes⟩
    intro entry hmem
    rw [hacts.entry, List.mem_append, List.mem_singleton] at hmem
    rcases hmem with hold | rfl
    · exact hs.action entry hold
    · exact hacts.writes
  invariant_env _ _ hok := hok.1.elim
  stable id s s' h hs := by
    have hothers := hs h.1
    refine ⟨hothers.inv, ?_⟩
    rw [hothers.own]
    exact h.2
  triple id s s' h hok := by
    obtain ⟨⟨-, hupdates, hstored⟩, -⟩ := hok
    have hbefore : Before rt (calls id) id none 0 s := by
      refine ⟨h.1, ?_, hstored, Nat.zero_le _, nofun⟩
      rw [h.2]
      exact nofun
    exact (AuditTriple.auditedTransition hupdates hbefore).start

/-- In every interleaving of `transition` calls for stored changes, numbered without repetition,
with audit ids of their own and a clock that does not go back: each call that has ended has
committed once, with its success event, or was refused and has appended that once, or has raised
without a write because its audit event cannot be built; and the version of each change counts its
commits. -/
theorem auditedOnce_of_runsWith [Sha256] (rt : LawfulRuntime) (calls : Nat → TransitionCall)
    {w : World X} (hready : AuditReady rt w) {P : Pool Nat (World X) Exn ChangeRecord}
    {journal : List (Entry Nat (World X))}
    (hrun : Pool.RunsWith (handleTransition rt calls) (validTransition calls) w P journal)
    (hnodup : P.calls.Nodup) : AuditedOnce calls w P journal := by
  have hinv : JournalInv rt (w, ([] : List (Entry Nat (World X)))) := ⟨hready, nofun, nofun⟩
  have hstart : RunInv rt calls w (w, ([] : List (Entry Nat (World X)))) :=
    ⟨hinv, nofun, fun _ change events hchange htrail => ⟨change, events, hchange, htrail, rfl⟩⟩
  have hholds := (apart_transition rt calls w).holds hstart (fun _ => ⟨hinv, rfl⟩) hrun
    (by rw [Pool.calls_withJournal]; exact hnodup)
  constructor
  case action => exact hholds.inv.action
  case returned =>
    intro id change hmem
    have hends := hholds.triples _ (Pool.mem_withJournal hmem) _ ((othersRely rt id).refl _)
    rcases hends with ⟨-, ⟨updated, hr, hafter⟩ | ⟨e, hr, -⟩⟩ | ⟨-, ⟨message, hr⟩, -⟩
    · cases hr
      exact hafter.written
    · cases hr
    · cases hr
  case raised =>
    intro id e hmem hauditable
    have hends := hholds.triples _ (Pool.mem_withJournal hmem) _ ((othersRely rt id).refl _)
    rcases hends with ⟨-, ⟨updated, hr, -⟩ | ⟨e', hr, hrefusal, hafter⟩⟩ | ⟨hnot, -⟩
    · cases hr
    · cases hr
      exact ⟨hrefusal, hafter.written⟩
    · exact absurd hauditable hnot
  case unaudited =>
    intro id hnot
    refine ⟨fun change hmem => ?_, fun e hmem => ?_⟩
    · have hends := hholds.triples _ (Pool.mem_withJournal hmem) _ ((othersRely rt id).refl _)
      rcases hends with ⟨hauditable, -⟩ | ⟨-, ⟨message, hr⟩, -⟩
      · exact hnot hauditable
      · cases hr
    · have hends := hholds.triples _ (Pool.mem_withJournal hmem) _ ((othersRely rt id).refl _)
      rcases hends with ⟨hauditable, -⟩ | ⟨-, ⟨message, hr⟩, held, tick, hbefore⟩
      · exact absurd hauditable hnot
      · cases hr
        exact ⟨⟨message, rfl⟩, hbefore.idle⟩
  case count =>
    intro key change events hchange htrail
    obtain ⟨change', events', hchange', htrail', hcount⟩ :=
      hholds.inv.count key change events hchange htrail
    exact ⟨change', events', hchange', htrail'.auditEvents_eq, hcount⟩

end Law

/-! ## Two calls for one version

Both read the approved change at version 1; the first commits, the second is refused. -/

namespace Demo

theorem replicate_injective {m n : Nat} (h : String.ofList (List.replicate m 'a') =
    String.ofList (List.replicate n 'a')) : m = n := by
  simpa using congrArg String.length h

def lawfulRuntime : LawfulRuntime :=
  { runtime with
    clock_mono := fun h => h
    uuid4_injective := replicate_injective }

theorem auditReady_world : AuditReady lawfulRuntime world where
  clock := by
    intro key stored hget
    by_cases hkey : key = execute.key
    · rw [hkey] at hget
      have hsame : stored = change :=
        (Option.some.inj ((stored?_put_self .empty change).symm.trans hget)).symm
      rw [hsame]
      exact Nat.le_refl 0
    · rw [world, stored?_put_ne _ hkey] at hget
      cases hget
  fresh _ _ _ := rfl

/-- Both calls read before the first commits. -/
def contention : List (Turn Nat) :=
  [.start 0, .start 1] ++ List.replicate 4 (.move 0 false) ++ List.replicate 5 (.move 1 false)

def contended : Pool Nat (World Unit) Exn ChangeRecord :=
  Pool.play (handleTransition lawfulRuntime fun _ => execute) (.idle world) contention

/-- The change is stored. -/
def checkStored (_ : Nat) (w _ : World Unit) : Bool := (w.changes.stored? execute.key).isSome

theorem contention_passes : Pool.passes (handleTransition lawfulRuntime fun _ => execute)
    checkStored (.idle world) contention = true := by
  decide +kernel

end Demo

open Demo in
/-- The journal of the two calls. -/
theorem auditedOnce_contended :
    ∃ journal, AuditedOnce (fun _ => execute) world contended journal := by
  have hreach : Pool.Reach (handleTransition lawfulRuntime fun _ => execute)
      (validTransition fun _ => execute) (.idle world) contended := by
    refine Pool.reach_play_of_passes ?_ contention _ contention_passes
    intro actor id w w' hcall hcheck
    cases actor with
    | start => exact ⟨Nat.le_refl 1, rfl, Option.isSome_iff_ne_none.mp hcheck⟩
    | «by» => trivial
    | env => cases hcall
  obtain ⟨journal, hrun⟩ := Pool.exists_runsWith hreach
  exact ⟨journal, auditedOnce_of_runsWith lawfulRuntime _ auditReady_world hrun (by decide +kernel)⟩

namespace Demo

/-- A call that says nothing of its trace. -/
def untraced : TransitionCall := { execute with traceId := " " }

def untracedRun : Pool Nat (World Unit) Exn ChangeRecord :=
  Pool.play (handleTransition lawfulRuntime fun _ => untraced) (.idle world)
    (.start 0 :: List.replicate 4 (.move 0 false))

/-- The exception of the first call. -/
def raisedFirst (P : Pool Nat (World Unit) Exn ChangeRecord) : Option (Nat × Exn) :=
  match P.threads with
  | (id, .raise e) :: _ => some (id, e)
  | _ => none

end Demo

open Demo in
/-- A blank trace id: the call neither commits nor raises one of the two errors. -/
theorem not_refusal_untraced :
    ¬ ∀ [Sha256] (rt : LawfulRuntime) (calls : Nat → TransitionCall) (w : World Unit)
      (P : Pool Nat (World Unit) Exn ChangeRecord), AuditReady rt w →
      Pool.Reach (handleTransition rt calls) (validTransition calls) (.idle w) P → P.calls.Nodup →
      ∀ id e, (id, .raise e) ∈ P.threads → Refusal e := by
  intro h
  have hpasses : Pool.passes (handleTransition lawfulRuntime fun _ => untraced) checkStored
      (.idle world) (.start 0 :: List.replicate 4 (.move 0 false)) = true := by
    decide +kernel
  have hreach : Pool.Reach (handleTransition lawfulRuntime fun _ => untraced)
      (validTransition fun _ => untraced) (.idle world) untracedRun := by
    refine Pool.reach_play_of_passes ?_ _ _ hpasses
    intro actor id w w' hcall hcheck
    cases actor with
    | start => exact ⟨Nat.le_refl 1, rfl, Option.isSome_iff_ne_none.mp hcheck⟩
    | «by» => trivial
    | env => cases hcall
  have hraised : raisedFirst untracedRun =
      some (0, .validationError "String should have at least 1 character") := by
    decide +kernel
  have hmem : (0, .raise (.validationError "String should have at least 1 character")) ∈
      untracedRun.threads := by
    unfold raisedFirst at hraised
    split at hraised
    · rename_i hthreads
      cases hraised
      rw [hthreads]
      exact List.mem_cons_self
    · cases hraised
  rcases h lawfulRuntime _ world untracedRun auditReady_world hreach (by decide +kernel) _ _ hmem with
    ⟨_, _, _, heq⟩ | ⟨_, _, _, heq⟩
  · cases heq
  · cases heq

end ChangeOps
