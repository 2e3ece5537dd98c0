import ChangeOps.Lib.Cursor
import ChangeOps.Persistence.Memory

/-!
# ChangeOps.Persistence — the audit trail of a change

`list_audit_after` of `InMemoryChangeStateRepository` (`changeops_persistence/memory.py`), the
methods that append to an audit trail, and what a trail holds after them.
-/

namespace ChangeOps

/-- The order of `list_audit_after`: `key=lambda event: (event.created_at, event.audit_event_id)`. -/
def auditLe (a b : AuditEvent) : Prop :=
  a.createdAt < b.createdAt ∨ (a.createdAt = b.createdAt ∧ a.auditEventId ≤ b.auditEventId)

instance : DecidableRel auditLe := fun a b =>
  inferInstanceAs (Decidable (a.createdAt < b.createdAt ∨
    (a.createdAt = b.createdAt ∧ a.auditEventId ≤ b.auditEventId)))

instance : Std.Total auditLe where
  total a b := by
    unfold auditLe
    rcases Nat.lt_trichotomy a.createdAt b.createdAt with h | h | h
    · exact Or.inl (Or.inl h)
    · rcases String.le_total a.auditEventId b.auditEventId with hid | hid
      · exact Or.inl (Or.inr ⟨h, hid⟩)
      · exact Or.inr (Or.inr ⟨h.symm, hid⟩)
    · exact Or.inr (Or.inl h)

instance : IsTrans AuditEvent auditLe where
  trans a b c := by
    rintro (hab | ⟨hab, hid⟩) (hbc | ⟨hbc, hid'⟩)
    · exact Or.inl (Nat.lt_trans hab hbc)
    · exact Or.inl (by rw [← hbc]; exact hab)
    · exact Or.inl (by rw [hab]; exact hbc)
    · exact Or.inr ⟨hab.trans hbc, String.le_trans hid hid'⟩

/-- The order decides between events with different ids. -/
theorem auditEventId_eq_of_auditLe {a b : AuditEvent} (hab : auditLe a b) (hba : auditLe b a) :
    a.auditEventId = b.auditEventId := by
  rcases hab with hab | ⟨hab, hid⟩
  · rcases hba with hba | ⟨hba, -⟩
    · exact absurd (Nat.lt_trans hab hba) (Nat.lt_irrefl _)
    · exact absurd hab (by rw [hba]; exact Nat.lt_irrefl _)
  · rcases hba with hba | ⟨-, hid'⟩
    · exact absurd hba (by rw [hab]; exact Nat.lt_irrefl _)
    · exact String.le_antisymm hid hid'

namespace InMemoryChangeStateRepository

/-- The events of a change in the order of their appends: `self._audit[(tenant_id, event_id)]`
for each listed id. -/
def auditEvents (repo : InMemoryChangeStateRepository) (key : String × String) :
    Except Exn (List AuditEvent) :=
  (repo.auditIdsByChange.getD key []).mapM fun eventId =>
    match repo.audit.get? (key.1, eventId) with
    | some event => .ok event
    | none => .error (.other "KeyError")

def listAuditAfter (repo : InMemoryChangeStateRepository) (tenantId changeId : String)
    (afterEventId : Option String) (limit : Nat) : Except Exn (List AuditEvent) := do
  let _ ← repo.get tenantId changeId
  let events ← repo.auditEvents (tenantId, changeId)
  match Cursor.after AuditEvent.auditEventId afterEventId (events.insertionSort auditLe) with
  | none => .error (.other "AuditCursorNotFoundError")
  | some events => .ok (events.take limit)

/-! ## What a trail holds -/

/-- The events appended to a change: they are listed in this order, under ids of their own, and
the change is stored. -/
structure Trail (repo : InMemoryChangeStateRepository) (key : String × String)
    (events : List AuditEvent) : Prop where
  ids : repo.auditIdsByChange.getD key [] = events.map AuditEvent.auditEventId
  held : ∀ event ∈ events, repo.audit.get? (key.1, event.auditEventId) = some event
  nodup : (events.map AuditEvent.auditEventId).Nodup
  stored : events ≠ [] → repo.stored? key ≠ none

namespace Trail

variable {repo : InMemoryChangeStateRepository} {key : String × String} {events : List AuditEvent}

theorem empty (key : String × String) : Trail .empty key [] where
  ids := rfl
  held _ h := by cases h
  nodup := List.nodup_nil
  stored h := absurd rfl h

theorem auditEvents_eq (h : Trail repo key events) : repo.auditEvents key = .ok events := by
  unfold auditEvents
  rw [h.ids]
  have hheld := h.held
  clear h
  induction events with
  | nil => rfl
  | cons event events ih =>
    have hrest := ih fun event hmem => hheld event (List.mem_cons_of_mem _ hmem)
    simp only [List.map_cons, List.mapM_cons, hheld event List.mem_cons_self, hrest, bind,
      Except.bind, pure, Except.pure]

/-- Between two events of a trail the order decides. -/
theorem antisymm (h : Trail repo key events) :
    ∀ a ∈ events, ∀ b ∈ events, auditLe a b → auditLe b a → a = b := by
  intro a ha b hb hab hba
  exact List.inj_on_of_nodup_map h.nodup ha hb (auditEventId_eq_of_auditLe hab hba)

theorem nodup_sorted (h : Trail repo key events) :
    ((events.insertionSort auditLe).map AuditEvent.auditEventId).Nodup :=
  (((List.perm_insertionSort auditLe events).map _).nodup_iff).mpr h.nodup

/-- With the last event read as its cursor, `list_audit_after` goes on where the reading stopped. -/
theorem listAuditAfter_eq {tenantId changeId : String} (h : Trail repo (tenantId, changeId) events)
    (hstored : repo.stored? (tenantId, changeId) ≠ none) {read rest : List AuditEvent}
    (hsplit : read ++ rest = events.insertionSort auditLe) (limit : Nat) :
    repo.listAuditAfter tenantId changeId (read.getLast?.map AuditEvent.auditEventId) limit =
      .ok (rest.take limit) := by
  obtain ⟨change, hchange⟩ := Option.ne_none_iff_exists'.mp hstored
  have hafter : Cursor.after AuditEvent.auditEventId
      (read.getLast?.map AuditEvent.auditEventId) (events.insertionSort auditLe) = some rest := by
    rw [← hsplit]
    apply Cursor.after_of_append
    rw [hsplit]
    exact h.nodup_sorted
  unfold listAuditAfter
  rw [get_eq_ok.mpr hchange, h.auditEvents_eq]
  simp only [bind, Except.bind]
  rw [hafter]

/-- Writes that leave the audit maps alone. -/
theorem of_eq (h : Trail repo key events) {repo' : InMemoryChangeStateRepository}
    (hids : repo'.auditIdsByChange = repo.auditIdsByChange) (haudit : repo'.audit = repo.audit)
    (hstored : repo.stored? key ≠ none → repo'.stored? key ≠ none) : Trail repo' key events where
  ids := by rw [hids]; exact h.ids
  held := by rw [haudit]; exact h.held
  nodup := h.nodup
  stored hne := hstored (h.stored hne)

/-- The events that an appended event adds to a trail. -/
def added (key : String × String) (event : AuditEvent) : List AuditEvent :=
  if (event.tenantId, event.changeId) = key then [event] else []

/-- An event is appended under a new id to a stored change. -/
theorem appendAudit (h : Trail repo key events) {event : AuditEvent}
    (hnew : repo.audit.get? (event.tenantId, event.auditEventId) = none)
    (hstored : repo.stored? (event.tenantId, event.changeId) ≠ none) :
    Trail (repo.appendAudit event) key (events ++ added key event) := by
  have hheld : ∀ e ∈ events,
      (repo.appendAudit event).audit.get? (key.1, e.auditEventId) = some e := by
    intro e hmem
    have hold := h.held e hmem
    rw [audit_appendAudit, Dict.get?_set_ne, hold]
    intro heq
    rw [heq, hnew] at hold
    cases hold
  unfold added
  split_ifs with hkey
  · subst hkey
    refine ⟨?_, ?_, ?_, fun _ => hstored⟩
    · show Dict.getD (Dict.set _ _ _) _ [] = _
      rw [Dict.getD, Dict.get?_set_self, Option.getD_some, h.ids]
      simp
    · intro e hmem
      rcases List.mem_append.mp hmem with hold | hsame
      · exact hheld e hold
      · obtain rfl := List.mem_singleton.mp hsame
        exact Dict.get?_set_self _ _ _
    · -- the id is new for the tenant, so no event of the trail has it
      rw [List.map_append, List.nodup_append]
      refine ⟨h.nodup, by simp, ?_⟩
      intro id hmem id' hmem' heq
      obtain ⟨e, he, rfl⟩ := List.mem_map.mp hmem
      have hid : e.auditEventId = event.auditEventId := by simpa [heq] using hmem'
      have hold := h.held e he
      rw [hid, hnew] at hold
      cases hold
  · rw [List.append_nil]
    refine ⟨?_, hheld, h.nodup, h.stored⟩
    show Dict.getD (Dict.set _ _ _) _ [] = _
    rw [Dict.getD, Dict.get?_set_ne _ _ (Ne.symm hkey)]
    exact h.ids

end Trail

/-! ## The writes -/

/-- A call of a method that writes. -/
inductive Write where
  | add (change : ChangeRecord)
  | addWithAudit (change : ChangeRecord) (auditEvent : AuditEvent)
  | commitTransition (change : ChangeRecord) (auditEvent : AuditEvent) (expectedVersion : Nat)
  | recordAudit (auditEvent : AuditEvent)

def Write.run : Write → InMemoryChangeStateRepository →
    Except Exn Unit × InMemoryChangeStateRepository
  | .add change => InMemoryChangeStateRepository.add change
  | .addWithAudit change auditEvent => InMemoryChangeStateRepository.addWithAudit change auditEvent
  | .commitTransition change auditEvent expectedVersion =>
      InMemoryChangeStateRepository.commitTransition change auditEvent expectedVersion
  | .recordAudit auditEvent => InMemoryChangeStateRepository.recordAudit auditEvent

/-- The event that a call appends if it returns. -/
def Write.auditEvent? : Write → Option AuditEvent
  | .add _ => none
  | .addWithAudit _ auditEvent => some auditEvent
  | .commitTransition _ auditEvent _ => some auditEvent
  | .recordAudit auditEvent => some auditEvent

/-- The events that a call appends to the trail of a change. -/
def Write.appended (write : Write) (repo : InMemoryChangeStateRepository) (key : String × String) :
    List AuditEvent :=
  match (write.run repo).1, write.auditEvent? with
  | .ok (), some event => Trail.added key event
  | _, _ => []

/-- The parts of a check that passed. -/
theorem bind_eq_ok {ε α β : Type} {x : Except ε α} {f : α → Except ε β} {b : β}
    (h : (x >>= f) = .ok b) : ∃ a, x = .ok a ∧ f a = .ok b := by
  cases x with
  | error e => cases h
  | ok a => exact ⟨a, rfl, h⟩

theorem ensureNewAuditId_of_ok {repo : InMemoryChangeStateRepository} {event : AuditEvent}
    (h : repo.ensureNewAuditId event = .ok ()) :
    repo.audit.get? (event.tenantId, event.auditEventId) = none := by
  unfold ensureNewAuditId at h
  split_ifs at h with hsome
  simpa using hsome

theorem validateAuditScope_of_ok {change : ChangeRecord} {event : AuditEvent}
    (h : validateAuditScope change event = .ok ()) :
    (event.tenantId, event.changeId) = (change.tenantId, change.changeId) := by
  unfold validateAuditScope at h
  split_ifs at h with hscope
  rw [not_or, not_not, not_not] at hscope
  rw [hscope.1, hscope.2]

theorem get_of_ok {repo : InMemoryChangeStateRepository} {tenantId changeId : String}
    {change : ChangeRecord} (h : repo.get tenantId changeId = .ok change) :
    repo.stored? (tenantId, changeId) ≠ none := by
  rw [get_eq_ok.mp h]
  exact Option.some_ne_none _

theorem stored?_put_ne_none {repo : InMemoryChangeStateRepository} (change : ChangeRecord)
    {key : String × String} (h : repo.stored? key ≠ none) : (repo.put change).stored? key ≠ none := by
  by_cases hkey : key = (change.tenantId, change.changeId)
  · rw [hkey, stored?_put_self]
    exact Option.some_ne_none _
  · rw [stored?_put_ne repo hkey]
    exact h

/-- What a write can do: raise and change nothing, add a change without an event, or append the
event that it was given, under a new id, to a change that is stored by then. -/
theorem Write.run_cases (write : Write) (repo : InMemoryChangeStateRepository) :
    (∃ e, write.run repo = (.error e, repo)) ∨
      (∃ change, write = .add change ∧
        write.run repo = (.ok (), (repo.put change).claimId change)) ∨
      (∃ (event : AuditEvent) (base : InMemoryChangeStateRepository), write.auditEvent? = some event ∧
        (base.audit = repo.audit ∧ base.auditIdsByChange = repo.auditIdsByChange ∧
          ∀ key, repo.stored? key ≠ none → base.stored? key ≠ none) ∧
        repo.audit.get? (event.tenantId, event.auditEventId) = none ∧
        base.stored? (event.tenantId, event.changeId) ≠ none ∧
        write.run repo = (.ok (), base.appendAudit event)) := by
  cases write with
  | add change =>
    simp only [run, InMemoryChangeStateRepository.add]
    rcases guarded_cases repo _ fun repo => (repo.put change).claimId change with
      ⟨e, -, heq⟩ | ⟨-, heq⟩
    · exact Or.inl ⟨e, heq⟩
    · exact Or.inr (Or.inl ⟨change, rfl, heq⟩)
  | addWithAudit change event =>
    simp only [run, InMemoryChangeStateRepository.addWithAudit]
    rcases guarded_cases repo _
      fun repo => ((repo.put change).claimId change).appendAudit event with
      ⟨e, -, heq⟩ | ⟨hchecks, heq⟩
    · exact Or.inl ⟨e, heq⟩
    · split_ifs at hchecks with hexists
      · obtain ⟨_, hthrow, -⟩ := bind_eq_ok hchecks
        cases hthrow
      obtain ⟨_, hscope, hnew⟩ := bind_eq_ok hchecks
      refine Or.inr (Or.inr ⟨event, (repo.put change).claimId change, rfl,
        ⟨rfl, rfl, fun _ => stored?_put_ne_none change⟩, ensureNewAuditId_of_ok hnew, ?_, heq⟩)
      rw [validateAuditScope_of_ok hscope, stored?_claimId, stored?_put_self]
      exact Option.some_ne_none _
  | commitTransition change event expectedVersion =>
    simp only [run, InMemoryChangeStateRepository.commitTransition]
    rcases guarded_cases repo _ fun repo => (repo.put change).appendAudit event with
      ⟨e, -, heq⟩ | ⟨hchecks, heq⟩
    · exact Or.inl ⟨e, heq⟩
    · obtain ⟨current, -, hchecks⟩ := bind_eq_ok hchecks
      obtain ⟨_, hscope, hchecks⟩ := bind_eq_ok hchecks
      obtain ⟨_, hnew, -⟩ := bind_eq_ok hchecks
      refine Or.inr (Or.inr ⟨event, repo.put change, rfl,
        ⟨rfl, rfl, fun _ => stored?_put_ne_none change⟩, ensureNewAuditId_of_ok hnew, ?_, heq⟩)
      rw [validateAuditScope_of_ok hscope, stored?_put_self]
      exact Option.some_ne_none _
  | recordAudit event =>
    simp only [run, InMemoryChangeStateRepository.recordAudit]
    rcases guarded_cases repo _ fun repo => repo.appendAudit event with
      ⟨e, -, heq⟩ | ⟨hchecks, heq⟩
    · exact Or.inl ⟨e, heq⟩
    · obtain ⟨change, hget, hnew⟩ := bind_eq_ok hchecks
      exact Or.inr (Or.inr ⟨event, repo, rfl, ⟨rfl, rfl, fun _ h => h⟩, ensureNewAuditId_of_ok hnew,
        get_of_ok hget, heq⟩)

theorem Write.stored?_run_ne_none (write : Write) {repo : InMemoryChangeStateRepository}
    {key : String × String} (h : repo.stored? key ≠ none) :
    (write.run repo).2.stored? key ≠ none := by
  rcases write.run_cases repo with ⟨e, hrun⟩ | ⟨change, -, hrun⟩ | ⟨event, base, -, hbase, -, -, hrun⟩
  · rw [hrun]
    exact h
  · rw [hrun]
    exact stored?_put_ne_none change h
  · rw [hrun]
    exact hbase.2.2 key h

/-- A call appends one event to a trail, or none. -/
theorem Write.appended_cases (write : Write) (repo : InMemoryChangeStateRepository)
    (key : String × String) :
    write.appended repo key = [] ∨ ∃ event, write.appended repo key = [event] := by
  unfold Write.appended
  rcases write.run_cases repo with ⟨e, hrun⟩ | ⟨change, rfl, hrun⟩ |
    ⟨event, base, hevent, -, -, -, hrun⟩
  · rw [hrun]
    exact Or.inl rfl
  · rw [hrun]
    exact Or.inl rfl
  · rw [hrun, hevent]
    show Trail.added key event = [] ∨ ∃ event', Trail.added key event = [event']
    unfold Trail.added
    split_ifs
    · exact Or.inr ⟨event, rfl⟩
    · exact Or.inl rfl

namespace Trail

variable {repo : InMemoryChangeStateRepository} {key : String × String} {events : List AuditEvent}

theorem put (h : Trail repo key events) (change : ChangeRecord) : Trail (repo.put change) key events :=
  h.of_eq rfl rfl (stored?_put_ne_none change)

theorem claimId (h : Trail repo key events) (change : ChangeRecord) :
    Trail (repo.claimId change) key events :=
  h.of_eq rfl rfl fun hstored => hstored

/-- A call that raises leaves the trail as it is, a call that returns appends its event. -/
theorem write (h : Trail repo key events) (write : Write) :
    Trail (write.run repo).2 key (events ++ write.appended repo key) := by
  unfold Write.appended
  rcases write.run_cases repo with ⟨e, hrun⟩ | ⟨change, rfl, hrun⟩ |
    ⟨event, base, hevent, hbase, hnew, hstored, hrun⟩
  · rw [hrun]
    simpa using h
  · rw [hrun]
    simpa [Write.auditEvent?] using (h.put change).claimId change
  · rw [hrun, hevent]
    rw [← hbase.1] at hnew
    exact (h.of_eq hbase.2.1 hbase.1 (hbase.2.2 key)).appendAudit hnew hstored

end Trail

end InMemoryChangeStateRepository

end ChangeOps
