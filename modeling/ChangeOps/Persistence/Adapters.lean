import ChangeOps.Persistence.AuditTrail
import ChangeOps.Persistence.Firestore

/-!
# ChangeOps.Persistence — one contract, two adapters

The services hold a change repository and do not know which. `ChangeCall` is a call of any of its
methods; `onMemory` and `onFirestore` make it on either adapter.

`Mirrors` says how the two stores correspond: the database holds each change under its key, each
audit event under its change and again in the index of its tenant. A call whose identifiers, scope
and times are as the callers promise answers alike on corresponding stores and leaves
corresponding stores (`Mirrors.step`); the law about whole sequences is an induction over that.
-/

namespace ChangeOps

open InMemoryChangeStateRepository
open FirestoreChangeStateRepository (changeReference_of_valid auditReference_of_valid
  auditIndexReference_of_valid createAudit_of_new)

/-! ## Listings of the in-memory adapter -/

/-- `key=lambda change: (change.updated_at, change.change_id), reverse=True`. -/
def changeGe (a b : ChangeRecord) : Prop :=
  b.updatedAt < a.updatedAt ∨ (b.updatedAt = a.updatedAt ∧ b.changeId ≤ a.changeId)

instance : DecidableRel changeGe := fun a b =>
  inferInstanceAs (Decidable (b.updatedAt < a.updatedAt ∨
    (b.updatedAt = a.updatedAt ∧ b.changeId ≤ a.changeId)))

/-- `key=lambda event: (event.created_at, event.audit_event_id), reverse=True`. -/
def auditGe (a b : AuditEvent) : Prop := auditLe b a

instance : DecidableRel auditGe := fun a b => inferInstanceAs (Decidable (auditLe b a))

namespace InMemoryChangeStateRepository

/-- The changes of a tenant, in the order of the dictionary. -/
def changesOf (repo : InMemoryChangeStateRepository) (tenantId : String) : List ChangeRecord :=
  (repo.changes.entries.filter fun entry => entry.1.1 = tenantId).map Prod.snd

def listChanges (repo : InMemoryChangeStateRepository) (tenantId : String) (limit : Nat) :
    List ChangeRecord :=
  ((repo.changesOf tenantId).insertionSort changeGe).take limit

def listAudit (repo : InMemoryChangeStateRepository) (tenantId changeId : String) :
    Except Exn (List AuditEvent) :=
  repo.listAuditAfter tenantId changeId none 10000

/-- The audit events of a tenant, in the order of the dictionary. -/
def auditOf (repo : InMemoryChangeStateRepository) (tenantId : String) : List AuditEvent :=
  (repo.audit.entries.filter fun entry => entry.1.1 = tenantId).map Prod.snd

def listTenantAudit (repo : InMemoryChangeStateRepository) (tenantId : String) (limit : Nat) :
    List AuditEvent :=
  ((repo.auditOf tenantId).insertionSort auditGe).take limit

end InMemoryChangeStateRepository

/-! ## The contract -/

/-- A call of `ChangeStateRepository`. -/
inductive ChangeCall where
  | add (change : ChangeRecord)
  | addWithAudit (change : ChangeRecord) (auditEvent : AuditEvent)
  | get (tenantId changeId : String)
  | listChanges (tenantId : String) (limit : Nat)
  | commitTransition (change : ChangeRecord) (auditEvent : AuditEvent) (expectedVersion : Nat)
  | recordAudit (auditEvent : AuditEvent)
  | listAudit (tenantId changeId : String)
  | listAuditAfter (tenantId changeId : String) (afterEventId : Option String) (limit : Nat)
  | listTenantAudit (tenantId : String) (limit : Nat)

/-- What a call returns. -/
inductive ChangeAnswer where
  | none
  | change (change : ChangeRecord)
  | changes (changes : List ChangeRecord)
  | events (events : List AuditEvent)
deriving DecidableEq

namespace ChangeCall

def onMemory (repo : InMemoryChangeStateRepository) :
    ChangeCall → Except Exn ChangeAnswer × InMemoryChangeStateRepository
  | .add change => ((repo.add change).1.map fun _ => .none, (repo.add change).2)
  | .addWithAudit change auditEvent =>
      ((repo.addWithAudit change auditEvent).1.map fun _ => .none,
        (repo.addWithAudit change auditEvent).2)
  | .get tenantId changeId => ((repo.get tenantId changeId).map .change, repo)
  | .listChanges tenantId limit => (.ok (.changes (repo.listChanges tenantId limit)), repo)
  | .commitTransition change auditEvent expectedVersion =>
      ((repo.commitTransition change auditEvent expectedVersion).1.map fun _ => .none,
        (repo.commitTransition change auditEvent expectedVersion).2)
  | .recordAudit auditEvent =>
      ((repo.recordAudit auditEvent).1.map fun _ => .none, (repo.recordAudit auditEvent).2)
  | .listAudit tenantId changeId => ((repo.listAudit tenantId changeId).map .events, repo)
  | .listAuditAfter tenantId changeId afterEventId limit =>
      ((repo.listAuditAfter tenantId changeId afterEventId limit).map .events, repo)
  | .listTenantAudit tenantId limit => (.ok (.events (repo.listTenantAudit tenantId limit)), repo)

def onFirestore (server : Time → Time) (repo : FirestoreChangeStateRepository) :
    ChangeCall → Except Exn ChangeAnswer × FirestoreChangeStateRepository
  | .add change => ((repo.add change server).1.map fun _ => .none, (repo.add change server).2)
  | .addWithAudit change auditEvent =>
      ((repo.addWithAudit change auditEvent server).1.map fun _ => .none,
        (repo.addWithAudit change auditEvent server).2)
  | .get tenantId changeId => ((repo.get tenantId changeId).map .change, repo)
  | .listChanges tenantId limit => ((repo.listChanges tenantId limit).map .changes, repo)
  | .commitTransition change auditEvent expectedVersion =>
      ((repo.commitTransition change auditEvent expectedVersion server).1.map fun _ => .none,
        (repo.commitTransition change auditEvent expectedVersion server).2)
  | .recordAudit auditEvent =>
      ((repo.recordAudit auditEvent server).1.map fun _ => .none,
        (repo.recordAudit auditEvent server).2)
  | .listAudit tenantId changeId => ((repo.listAudit tenantId changeId).map .events, repo)
  | .listAuditAfter tenantId changeId afterEventId limit =>
      ((repo.listAuditAfter tenantId changeId afterEventId limit).map .events, repo)
  | .listTenantAudit tenantId limit => ((repo.listTenantAudit tenantId limit).map .events, repo)

/-! ### What the callers promise -/

/-- The identifiers that the adapters build document paths from. -/
def documentIds : ChangeCall → List String
  | .add change => [change.tenantId, change.changeId]
  | .addWithAudit change auditEvent => [change.tenantId, change.changeId, auditEvent.auditEventId]
  | .get tenantId changeId => [tenantId, changeId]
  | .listChanges tenantId _ => [tenantId]
  | .commitTransition change auditEvent _ =>
      [change.tenantId, change.changeId, auditEvent.auditEventId]
  | .recordAudit auditEvent => [auditEvent.tenantId, auditEvent.changeId, auditEvent.auditEventId]
  | .listAudit tenantId changeId => [tenantId, changeId]
  | .listAuditAfter tenantId changeId afterEventId _ => [tenantId, changeId] ++ afterEventId.toList
  | .listTenantAudit tenantId _ => [tenantId]

/-- The change and the event that a call writes together. -/
def paired? : ChangeCall → Option (ChangeRecord × AuditEvent)
  | .addWithAudit change auditEvent => some (change, auditEvent)
  | .commitTransition change auditEvent _ => some (change, auditEvent)
  | _ => none

/-- The times that the server supplies instead of the caller. -/
def stampedTimes : ChangeCall → List Time
  | .add change => [change.createdAt, change.updatedAt]
  | .addWithAudit change auditEvent => [change.createdAt, change.updatedAt, auditEvent.createdAt]
  | .commitTransition change auditEvent _ => [change.updatedAt, auditEvent.createdAt]
  | .recordAudit auditEvent => [auditEvent.createdAt]
  | _ => []

/-- The tenant and the id of the audit event of a call. -/
def auditKey? : ChangeCall → Option (String × String)
  | .addWithAudit _ auditEvent => some (auditEvent.tenantId, auditEvent.auditEventId)
  | .commitTransition _ auditEvent _ => some (auditEvent.tenantId, auditEvent.auditEventId)
  | .recordAudit auditEvent => some (auditEvent.tenantId, auditEvent.auditEventId)
  | _ => none

/-- Document ids that are valid, an audit scope that matches the change, and a server that writes
the times which the caller has supplied. -/
structure Promised (call : ChangeCall) (server : Time → Time) : Prop where
  valid : ∀ id ∈ call.documentIds, isDocumentId id = true
  scope : ∀ pair ∈ call.paired?,
    (pair.2.tenantId, pair.2.changeId) = (pair.1.tenantId, pair.1.changeId)
  times : ∀ t ∈ call.stampedTimes, server t = t

end ChangeCall

/-- The failures that callers do not tell apart: a change that another tenant has is not found. -/
def Exn.identified : Exn → Exn
  | .tenantScopeViolation tenantId changeId => .changeNotFound tenantId changeId
  | e => e

/-! ## Corresponding stores -/

/-- The document of a change with the times that its record has. -/
def ChangeRecord.document (change : ChangeRecord) : ChangeDocument := changeDocument change false id

/-- The database holds what the dictionaries hold. -/
structure Mirrors (repo : InMemoryChangeStateRepository) (store : FirestoreChangeStateRepository) :
    Prop where
  changes : ∀ key, store.changes.get? key = (repo.stored? key).map ChangeRecord.document
  index : ∀ key, store.auditIndex.get? key = repo.audit.get? key
  audit : ∀ tenantId changeId id, store.audit.get? ((tenantId, changeId), id) =
    (repo.audit.get? (tenantId, id)).filter (·.changeId = changeId)
  keyed : ∀ key event, repo.audit.get? key = some event →
    (event.tenantId, event.auditEventId) = key
  trails : ∀ key, ∃ events, Trail repo key events ∧ ∀ event, event ∈ events ↔
    repo.audit.get? (key.1, event.auditEventId) = some event ∧ event.changeId = key.2

namespace Mirrors

theorem empty : Mirrors .empty .empty where
  changes _ := rfl
  index _ := rfl
  audit _ _ _ := rfl
  keyed _ _ h := by cases h
  trails key := by
    refine ⟨[], Trail.empty key, fun event => ⟨fun hmem => ?_, fun hheld => ?_⟩⟩
    · cases hmem
    · cases hheld.1

variable {repo : InMemoryChangeStateRepository} {store : FirestoreChangeStateRepository}

/-! ### Reading -/

theorem document_modelValidate (change : ChangeRecord) :
    change.document.modelValidate = .ok change :=
  ChangeDocument.modelValidate_changeDocument change.created_le_updated

/-- `get` finds the same change, or neither adapter has it. -/
theorem get_cases (h : Mirrors repo store) {tenantId changeId : String}
    (htenant : isDocumentId tenantId = true) (hchange : isDocumentId changeId = true) :
    (∃ change, repo.stored? (tenantId, changeId) = some change ∧
      repo.get tenantId changeId = .ok change ∧ store.get tenantId changeId = .ok change) ∨
    (∃ e, repo.stored? (tenantId, changeId) = none ∧ repo.get tenantId changeId = .error e ∧
      e.identified = .changeNotFound tenantId changeId ∧
      store.get tenantId changeId = .error (.changeNotFound tenantId changeId)) := by
  have hdocument := h.changes (tenantId, changeId)
  have hreference := changeReference_of_valid htenant hchange
  cases hstored : repo.stored? (tenantId, changeId) with
  | some change =>
    rw [hstored, Option.map_some] at hdocument
    refine Or.inl ⟨change, rfl, get_eq_ok.mpr hstored, ?_⟩
    simp only [FirestoreChangeStateRepository.get, hreference,
      FirestoreChangeStateRepository.snapshot, hdocument, bind, Except.bind]
    exact document_modelValidate change
  | none =>
    rw [hstored, Option.map_none] at hdocument
    have hget : ∃ e, repo.get tenantId changeId = .error e ∧
        e.identified = .changeNotFound tenantId changeId := by
      unfold InMemoryChangeStateRepository.get
      rw [hstored]
      dsimp only
      split_ifs
      · exact ⟨_, rfl, rfl⟩
      · exact ⟨_, rfl, rfl⟩
    obtain ⟨e, hget, hidentified⟩ := hget
    refine Or.inr ⟨e, rfl, hget, hidentified, ?_⟩
    simp [FirestoreChangeStateRepository.get, hreference, FirestoreChangeStateRepository.snapshot,
      hdocument, bind, Except.bind]

/-- The changes of a tenant under their ids are a collection. -/
theorem collection_changes (repo : InMemoryChangeStateRepository) (tenantId : String) :
    Documents.collection repo.changes tenantId =
      (repo.changesOf tenantId).map fun change => (change.changeId, change) := by
  rw [Documents.collection, changesOf, List.map_map]
  apply List.map_congr_left
  intro entry hmem
  have hstored := Dict.get?_of_mem (List.mem_filter.mp hmem).1
  have hkey := repo.keyed entry.1 entry.2 hstored
  show (entry.1.2, entry.2) = (entry.2.changeId, entry.2)
  rw [← hkey]

theorem collection_audit (h : Mirrors repo store) (tenantId : String) :
    Documents.collection repo.audit tenantId =
      (repo.auditOf tenantId).map fun event => (event.auditEventId, event) := by
  rw [Documents.collection, auditOf, List.map_map]
  apply List.map_congr_left
  intro entry hmem
  have hkey := h.keyed entry.1 entry.2 (Dict.get?_of_mem (List.mem_filter.mp hmem).1)
  show (entry.1.2, entry.2) = (entry.2.auditEventId, entry.2)
  rw [← hkey]

/-- Documents that all pass the check are read as what they were made from. -/
theorem mapM_modelValidate (l : List ChangeRecord) :
    (l.map fun change => (change.changeId, change.document)).mapM
      (fun document => document.2.modelValidate) = .ok l := by
  induction l with
  | nil => rfl
  | cons change l ih =>
    simp only [List.map_cons, List.mapM_cons, document_modelValidate, ih, bind, Except.bind, pure,
      Except.pure]

theorem listChanges_eq (h : Mirrors repo store) {tenantId : String}
    (htenant : isDocumentId tenantId = true) (limit : Nat) :
    store.listChanges tenantId limit = .ok (repo.listChanges tenantId limit) := by
  have hperm : (Documents.collection store.changes tenantId).Perm
      ((repo.changesOf tenantId).map fun change => (change.changeId, change.document)) := by
    have hnames := Documents.nodup_names repo.changes tenantId
    rw [collection_changes, List.map_map] at hnames
    apply Documents.collection_perm
    · rw [List.map_map]
      exact hnames
    · intro name document
      rw [h.changes]
      constructor
      · intro hmem
        obtain ⟨change, hchange, heq⟩ := List.mem_map.mp hmem
        have hstored : (change.changeId, change) ∈ Documents.collection repo.changes tenantId := by
          rw [collection_changes]
          exact List.mem_map_of_mem hchange
        cases heq
        rw [stored?, Documents.mem_collection.mp hstored, Option.map_some]
      · intro hget
        obtain ⟨change, hstored, rfl⟩ := Option.map_eq_some_iff.mp hget
        have hmem := Documents.mem_collection.mpr hstored
        rw [collection_changes] at hmem
        obtain ⟨change', hchange, heq⟩ := List.mem_map.mp hmem
        cases heq
        exact List.mem_map_of_mem (f := fun change : ChangeRecord => (change.changeId, change.document))
          hchange
  have hquery := Documents.query_eq (Documents.fieldGe ChangeDocument.updatedAt) changeGe
    (fun hab hba => Documents.name_eq_of_fieldLe hba hab) _ (fun _ _ _ _ => Iff.rfl) hperm
  simp only [FirestoreChangeStateRepository.listChanges, validateDocumentId_of_valid htenant,
    Documents.descending, hquery, bind, Except.bind, ← List.map_take]
  exact mapM_modelValidate _

theorem listTenantAudit_eq (h : Mirrors repo store) {tenantId : String}
    (htenant : isDocumentId tenantId = true) (limit : Nat) :
    store.listTenantAudit tenantId limit = .ok (repo.listTenantAudit tenantId limit) := by
  have hperm : (Documents.collection store.auditIndex tenantId).Perm
      ((repo.auditOf tenantId).map fun event => (event.auditEventId, event)) := by
    rw [← h.collection_audit]
    apply Documents.collection_perm (Documents.nodup_names repo.audit tenantId)
    intro name document
    rw [Documents.mem_collection, h.index]
  have hquery := Documents.query_eq (Documents.fieldGe AuditEvent.createdAt) auditGe
    (fun hab hba => Documents.name_eq_of_fieldLe hba hab) _ (fun _ _ _ _ => Iff.rfl) hperm
  simp only [FirestoreChangeStateRepository.listTenantAudit, validateDocumentId_of_valid htenant,
    Documents.descending, hquery, bind, Except.bind, pure, Except.pure, ← List.map_take,
    List.map_map]
  exact congrArg Except.ok (List.map_id _)

theorem listAuditAfter_eq (h : Mirrors repo store) {tenantId changeId : String}
    (htenant : isDocumentId tenantId = true) (hchange : isDocumentId changeId = true)
    {afterEventId : Option String} (hafter : ∀ id ∈ afterEventId, isDocumentId id = true)
    (limit : Nat) :
    (repo.listAuditAfter tenantId changeId afterEventId limit).mapError Exn.identified =
      (store.listAuditAfter tenantId changeId afterEventId limit).mapError Exn.identified := by
  rcases h.get_cases htenant hchange with ⟨change, -, hget, hget'⟩ | ⟨e, -, hget, he, hget'⟩
  swap
  · simp only [InMemoryChangeStateRepository.listAuditAfter,
      FirestoreChangeStateRepository.listAuditAfter, hget, hget', bind, Except.bind,
      Except.mapError]
    exact congrArg Except.error he
  have hreference := changeReference_of_valid htenant hchange
  obtain ⟨events, htrail, hevents⟩ := h.trails (tenantId, changeId)
  -- the audit documents of the change are the events of its trail
  have hdocument : ∀ name event, (name, event) ∈ (events.map fun event => (event.auditEventId, event)) ↔
      store.audit.get? ((tenantId, changeId), name) = some event := by
    intro name event
    rw [h.audit, Option.filter_eq_some_iff, decide_eq_true_eq]
    constructor
    · intro hmem
      obtain ⟨event', hevent, heq⟩ := List.mem_map.mp hmem
      cases heq
      exact (hevents event).mp hevent
    · intro hheld
      have hkey := h.keyed _ _ hheld.1
      have hname : event.auditEventId = name := (Prod.mk.inj hkey).2
      have hmem := (hevents event).mpr (by rw [hname]; exact hheld)
      exact hname ▸ List.mem_map_of_mem (f := fun event : AuditEvent => (event.auditEventId, event)) hmem
  have hnames : ((events.map fun event => (event.auditEventId, event)).map Prod.fst).Nodup := by
    rw [List.map_map]
    exact htrail.nodup
  have hquery := Documents.query_eq (Documents.fieldLe AuditEvent.createdAt) auditLe
    (fun hab hba => Documents.name_eq_of_fieldLe hab hba) _ (fun _ _ _ _ => Iff.rfl)
    (Documents.collection_perm hnames hdocument)
  have hsorted : Documents.ascending AuditEvent.createdAt
      (Documents.collection store.audit (tenantId, changeId)) =
      (events.insertionSort auditLe).map fun event => (event.auditEventId, event) := hquery
  simp only [InMemoryChangeStateRepository.listAuditAfter,
    FirestoreChangeStateRepository.listAuditAfter, hget, hget', hreference, htrail.auditEvents_eq,
    hsorted, bind, Except.bind]
  cases afterEventId with
  | none =>
    simp [Cursor.after, ← List.map_take, List.map_map, Function.comp_def, pure, Except.pure]
  | some id =>
    simp only [auditReference_of_valid htenant hchange (hafter id rfl)]
    cases hget : store.audit.get? ((tenantId, changeId), id) with
    | none =>
      have hno : ∀ event ∈ events.insertionSort auditLe, event.auditEventId ≠ id := by
        intro event hmem heq
        have hsome := (hdocument event.auditEventId event).mp
          (List.mem_map_of_mem (f := fun event : AuditEvent => (event.auditEventId, event))
            ((List.mem_insertionSort auditLe).mp hmem))
        rw [heq, hget] at hsome
        cases hsome
      rw [Cursor.after_eq_none hno]
      rfl
    | some cursor =>
      have hstart := Documents.after_eq_startAfter AuditEvent.createdAt
        (Documents.nodup_names store.audit (tenantId, changeId)) (Documents.mem_collection.mpr hget)
      rw [hsorted, Cursor.after_map] at hstart
      obtain ⟨rest, hrest, hmap⟩ := Option.map_eq_some_iff.mp hstart
      change Cursor.after AuditEvent.auditEventId (some id) _ = some rest at hrest
      rw [hrest]
      dsimp only
      rw [← hmap]
      simp [← List.map_take, List.map_map, Function.comp_def, pure, Except.pure]

/-! ### Writing -/

theorem changeDocument_eq {change : ChangeRecord} {server : Time → Time} (serverCreatedAt : Bool)
    (hcreated : serverCreatedAt = true → server change.createdAt = change.createdAt)
    (hupdated : server change.updatedAt = change.updatedAt) :
    changeDocument change serverCreatedAt server = change.document := by
  cases serverCreatedAt with
  | false => simp [ChangeRecord.document, changeDocument, hupdated]
  | true => simp [ChangeRecord.document, changeDocument, hupdated, hcreated rfl]

theorem auditDocument_eq {event : AuditEvent} {server : Time → Time}
    (h : server event.createdAt = event.createdAt) : auditDocument event server = event := by
  rw [auditDocument, h]

theorem put (h : Mirrors repo store) (change : ChangeRecord) :
    Mirrors (repo.put change) { store with
      changes := store.changes.set (change.tenantId, change.changeId) change.document } where
  changes key := by
    show (store.changes.set _ _).get? key = _
    rw [Dict.get?_set]
    split_ifs with hkey
    · rw [hkey, stored?_put_self, Option.map_some]
    · rw [stored?_put_ne repo hkey, h.changes]
  index := h.index
  audit := h.audit
  keyed := h.keyed
  trails key := by
    obtain ⟨events, htrail, hevents⟩ := h.trails key
    exact ⟨events, htrail.put change, hevents⟩

theorem claimId (h : Mirrors repo store) (change : ChangeRecord) :
    Mirrors (repo.claimId change) store where
  changes := h.changes
  index := h.index
  audit := h.audit
  keyed := h.keyed
  trails key := by
    obtain ⟨events, htrail, hevents⟩ := h.trails key
    exact ⟨events, htrail.claimId change, hevents⟩

/-- A new event is appended to both copies. -/
theorem appendAudit (h : Mirrors repo store) {event : AuditEvent}
    (hnew : repo.audit.get? (event.tenantId, event.auditEventId) = none)
    (hstored : repo.stored? (event.tenantId, event.changeId) ≠ none) :
    Mirrors (repo.appendAudit event) { store with
      audit := store.audit.set ((event.tenantId, event.changeId), event.auditEventId) event
      auditIndex := store.auditIndex.set (event.tenantId, event.auditEventId) event } where
  changes := h.changes
  index key := by
    show (store.auditIndex.set _ _).get? key = (repo.audit.set _ _).get? key
    rw [Dict.get?_set, Dict.get?_set, h.index]
  audit tenantId changeId id := by
    show (store.audit.set _ _).get? _ = ((repo.audit.set _ _).get? (tenantId, id)).filter _
    by_cases hid : (tenantId, id) = (event.tenantId, event.auditEventId)
    · obtain ⟨rfl, rfl⟩ := Prod.mk.inj hid
      rw [Dict.get?_set_self]
      by_cases hchange : changeId = event.changeId
      · rw [hchange, Dict.get?_set_self]
        simp [Option.filter]
      · -- the id is new for the tenant, so no other change has it either
        rw [Dict.get?_set_ne, h.audit, hnew]
        · simp [Option.filter, Ne.symm hchange]
        · intro heq
          exact hchange (Prod.mk.inj (Prod.mk.inj heq).1).2
    · rw [Dict.get?_set_ne _ _ hid, Dict.get?_set_ne, h.audit]
      intro heq
      obtain ⟨hkey, hname⟩ := Prod.mk.inj heq
      exact hid (Prod.ext (Prod.mk.inj hkey).1 hname)
  keyed key stored hget := by
    change (repo.audit.set _ _).get? key = some stored at hget
    rw [Dict.get?_set] at hget
    split_ifs at hget with hkey
    · cases hget
      exact hkey.symm
    · exact h.keyed key stored hget
  trails key := by
    obtain ⟨events, htrail, hevents⟩ := h.trails key
    refine ⟨events ++ Trail.added key event, htrail.appendAudit hnew hstored, fun other => ?_⟩
    show _ ↔ (repo.audit.set _ _).get? (key.1, other.auditEventId) = some other ∧ _
    rw [List.mem_append, hevents, Dict.get?_set, Trail.added]
    by_cases hid : (key.1, other.auditEventId) = (event.tenantId, event.auditEventId)
    · rw [if_pos hid, hid, hnew]
      simp only [reduceCtorEq, false_and, false_or, Option.some.injEq]
      constructor
      · intro hmem
        split_ifs at hmem with hkey
        · obtain rfl := List.mem_singleton.mp hmem
          exact ⟨rfl, congrArg Prod.snd hkey⟩
        · cases hmem
      · rintro ⟨rfl, hchange⟩
        rw [if_pos (Prod.ext (Prod.mk.inj hid).1.symm hchange)]
        exact List.mem_singleton_self _
    · rw [if_neg hid, or_iff_left]
      intro hmem
      split_ifs at hmem with hkey
      · obtain rfl := List.mem_singleton.mp hmem
        exact hid (by rw [← hkey])
      · cases hmem

end Mirrors

/-- A method has the same result on both adapters, up to the failures that callers identify, and
leaves corresponding stores. -/
structure Alike {α : Type} (memory : Except Exn α × InMemoryChangeStateRepository)
    (firestore : Except Exn α × FirestoreChangeStateRepository) : Prop where
  result : memory.1.mapError Exn.identified = firestore.1.mapError Exn.identified
  stores : Mirrors memory.2 firestore.2

theorem Except.mapError_map {ε ε' α β : Type} (f : ε → ε') (g : α → β) (x : Except ε α) :
    (x.map g).mapError f = (x.mapError f).map g := by
  cases x <;> rfl

theorem Alike.map {α β : Type} {memory : Except Exn α × InMemoryChangeStateRepository}
    {firestore : Except Exn α × FirestoreChangeStateRepository} (h : Alike memory firestore)
    (g : α → β) : Alike (memory.1.map g, memory.2) (firestore.1.map g, firestore.2) where
  result := by rw [Except.mapError_map, Except.mapError_map, h.result]
  stores := h.stores

namespace Mirrors

variable {repo : InMemoryChangeStateRepository} {store : FirestoreChangeStateRepository}
  {change : ChangeRecord} {event : AuditEvent} {server : Time → Time}

theorem document_of_stored (h : Mirrors repo store) {key : String × String}
    (hstored : repo.stored? key = some change) : store.changes.get? key = some change.document := by
  rw [h.changes, hstored, Option.map_some]

theorem document_of_none (h : Mirrors repo store) {key : String × String}
    (hstored : repo.stored? key = none) : store.changes.get? key = none := by
  rw [h.changes, hstored, Option.map_none]

theorem add (h : Mirrors repo store) (htenant : isDocumentId change.tenantId = true)
    (hchange : isDocumentId change.changeId = true)
    (hcreated : server change.createdAt = change.createdAt)
    (hupdated : server change.updatedAt = change.updatedAt) :
    Alike (repo.add change) (store.add change server) := by
  have hreference := changeReference_of_valid htenant hchange
  have hdocument := changeDocument_eq true (fun _ => hcreated) hupdated
  unfold InMemoryChangeStateRepository.add FirestoreChangeStateRepository.add
  rw [hreference]
  cases hstored : repo.stored? (change.tenantId, change.changeId) with
  | some existing =>
    have hexists := h.document_of_stored hstored
    simp only [Option.isSome_some, if_true, guarded, FirestoreChangeStateRepository.commit,
      Dict.create, hexists, bind, Except.bind, throw, throwThe, MonadExceptOf.throw]
    exact ⟨rfl, h⟩
  | none =>
    have hnew := h.document_of_none hstored
    simp only [Option.isSome_none, Bool.false_eq_true, if_false, guarded,
      FirestoreChangeStateRepository.commit, Dict.create_of_none _ hnew, hdocument, bind, Except.bind,
      pure, Except.pure]
    exact ⟨rfl, (h.put change).claimId change⟩

/-- What the writes of an audited transaction read of the trail when the event is new. -/
theorem audit_of_new (h : Mirrors repo store)
    (hnew : repo.audit.get? (event.tenantId, event.auditEventId) = none) :
    store.audit.get? ((event.tenantId, event.changeId), event.auditEventId) = none ∧
      store.auditIndex.get? (event.tenantId, event.auditEventId) = none := by
  rw [h.audit, h.index, hnew]
  exact ⟨rfl, rfl⟩

theorem addWithAudit (h : Mirrors repo store) (htenant : isDocumentId change.tenantId = true)
    (hchange : isDocumentId change.changeId = true)
    (hevent : isDocumentId event.auditEventId = true)
    (hscope : (event.tenantId, event.changeId) = (change.tenantId, change.changeId))
    (hcreated : server change.createdAt = change.createdAt)
    (hupdated : server change.updatedAt = change.updatedAt)
    (hstamped : server event.createdAt = event.createdAt)
    (hnew : repo.audit.get? (event.tenantId, event.auditEventId) = none) :
    Alike (repo.addWithAudit change event) (store.addWithAudit change event server) := by
  have hdocument := changeDocument_eq true (fun _ => hcreated) hupdated
  have hauditDocument := auditDocument_eq hstamped
  obtain ⟨haudit, hindex⟩ := h.audit_of_new hnew
  obtain ⟨hsameTenant, hsameChange⟩ := Prod.mk.inj hscope
  have hputs : ((repo.put change).claimId change).stored? (event.tenantId, event.changeId) ≠ none := by
    rw [hscope, stored?_claimId, stored?_put_self]
    exact Option.some_ne_none _
  have hmirrors := ((h.put change).claimId change).appendAudit hnew hputs
  rw [hsameTenant, hsameChange] at haudit hmirrors
  rw [hsameTenant] at hindex hnew
  unfold InMemoryChangeStateRepository.addWithAudit FirestoreChangeStateRepository.addWithAudit
  rw [changeReference_of_valid htenant hchange, auditReference_of_valid htenant hchange hevent,
    auditIndexReference_of_valid htenant hevent]
  cases hstored : repo.stored? (change.tenantId, change.changeId) with
  | some existing =>
    have hexists := h.document_of_stored hstored
    simp only [Option.isSome_some, if_true, guarded, FirestoreChangeStateRepository.commit,
      FirestoreChangeStateRepository.validateAuditScope, hsameTenant, hsameChange, ne_eq,
      not_true_eq_false, or_self, if_false, hexists, bind, Except.bind, throw, throwThe,
      MonadExceptOf.throw]
    exact ⟨rfl, h⟩
  | none =>
    have hadded := h.document_of_none hstored
    have hwritten := createAudit_of_new
      { store with changes := store.changes.set (change.tenantId, change.changeId) change.document }
      haudit hindex event
    simp only [Option.isSome_none, Bool.false_eq_true, if_false, guarded,
      FirestoreChangeStateRepository.commit, FirestoreChangeStateRepository.validateAuditScope,
      InMemoryChangeStateRepository.validateAuditScope, ensureNewAuditId,
      FirestoreChangeStateRepository.ensureNewAudit, hsameTenant, hsameChange, ne_eq,
      not_true_eq_false, or_self, hadded, haudit, hnew, Dict.create_of_none _ hadded, hdocument,
      hauditDocument, hwritten, bind, Except.bind]
    exact ⟨rfl, hmirrors⟩

theorem snapshot_of_stored (h : Mirrors repo store) {tenantId changeId : String}
    (hstored : repo.stored? (tenantId, changeId) = some change) :
    store.snapshot tenantId changeId = .ok change.document := by
  rw [FirestoreChangeStateRepository.snapshot, h.document_of_stored hstored]

theorem snapshot_of_none (h : Mirrors repo store) {tenantId changeId : String}
    (hstored : repo.stored? (tenantId, changeId) = none) :
    store.snapshot tenantId changeId = .error (.changeNotFound tenantId changeId) := by
  rw [FirestoreChangeStateRepository.snapshot, h.document_of_none hstored]

theorem recordAudit (h : Mirrors repo store) (htenant : isDocumentId event.tenantId = true)
    (hchange : isDocumentId event.changeId = true)
    (hevent : isDocumentId event.auditEventId = true)
    (hstamped : server event.createdAt = event.createdAt)
    (hnew : repo.audit.get? (event.tenantId, event.auditEventId) = none) :
    Alike (repo.recordAudit event) (store.recordAudit event server) := by
  have hauditDocument := auditDocument_eq hstamped
  obtain ⟨haudit, hindex⟩ := h.audit_of_new hnew
  unfold InMemoryChangeStateRepository.recordAudit FirestoreChangeStateRepository.recordAudit
  rw [changeReference_of_valid htenant hchange, auditReference_of_valid htenant hchange hevent,
    auditIndexReference_of_valid htenant hevent]
  rcases h.get_cases htenant hchange with ⟨change, hstored, hget, -⟩ | ⟨e, hstored, hget, he, -⟩
  · have hmirrors := h.appendAudit hnew (by rw [hstored]; exact Option.some_ne_none _)
    have hwritten := createAudit_of_new store haudit hindex event
    simp only [guarded, FirestoreChangeStateRepository.commit, hget, h.snapshot_of_stored hstored,
      ensureNewAuditId, FirestoreChangeStateRepository.ensureNewAudit, hnew, haudit,
      Option.isSome_none, Bool.false_eq_true, if_false, hauditDocument, hwritten, bind, Except.bind]
    exact ⟨rfl, hmirrors⟩
  · simp only [guarded, FirestoreChangeStateRepository.commit, hget, h.snapshot_of_none hstored, bind,
      Except.bind]
    exact ⟨congrArg Except.error he, h⟩

theorem commitTransition (h : Mirrors repo store) (htenant : isDocumentId change.tenantId = true)
    (hchange : isDocumentId change.changeId = true)
    (hevent : isDocumentId event.auditEventId = true)
    (hscope : (event.tenantId, event.changeId) = (change.tenantId, change.changeId))
    (hupdated : server change.updatedAt = change.updatedAt)
    (hstamped : server event.createdAt = event.createdAt)
    (hnew : repo.audit.get? (event.tenantId, event.auditEventId) = none) (expectedVersion : Nat) :
    Alike (repo.commitTransition change event expectedVersion)
      (store.commitTransition change event expectedVersion server) := by
  have hdocument : changeDocument change false server = change.document :=
    changeDocument_eq false (fun hfalse => by cases hfalse) hupdated
  have hauditDocument := auditDocument_eq hstamped
  obtain ⟨haudit, hindex⟩ := h.audit_of_new hnew
  obtain ⟨hsameTenant, hsameChange⟩ := Prod.mk.inj hscope
  have hput : (repo.put change).stored? (event.tenantId, event.changeId) ≠ none := by
    rw [hscope, stored?_put_self]
    exact Option.some_ne_none _
  have hmirrors := (h.put change).appendAudit hnew hput
  rw [hsameTenant, hsameChange] at haudit hmirrors
  rw [hsameTenant] at hindex hnew
  unfold InMemoryChangeStateRepository.commitTransition FirestoreChangeStateRepository.commitTransition
  rw [changeReference_of_valid htenant hchange, auditReference_of_valid htenant hchange hevent,
    auditIndexReference_of_valid htenant hevent]
  rcases h.get_cases htenant hchange with ⟨current, hstored, hget, -⟩ | ⟨e, hstored, hget, he, -⟩
  swap
  · simp only [guarded, FirestoreChangeStateRepository.commit,
      FirestoreChangeStateRepository.validateAuditScope, hsameTenant, hsameChange, ne_eq,
      not_true_eq_false, or_self, if_false, hget, h.snapshot_of_none hstored, bind, Except.bind]
    exact ⟨congrArg Except.error he, h⟩
  have hwritten := createAudit_of_new
    { store with changes := store.changes.set (change.tenantId, change.changeId) change.document }
    haudit hindex event
  simp only [guarded, FirestoreChangeStateRepository.commit,
    FirestoreChangeStateRepository.validateAuditScope, InMemoryChangeStateRepository.validateAuditScope,
    hsameTenant, hsameChange, ne_eq, not_true_eq_false, or_self, if_false, hget,
    h.snapshot_of_stored hstored, ensureNewAuditId, FirestoreChangeStateRepository.ensureNewAudit, hnew,
    haudit, Option.isSome_none, Bool.false_eq_true, document_modelValidate, hdocument, hauditDocument,
    hwritten, bind, Except.bind, throw, throwThe, MonadExceptOf.throw, pure, Except.pure]
  -- the two comparisons of versions are the same on both sides
  by_cases hcurrent : current.version = expectedVersion
  · by_cases hversion : change.version = expectedVersion + 1
    · simp only [hcurrent, hversion, not_true_eq_false, if_false]
      exact ⟨rfl, hmirrors⟩
    · simp only [hcurrent, hversion, not_true_eq_false, not_false_eq_true, if_true, if_false]
      exact ⟨rfl, h⟩
  · simp only [hcurrent, not_false_eq_true, if_true]
    exact ⟨rfl, h⟩

end Mirrors

/-! ## The audit index -/

/-- The tenant's index holds what the audit collections of its changes hold. -/
def IndexIsUnion (store : FirestoreChangeStateRepository) : Prop :=
  ∀ tenantId id event, store.auditIndex.get? (tenantId, id) = some event ↔
    ∃ changeId, store.audit.get? ((tenantId, changeId), id) = some event

open FirestoreChangeStateRepository (AuditWrite)

/-- One new event in both copies keeps the index the union. -/
theorem IndexIsUnion.write {store store' : FirestoreChangeStateRepository} (h : IndexIsUnion store)
    (hwrite : AuditWrite store store') : IndexIsUnion store' := by
  intro tenantId id event
  cases hwrite with
  | none haudit hindex =>
    rw [haudit, hindex]
    exact h tenantId id event
  | event tenant change auditEventId document hnew hnewIndex haudit hindex =>
    rw [haudit, hindex, Dict.get?_set]
    by_cases hkey : (tenantId, id) = (tenant, auditEventId)
    · obtain ⟨rfl, rfl⟩ := Prod.mk.inj hkey
      rw [if_pos rfl]
      constructor
      · intro hdocument
        exact ⟨change, by rw [Dict.get?_set_self, hdocument]⟩
      · rintro ⟨changeId, hget⟩
        by_cases hchange : changeId = change
        · rw [hchange, Dict.get?_set_self] at hget
          exact hget
        · -- under another change the id would be in the index already
          rw [Dict.get?_set_ne] at hget
          · have hindexed := (h tenantId id event).mpr ⟨changeId, hget⟩
            rw [hnewIndex] at hindexed
            cases hindexed
          · intro heq
            exact hchange (Prod.mk.inj (Prod.mk.inj heq).1).2
    · rw [if_neg hkey, h tenantId id event]
      have hother : ∀ changeId, ((tenantId, changeId), id) ≠ ((tenant, change), auditEventId) := by
        intro changeId heq
        obtain ⟨hpath, hname⟩ := Prod.mk.inj heq
        exact hkey (Prod.ext (Prod.mk.inj hpath).1 hname)
      simp only [Dict.get?_set_ne _ _ (hother _)]

theorem ChangeCall.auditWrite (call : ChangeCall) (server : Time → Time)
    (store : FirestoreChangeStateRepository) :
    AuditWrite store (call.onFirestore server store).2 := by
  cases call with
  | add change => exact store.auditWrite_add server change
  | addWithAudit change event => exact store.auditWrite_addWithAudit server change event
  | commitTransition change event expectedVersion =>
    exact store.auditWrite_commitTransition server change event expectedVersion
  | recordAudit event => exact store.auditWrite_recordAudit server event
  | get | listChanges | listAudit | listAuditAfter | listTenantAudit => exact .none rfl rfl

/-! ## Sequences of calls -/

/-- A call, and what the server writes for the times it supplies. -/
structure ServedCall where
  call : ChangeCall
  server : Time → Time

def memoryAnswers (repo : InMemoryChangeStateRepository) :
    List ServedCall → List (Except Exn ChangeAnswer)
  | [] => []
  | served :: calls =>
      (served.call.onMemory repo).1 :: memoryAnswers (served.call.onMemory repo).2 calls

def firestoreAnswers (store : FirestoreChangeStateRepository) :
    List ServedCall → List (Except Exn ChangeAnswer)
  | [] => []
  | served :: calls =>
      (served.call.onFirestore served.server store).1 ::
        firestoreAnswers (served.call.onFirestore served.server store).2 calls

/-- The database after a sequence of calls. -/
def FirestoreChangeStateRepository.after (store : FirestoreChangeStateRepository)
    (calls : List ServedCall) : FirestoreChangeStateRepository :=
  calls.foldl (fun store served => (served.call.onFirestore served.server store).2) store

theorem IndexIsUnion.after {store : FirestoreChangeStateRepository} (h : IndexIsUnion store)
    (calls : List ServedCall) : IndexIsUnion (store.after calls) := by
  induction calls generalizing store with
  | nil => exact h
  | cons served calls ih => exact ih (h.write (served.call.auditWrite served.server store))

/-- Every call that writes an audit event finds its id free. A call whose write was refused has not
used its id. -/
def FreshAudits (repo : InMemoryChangeStateRepository) : List ServedCall → Prop
  | [] => True
  | served :: calls =>
      (∀ key ∈ served.call.auditKey?, repo.audit.get? key = none) ∧
        FreshAudits (served.call.onMemory repo).2 calls

instance decidableFreshAudits : ∀ (repo : InMemoryChangeStateRepository) (calls : List ServedCall),
    Decidable (FreshAudits repo calls)
  | _, [] => inferInstanceAs (Decidable True)
  | repo, served :: calls =>
      have := decidableFreshAudits (served.call.onMemory repo).2 calls
      inferInstanceAs (Decidable (_ ∧ _))

/-- **One call.** Corresponding stores answer alike and stay corresponding stores. -/
theorem Mirrors.step {repo : InMemoryChangeStateRepository} {store : FirestoreChangeStateRepository}
    (h : Mirrors repo store) {call : ChangeCall} {server : Time → Time}
    (hpromised : call.Promised server)
    (hnew : ∀ key ∈ call.auditKey?, repo.audit.get? key = none) :
    Alike (call.onMemory repo) (call.onFirestore server store) := by
  obtain ⟨hvalid, hscope, htimes⟩ := hpromised
  cases call with
  | add change =>
    simp only [ChangeCall.documentIds, ChangeCall.stampedTimes, List.forall_mem_cons] at hvalid htimes
    exact (h.add hvalid.1 hvalid.2.1 htimes.1 htimes.2.1).map _
  | addWithAudit change event =>
    simp only [ChangeCall.documentIds, ChangeCall.stampedTimes, List.forall_mem_cons] at hvalid htimes
    exact (h.addWithAudit hvalid.1 hvalid.2.1 hvalid.2.2.1 (hscope _ rfl) htimes.1 htimes.2.1
      htimes.2.2.1 (hnew _ rfl)).map _
  | commitTransition change event expectedVersion =>
    simp only [ChangeCall.documentIds, ChangeCall.stampedTimes, List.forall_mem_cons] at hvalid htimes
    exact (h.commitTransition hvalid.1 hvalid.2.1 hvalid.2.2.1 (hscope _ rfl) htimes.1 htimes.2.1
      (hnew _ rfl) expectedVersion).map _
  | recordAudit event =>
    simp only [ChangeCall.documentIds, ChangeCall.stampedTimes, List.forall_mem_cons] at hvalid htimes
    exact (h.recordAudit hvalid.1 hvalid.2.1 hvalid.2.2.1 htimes.1 (hnew _ rfl)).map _
  | get tenantId changeId =>
    simp only [ChangeCall.documentIds, List.forall_mem_cons] at hvalid
    refine ⟨?_, h⟩
    simp only [ChangeCall.onMemory, ChangeCall.onFirestore, Except.mapError_map]
    rcases h.get_cases hvalid.1 hvalid.2.1 with ⟨change, -, hget, hget'⟩ | ⟨e, -, hget, he, hget'⟩
    · rw [hget, hget']
    · rw [hget, hget', Except.mapError, he]
      rfl
  | listChanges tenantId limit =>
    simp only [ChangeCall.documentIds, List.forall_mem_cons] at hvalid
    refine ⟨?_, h⟩
    simp only [ChangeCall.onMemory, ChangeCall.onFirestore, h.listChanges_eq hvalid.1, Except.map]
  | listTenantAudit tenantId limit =>
    simp only [ChangeCall.documentIds, List.forall_mem_cons] at hvalid
    refine ⟨?_, h⟩
    simp only [ChangeCall.onMemory, ChangeCall.onFirestore, h.listTenantAudit_eq hvalid.1, Except.map]
  | listAudit tenantId changeId =>
    simp only [ChangeCall.documentIds, List.forall_mem_cons] at hvalid
    refine ⟨?_, h⟩
    simp only [ChangeCall.onMemory, ChangeCall.onFirestore, Except.mapError_map]
    exact congrArg _ (h.listAuditAfter_eq hvalid.1 hvalid.2.1 (fun _ hnone => by cases hnone) 10000)
  | listAuditAfter tenantId changeId afterEventId limit =>
    simp only [ChangeCall.documentIds, List.cons_append, List.nil_append, List.forall_mem_cons,
      Option.mem_toList] at hvalid
    refine ⟨?_, h⟩
    simp only [ChangeCall.onMemory, ChangeCall.onFirestore, Except.mapError_map]
    exact congrArg _ (h.listAuditAfter_eq hvalid.1 hvalid.2.1 hvalid.2.2 limit)

/-- Corresponding stores answer every promised sequence alike. -/
theorem Mirrors.answers {repo : InMemoryChangeStateRepository}
    {store : FirestoreChangeStateRepository} (h : Mirrors repo store) {calls : List ServedCall}
    (hpromised : ∀ served ∈ calls, served.call.Promised served.server)
    (hfresh : FreshAudits repo calls) :
    (memoryAnswers repo calls).map (·.mapError Exn.identified) =
      (firestoreAnswers store calls).map (·.mapError Exn.identified) := by
  induction calls generalizing repo store with
  | nil => rfl
  | cons served calls ih =>
    rw [List.forall_mem_cons] at hpromised
    have hstep := h.step hpromised.1 hfresh.1
    simp only [memoryAnswers, firestoreAnswers, List.map_cons, hstep.result]
    rw [ih hstep.stores hpromised.2 hfresh.2]

/-- **One contract.** Both adapters answer a sequence of calls alike when document ids are valid,
audit scopes match their changes, audit ids are new where they are written and the server writes the
supplied times. After any sequence the audit index of the database is the union of the audit
collections. -/
theorem adapters_agree (calls : List ServedCall) :
    ((∀ served ∈ calls, served.call.Promised served.server) →
      FreshAudits .empty calls →
      (memoryAnswers .empty calls).map (·.mapError Exn.identified) =
        (firestoreAnswers .empty calls).map (·.mapError Exn.identified)) ∧
    IndexIsUnion (FirestoreChangeStateRepository.empty.after calls) := by
  constructor
  · intro hpromised hfresh
    exact Mirrors.empty.answers hpromised hfresh
  · have hempty : IndexIsUnion .empty := by
      intro tenantId id event
      constructor
      · intro hget
        cases hget
      · rintro ⟨changeId, hget⟩
        cases hget
    exact hempty.after calls

namespace AdapterDemo

def change : ChangeRecord where
  changeId := "chg_001"
  tenantId := "tenant_demo"
  eventId := "event_001"
  changeType := "api_version_change"
  title := "Billing API v2"
  description := "The billing API moves to version 2."
  source := ⟨"github", "42", "https://example.test/42"⟩
  environment := .SANDBOX
  status := .RECEIVED
  riskLevel := .UNKNOWN
  currentPhase := .RECEIVED
  workflowExecutionId := none
  planVersion := 0
  planHash := none
  createdAt := 10
  updatedAt := 10
  createdBy := "event-gateway"
  version := 1
  phase_eq := rfl
  created_le_updated := Nat.le_refl 10
  version_pos := one_le_one

/-- Two of these events have one time. -/
def event (id : String) (createdAt : Time) : AuditEvent :=
  ⟨id, "tenant_demo", "chg_001", "trace_001", "CHANGE_RECEIVED", .SERVICE, "event-gateway",
    "changes/chg_001", "receive", none, "", "", .SUCCESS, "Received.", createdAt⟩

def calls : List ServedCall :=
  [⟨.addWithAudit change (event "audit_002" 10), id⟩, ⟨.recordAudit (event "audit_001" 10), id⟩,
    ⟨.commitTransition change (event "audit_003" 11) 7, id⟩, ⟨.recordAudit (event "audit_003" 11), id⟩,
    ⟨.listAuditAfter "tenant_demo" "chg_001" (some "audit_001") 10, id⟩,
    ⟨.get "tenant_other" "chg_001", id⟩, ⟨.listTenantAudit "tenant_demo" 2, id⟩]

theorem promised : ∀ served ∈ calls, served.call.Promised served.server := by
  have hvalid : ∀ served ∈ calls, ∀ id ∈ served.call.documentIds, isDocumentId id = true := by
    decide +kernel
  have hscope : ∀ served ∈ calls, ∀ pair ∈ served.call.paired?,
      (pair.2.tenantId, pair.2.changeId) = (pair.1.tenantId, pair.1.changeId) := by
    decide +kernel
  have htimes : ∀ served ∈ calls, ∀ t ∈ served.call.stampedTimes, served.server t = t := by
    decide +kernel
  intro served hmem
  exact ⟨hvalid served hmem, hscope served hmem, htimes served hmem⟩

end AdapterDemo

open AdapterDemo in
/-- Events with equal times, a cursor between them, an id used again after a refused commit, and a
tenant that does not have the change. -/
theorem adapters_agree_ties :
    (memoryAnswers .empty calls).map (·.mapError Exn.identified) =
        (firestoreAnswers .empty calls).map (·.mapError Exn.identified) ∧
      IndexIsUnion (FirestoreChangeStateRepository.empty.after calls) :=
  ⟨(adapters_agree calls).1 promised (by decide +kernel), (adapters_agree calls).2⟩

end ChangeOps
