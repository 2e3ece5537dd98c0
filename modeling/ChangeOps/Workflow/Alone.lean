import ChangeOps.Core.AuditLaw
import ChangeOps.Workflow.EngineRules

/-!
# ChangeOps.Workflow — a run that nobody disturbs

While a run of the engine is alone, what it has stored is what it finds. `Stands` is everything
that the run sees, and each building block of the engine has one rule that says what it leaves.

The rules serve two purposes. Under `healthy` stores nothing raises: the clock does not go back,
and the audit ids to come are new. Without that assumption every store may refuse, and a rule
then asks for the postcondition of the failure too.
-/

namespace ChangeOps

open InMemoryChangeStateRepository

/-! ## Documents that validate -/

/-- A rollback or failure document of a validated task validates, if its error code does. -/
theorem TaskFields.modelValidate_ok {fields : TaskFields} {code : Option String}
    (hcode : nonEmptyStrOrNone fields.errorCode = .ok code)
    (hpaired : fields.snapshotId.isSome = fields.snapshotHash.isSome)
    (hevidence : fields.status = .SUCCEEDED → fields.executionId.isSome ∧ fields.outputHash.isSome)
    (hfailure : fields.status = .FAILED ∨ fields.status = .ROLLBACK_FAILED → code.isSome) :
    ∃ task, fields.modelValidate = .ok task := by
  unfold modelValidate
  split
  · next e herror =>
    rw [hcode] at herror
    cases herror
  · next code' hcode' =>
    rw [hcode] at hcode'
    cases hcode'
    rw [dif_pos hpaired, dif_pos hevidence, dif_pos hfailure]
    exact ⟨_, rfl⟩

/-- A document whose error code does not pass the check does not validate. -/
theorem TaskFields.modelValidate_error {fields : TaskFields} {e : Exn}
    (hcode : nonEmptyStrOrNone fields.errorCode = .error e) : fields.modelValidate = .error e := by
  unfold modelValidate
  split
  · next e' herror =>
    rw [hcode] at herror
    cases herror
    rfl
  · next code hcode' =>
    rw [hcode] at hcode'
    cases hcode'

variable [Sha256]

theorem WorkflowFields.modelValidate_error {document : WorkflowFields} {e : Exn}
    (hcode : nonEmptyStrOrNone document.lastErrorCode = .error e) :
    document.modelValidate = .error e := by
  unfold modelValidate
  split
  · next e' herror =>
    rw [hcode] at herror
    cases herror
    rfl
  · next code hcode' =>
    rw [hcode] at hcode'
    cases hcode'

omit [Sha256] in
theorem nonEmptyStrOrNone_error {text : String} {e : Exn} (h : nonEmptyStr text = .error e) :
    nonEmptyStrOrNone (some text) = .error e := by
  rw [nonEmptyStrOrNone, h]
  rfl

omit [Sha256] in
theorem nonEmptyStrOrNone_ok {text stripped : String} (h : nonEmptyStr text = .ok stripped) :
    nonEmptyStrOrNone (some text) = .ok (some stripped) := by
  rw [nonEmptyStrOrNone, h]
  rfl

/-- The plan of a document is what `validate_lifecycle` asks for. -/
theorem planError_none {fields : WorkflowFields} (h : PlanMatches fields fields.plan) :
    planError fields = none := by
  unfold planError
  cases hplan : fields.plan with
  | none =>
    rw [hplan] at h
    rw [show fields.tasks = [] from h]
    rfl
  | some plan =>
    rw [hplan] at h
    obtain ⟨htenant, hchange, hhash, hsub, hsup⟩ := h
    dsimp only
    rw [if_neg (by simp [htenant, hchange, hhash]), if_pos ⟨hsub, hsup⟩]

theorem WorkflowFields.modelValidate_ok {document : WorkflowFields} {code : Option String}
    (hcode : nonEmptyStrOrNone document.lastErrorCode = .ok code)
    (hscope : document.event.tenantId = document.tenantId ∧
      document.event.eventId = document.eventId)
    (hupdated : document.startedAt ≤ document.updatedAt)
    (hpaired : document.plan.isSome = document.planHash.isSome)
    (hplan : PlanMatches document document.plan)
    (hterminal : document.status.isTerminal = document.completedAt.isSome) :
    ∃ record, document.modelValidate = .ok record := by
  unfold modelValidate
  split
  · next e herror =>
    rw [hcode] at herror
    cases herror
  · next code' hcode' =>
    have hnone : planError { document with lastErrorCode := code' } = none := planError_none hplan
    dsimp only
    rw [dif_pos hscope, dif_pos hupdated, dif_pos hpaired]
    split
    · next message hmessage =>
      rw [hnone] at hmessage
      cases hmessage
    · rw [dif_pos hterminal]
      exact ⟨_, rfl⟩

variable {E : Type} {α : Type}

/-! ## Records and changes that move on -/

/-- Two records of one workflow that differ in status, error code, times and version only. -/
structure SameWork (record record' : WorkflowExecutionRecord) : Prop where
  key : record'.key = record.key
  eventId : record'.eventId = record.eventId
  event : record'.event = record.event
  plan : record'.plan = record.plan
  planHash : record'.planHash = record.planHash
  approvalId : record'.approvalId = record.approvalId
  approvalExpiresAt : record'.approvalExpiresAt = record.approvalExpiresAt
  tasks : record'.tasks = record.tasks

theorem SameWork.refl (record : WorkflowExecutionRecord) : SameWork record record := by
  constructor <;> rfl

theorem SameWork.trans {a b c : WorkflowExecutionRecord} (hab : SameWork a b)
    (hbc : SameWork b c) : SameWork a c :=
  ⟨hbc.key.trans hab.key, hbc.eventId.trans hab.eventId, hbc.event.trans hab.event,
    hbc.plan.trans hab.plan, hbc.planHash.trans hab.planHash, hbc.approvalId.trans hab.approvalId,
    hbc.approvalExpiresAt.trans hab.approvalExpiresAt, hbc.tasks.trans hab.tasks⟩

/-- What an update of the status makes of a record. -/
structure Restated (record : WorkflowExecutionRecord) (status : WorkflowRuntimeStatus)
    (code : Option String) (record' : WorkflowExecutionRecord) : Prop extends
    SameWork record record' where
  status : record'.status = status
  lastErrorCode : record'.lastErrorCode = code.map stripWhitespace

theorem restated_of_updatedBy {record : WorkflowExecutionRecord} {status : WorkflowRuntimeStatus} {code : Option String}
    {completedAt : Option Time} {updated : WorkflowExecutionRecord}
    (h : UpdatedBy (fun fields => { fields with
      status := status, lastErrorCode := code, completedAt := completedAt }) record updated) :
    Restated record status code updated := by
  obtain ⟨updatedAt, hfields⟩ := h.fields
  constructor
  · constructor <;> simp only [WorkflowExecutionRecord.key, hfields]
    rfl
  · rw [hfields]
  · rw [hfields]

/-- An update of the status passes the lifecycle check when the completion time agrees. -/
theorem exists_restated {record : WorkflowExecutionRecord} {status : WorkflowRuntimeStatus} {code : Option String}
    {completedAt : Option Time} {code' : Option String} (hcode : nonEmptyStrOrNone code = .ok code')
    (hterminal : status.isTerminal = completedAt.isSome) (updatedAt : Time)
    (hupdated : record.startedAt ≤ updatedAt) :
    ∃ updated, (WorkflowEngine.revise record (fun fields => { fields with
      status := status, lastErrorCode := code, completedAt := completedAt })
      updatedAt).modelValidate = .ok updated :=
  WorkflowFields.modelValidate_ok hcode record.event_scope hupdated record.plan_paired
    record.plan_matches hterminal

/-- A code that has been checked is what the check makes of it. -/
theorem checked_lastErrorCode (record : WorkflowExecutionRecord) :
    record.lastErrorCode = record.lastErrorCode.map stripWhitespace :=
  (nonEmptyStrOrNone_of_ok record.error_code_checked).1

/-- What a committed transition makes of a change. -/
structure MovedTo (target : WorkflowState) (updates : RecordUpdates)
    (change updated : ChangeRecord) : Prop where
  status : updated.status = target
  carriesOver : CarriesOver updates change updated

omit [Sha256] in
theorem MovedTo.key {target : WorkflowState} {updates : RecordUpdates}
    {change updated : ChangeRecord} (h : MovedTo target updates change updated) :
    (updated.tenantId, updated.changeId) = (change.tenantId, change.changeId) := by
  rw [h.carriesOver.tenantId, h.carriesOver.changeId]

/-! ## Healthy stores -/

/-- The clock is not behind what is stored, and the audit ids to come are not in use. -/
structure Healthy (rt : LawfulRuntime) (w : CoordinatorWorld E) : Prop extends AuditReady rt w where
  workflows : ∀ {key record}, w.workflow? key = some record → record.updatedAt ≤ rt.clock w.tick

namespace Healthy

variable {rt : LawfulRuntime} {w : CoordinatorWorld E}

/-- Reading the clock or drawing an identifier keeps the stores healthy. -/
theorem later (h : Healthy rt w) {w' : CoordinatorWorld E}
    (hchanges : w'.changes = w.changes) (hrest : w'.rest = w.rest)
    (htick : w.tick ≤ w'.tick) (huuid : w.uuid ≤ w'.uuid) : Healthy rt w' := by
  have hclock := rt.clock_mono htick
  refine ⟨⟨fun hstored => ?_, fun n hn tenantId => ?_⟩, fun hstored => ?_⟩
  · rw [hchanges] at hstored
    exact (h.clock hstored).trans hclock
  · rw [hchanges]
    exact h.fresh n (huuid.trans hn) tenantId
  · rw [World.workflow?, hrest] at hstored
    exact (h.workflows hstored).trans hclock

omit [Sha256] in
theorem auditId_injective {hex hex' : String} (h : "audit_" ++ hex = "audit_" ++ hex') :
    hex = hex' := by
  have hlist := congrArg String.toList h
  rw [String.toList_append, String.toList_append] at hlist
  exact String.toList_injective (List.append_cancel_left hlist)

/-- An audit event with a drawn identifier keeps the identifiers to come new. -/
theorem appendAudit (h : Healthy rt w) {event : AuditEvent} {n : Nat}
    (hid : event.auditEventId = "audit_" ++ rt.uuid4 n) (hn : n < w.uuid) :
    Healthy rt { w with changes := w.changes.appendAudit event } := by
  refine ⟨⟨h.clock, fun m hm tenantId => ?_⟩, h.workflows⟩
  rw [audit_appendAudit, Dict.get?_set_ne]
  · exact h.fresh m hm tenantId
  · intro heq
    have hsame := rt.uuid4_injective (auditId_injective ((congrArg Prod.snd heq).trans hid))
    have hlater : w.uuid ≤ m := hm
    omega

theorem put (h : Healthy rt w) {change : ChangeRecord} (hclock : change.updatedAt ≤ rt.clock w.tick) :
    Healthy rt { w with changes := w.changes.put change } := by
  refine ⟨⟨fun {key stored} hstored => ?_, h.fresh⟩, h.workflows⟩
  by_cases hkey : key = (change.tenantId, change.changeId)
  · subst hkey
    rw [stored?_put_self] at hstored
    cases hstored
    exact hclock
  · rw [stored?_put_ne _ hkey] at hstored
    exact h.clock hstored

theorem putWorkflow (h : Healthy rt w) {record : WorkflowExecutionRecord}
    (hclock : record.updatedAt ≤ rt.clock w.tick) : Healthy rt (w.putWorkflow record) := by
  refine ⟨⟨h.clock, h.fresh⟩, fun {key stored} hstored => ?_⟩
  rcases w.rest.workflows.stored?_put_cases hstored with ⟨-, rfl⟩ | ⟨-, hold⟩
  · exact hclock
  · exact h.workflows hold

end Healthy

/-! ## What a run sees -/

/-- What a run sees besides its record. -/
structure Scene (E : Type) where
  change : Option ChangeRecord
  remote : E
  log : List RemoteEvent
  deadLetters : Dict (String × String) DeadLetterRecord

/-- The record is stored and the scene is as described; with `healthy`, the stores are. -/
structure Stands (healthy : Prop) (rt : LawfulRuntime) (record : WorkflowExecutionRecord)
    (scene : Scene E) (w : CoordinatorWorld E) : Prop where
  healthy : healthy → Healthy rt w
  workflow : w.workflow? record.key = some record
  change : w.changes.stored? (record.tenantId, record.changeId) = scene.change
  remote : w.rest.remote = scene.remote
  log : w.rest.log = scene.log
  deadLetters : w.rest.workflows.deadLetters = scene.deadLetters

namespace Stands

variable {H : Prop} {rt : LawfulRuntime} {record : WorkflowExecutionRecord} {scene : Scene E}
  {s : CoordinatorWorld E} {engine : WorkflowEngine E}
  {G : CoordinatorWorld E → CoordinatorWorld E → Prop}

/-- Reading the clock or drawing an identifier leaves the run what it sees. -/
theorem later (h : Stands H rt record scene s) {t : CoordinatorWorld E}
    (hchanges : t.changes = s.changes) (hrest : t.rest = s.rest) (htick : s.tick ≤ t.tick)
    (huuid : s.uuid ≤ t.uuid) : Stands H rt record scene t := by
  refine ⟨fun hH => ?_, ?_, ?_, ?_, ?_, ?_⟩
  · exact (h.healthy hH).later hchanges hrest htick huuid
  · rw [World.workflow?, hrest]
    exact h.workflow
  · rw [hchanges]
    exact h.change
  · rw [hrest]
    exact h.remote
  · rw [hrest]
    exact h.log
  · rw [hrest]
    exact h.deadLetters

theorem tick (h : Stands H rt record scene s) :
    Stands H rt record scene { s with tick := s.tick + 1 } :=
  h.later rfl rfl (Nat.le_succ _) (Nat.le_refl _)

theorem draw (h : Stands H rt record scene s) :
    Stands H rt record scene { s with uuid := s.uuid + 1 } :=
  h.later rfl rfl (Nat.le_refl _) (Nat.le_succ _)

theorem appendAudit (h : Stands H rt record scene s) {event : AuditEvent}
    (hid : H → ∃ n < s.uuid, event.auditEventId = "audit_" ++ rt.uuid4 n) :
    Stands H rt record scene { s with changes := s.changes.appendAudit event } := by
  obtain ⟨hhealthy, hworkflow, hchange, hremote, hlog, hdead⟩ := h
  refine ⟨fun hH => ?_, hworkflow, hchange, hremote, hlog, hdead⟩
  obtain ⟨n, hn, hevent⟩ := hid hH
  exact (hhealthy hH).appendAudit hevent hn

/-- A commit of the change of the record. -/
theorem commit (h : Stands H rt record scene s) {change : ChangeRecord} {event : AuditEvent}
    (hkey : (change.tenantId, change.changeId) = (record.tenantId, record.changeId))
    (hclock : H → change.updatedAt ≤ rt.clock s.tick)
    (hid : H → ∃ n < s.uuid, event.auditEventId = "audit_" ++ rt.uuid4 n) :
    Stands H rt record { scene with change := some change } (s.commit change event) := by
  obtain ⟨hhealthy, hworkflow, -, hremote, hlog, hdead⟩ := h
  refine ⟨fun hH => ?_, hworkflow, ?_, hremote, hlog, hdead⟩
  · obtain ⟨n, hn, hevent⟩ := hid hH
    exact ((hhealthy hH).put (hclock hH)).appendAudit hevent hn
  · rw [← hkey]
    exact s.stored?_commit_self change event

/-- An update of the record. -/
theorem putWorkflow (h : Stands H rt record scene s) {updated : WorkflowExecutionRecord}
    (hkey : updated.key = record.key) (hclock : H → updated.updatedAt ≤ rt.clock s.tick) :
    Stands H rt updated scene (s.putWorkflow updated) := by
  obtain ⟨hhealthy, -, hchange, hremote, hlog, hdead⟩ := h
  obtain ⟨htenant, hchangeId, -⟩ := Prod.mk.inj hkey |>.imp id Prod.mk.inj
  refine ⟨fun hH => (hhealthy hH).putWorkflow (hclock hH), s.workflow?_putWorkflow_self updated, ?_,
    hremote, hlog, hdead⟩
  rw [htenant, hchangeId]
  exact hchange

/-! ## Actions that store nothing -/

theorem alone_now {Q : Except Exn Time → CoordinatorWorld E → Prop} (rt' : Runtime)
    (h : Stands H rt record scene s) (hG : ∀ {t t'}, Quiet t t' → G t t')
    (hQ : ∀ t, Stands H rt record scene t → s.tick ≤ t.tick → Q (.ok (rt'.clock s.tick)) t) :
    Prog.RG .alone G Q (now rt') s := by
  rw [now, Prog.RG.alone_atomic]
  exact ⟨hG ⟨rfl, rfl⟩, hQ _ h.tick (Nat.le_succ _)⟩

theorem alone_getChange {Q : Except Exn ChangeRecord → CoordinatorWorld E → Prop}
    {change : ChangeRecord} (h : Stands H rt record scene s) (hchange : scene.change = some change)
    (hG : ∀ {t t'}, Quiet t t' → G t t') (hQ : Q (.ok change) s) :
    Prog.RG .alone G Q (getChange record.tenantId record.changeId) s := by
  rw [getChange, Prog.RG.alone_atomic]
  rw [get_eq_ok.mpr (h.change.trans hchange)]
  exact ⟨hG (Quiet.refl s), hQ⟩

theorem alone_requestId {Q : Except Exn String → CoordinatorWorld E → Prop}
    (h : Stands H rt record scene s) (hG : ∀ {t t'}, Quiet t t' → G t t')
    (hQ : ∀ requestId t, Stands H rt record scene t → Q (.ok requestId) t) :
    Prog.RG .alone G Q engine.requestId s := by
  simp only [WorkflowEngine.requestId, uuid4Hex, Prog.bind_eq_bind, Prog.RG.alone_bind,
    Prog.RG.alone_atomic, Prog.pure_eq_ret, Prog.RG.alone_ret]
  exact ⟨hG ⟨rfl, rfl⟩, hQ _ _ h.draw⟩

/-- An audit event for the change of the record. -/
theorem alone_recordAudit {Q : Except Exn Unit → CoordinatorWorld E → Prop}
    {entry : WorkflowEngine.AuditNote} (h : Stands H rt record scene s)
    (hrt : H → engine.rt = rt.toRuntime) (hchange : H → scene.change ≠ none)
    (hG : ∀ {t t'}, Quiet t t' → G t t')
    (hQ : ∀ t, Stands H rt record scene t → Q (.ok ()) t)
    (herr : ¬ H → ∀ e t, Stands H rt record scene t → Q (.error e) t) :
    Prog.RG .alone G Q (engine.recordAudit record entry) s := by
  simp only [WorkflowEngine.recordAudit, WorkflowEngine.audit, uuid4Hex, now, onChanges,
    Prog.bind_eq_bind, Prog.RG.alone_bind, Prog.RG.alone_atomic, Prog.pure_eq_ret, Prog.RG.alone_ret]
  refine ⟨hG ⟨rfl, rfl⟩, hG ⟨rfl, rfl⟩, hG ⟨stored?_recordAudit _ _, rfl⟩, ?_⟩
  have hs := h.draw.tick
  by_cases hH : H
  · -- the identifier is new and the change is there
    have hstored : s.changes.stored? (record.tenantId, record.changeId) ≠ none := by
      rw [h.change]
      exact hchange hH
    have hnew := (h.healthy hH).fresh s.uuid (Nat.le_refl _) record.tenantId
    rw [recordAudit_of_new hstored (by rw [hrt hH]; exact hnew)]
    exact hQ _ (hs.appendAudit fun _ => ⟨s.uuid, Nat.lt_succ_self _, by rw [hrt hH]⟩)
  · rcases guarded_cases s.changes _ fun repo => repo.appendAudit _ with ⟨e, -, heq⟩ | ⟨-, heq⟩
    · rw [InMemoryChangeStateRepository.recordAudit, heq]
      exact herr hH e _ hs
    · rw [InMemoryChangeStateRepository.recordAudit, heq]
      exact hQ _ (hs.appendAudit fun h => absurd h hH)

/-- A request to a service: the services move, and the notes are taken. -/
theorem alone_exchange {Q : Except Exn α → CoordinatorWorld E → Prop} {request : Exchange E α}
    {notes : Except RemoteError α → List RemoteEvent} (h : Stands H rt record scene s)
    (hG : ∀ {t}, Noted (notes (request s.changes scene.remote).1) s t →
      t.rest.workflows = s.rest.workflows → G s t)
    (hQ : ∀ t, Stands H rt record { scene with
        remote := (request s.changes scene.remote).2
        log := scene.log ++ notes (request s.changes scene.remote).1 } t →
      Q ((request s.changes scene.remote).1.mapError RemoteError.toExn) t) :
    Prog.RG .alone G Q (exchange request notes) s := by
  rw [exchange, Prog.RG.alone_atomic, h.remote]
  refine ⟨hG ⟨rfl, rfl, rfl⟩ rfl,
    hQ _ ⟨fun hH => ?_, h.workflow, h.change, rfl, ?_, h.deadLetters⟩⟩
  · obtain ⟨⟨hclock, hfresh⟩, hworkflows⟩ := h.healthy hH
    exact ⟨⟨hclock, hfresh⟩, hworkflows⟩
  · dsimp only
    rw [h.log]

/-! ## Updates of the record -/

/-- Storing an update: the record is what is stored, so its version is the expected one. -/
theorem alone_storeUpdated {Q : Except Exn WorkflowExecutionRecord → CoordinatorWorld E → Prop}
    {updates : WorkflowFields → WorkflowFields} {updated : WorkflowExecutionRecord}
    (h : Stands H rt record scene s) (hupdated : UpdatedBy updates record updated)
    (hkey : (updates record.toWorkflowFields).key = record.key)
    (hclock : H → updated.updatedAt ≤ rt.clock s.tick)
    (hput : G s (s.putWorkflow updated))
    (hQ : ∀ t, Stands H rt updated scene t → Q (.ok updated) t) :
    Prog.RG .alone G Q
      (onWorkflows (InMemoryWorkflowRepository.update updated record.version)) s := by
  have hukey : updated.key = record.key := hupdated.key.trans hkey
  have hstored : s.rest.workflows.stored? updated.key = some record := by
    rw [hukey]
    exact h.workflow
  have hupdate : InMemoryWorkflowRepository.update updated record.version s.rest.workflows =
      (.ok updated, s.rest.workflows.put updated) := by
    unfold InMemoryWorkflowRepository.update
    rw [hstored]
    simp only [hupdated.version, ne_eq, not_true_eq_false, or_self, if_false]
  rw [onWorkflows, Prog.RG.alone_atomic, hupdate]
  exact ⟨hput, hQ _ (h.putWorkflow hukey hclock)⟩

/-- **The rule of `_update_record`.** -/
theorem alone_updateRecord {Q : Except Exn WorkflowExecutionRecord → CoordinatorWorld E → Prop}
    {updates : WorkflowFields → WorkflowFields} (h : Stands H rt record scene s)
    (hrt : H → engine.rt = rt.toRuntime)
    (hkey : (updates record.toWorkflowFields).key = record.key)
    (hvalid : H → ∀ updatedAt, record.startedAt ≤ updatedAt →
      ∃ updated, (WorkflowEngine.revise record updates updatedAt).modelValidate = .ok updated)
    (hG : ∀ {t t'}, Quiet t t' → G t t')
    (hput : ∀ updated t, UpdatedBy updates record updated → Stands H rt record scene t →
      G t (t.putWorkflow updated))
    (hQ : ∀ updated t, UpdatedBy updates record updated → Stands H rt updated scene t →
      Q (.ok updated) t)
    (herr : ¬ H → ∀ e t, Stands H rt record scene t → Q (.error e) t) :
    Prog.RG .alone G Q (engine.updateRecord record updates) s := by
  refine (Prog.RG.alone_bind _ _ _).mpr (h.alone_now engine.rt hG fun t ht htick => ?_)
  refine (Prog.RG.alone_bind _ _ _).mpr ((Prog.RG.alone_ofExcept _ _).mpr ?_)
  cases hrevised : (WorkflowEngine.revise record updates (engine.rt.clock s.tick)).modelValidate with
  | error e =>
    by_cases hH : H
    · have hstarted : record.startedAt ≤ engine.rt.clock s.tick := by
        rw [hrt hH]
        exact record.started_le_updated.trans ((h.healthy hH).workflows h.workflow)
      obtain ⟨updated, hok⟩ := hvalid hH _ hstarted
      rw [hrevised] at hok
      cases hok
    · exact herr hH e t ht
  | ok updated =>
    have hupdated : UpdatedBy updates record updated := ⟨_, hrevised⟩
    have hclock : H → updated.updatedAt ≤ rt.clock t.tick := by
      intro hH
      rw [WorkflowFields.modelValidate_of_ok hrevised, hrt hH]
      exact rt.clock_mono htick
    exact ht.alone_storeUpdated hupdated hkey hclock (hput updated t hupdated ht)
      fun t' => hQ updated t' hupdated

theorem alone_setRuntimeStatus {Q : Except Exn WorkflowExecutionRecord → CoordinatorWorld E → Prop}
    {status : WorkflowRuntimeStatus} {code : Option String} (h : Stands H rt record scene s)
    (hrt : H → engine.rt = rt.toRuntime)
    (hcode : H → ∃ code', nonEmptyStrOrNone code = .ok code')
    (hterminal : H → status.isTerminal = record.completedAt.isSome)
    (hG : ∀ {t t'}, Quiet t t' → G t t')
    (hput : ∀ record' t, Restated record status code record' → Stands H rt record scene t →
      G t (t.putWorkflow record'))
    (hQ : ∀ record' t, Restated record status code record' → Stands H rt record' scene t →
      Q (.ok record') t)
    (herr : ¬ H → ∀ e t, Stands H rt record scene t → Q (.error e) t) :
    Prog.RG .alone G Q (engine.setRuntimeStatus record status code) s := by
  unfold WorkflowEngine.setRuntimeStatus
  split_ifs with hsame
  · refine (Prog.RG.alone_ret _ _).mpr (hQ record s ⟨.refl record, hsame.1, ?_⟩ h)
    rw [← hsame.2]
    exact checked_lastErrorCode record
  · refine h.alone_updateRecord hrt rfl (fun hH updatedAt hupdated => ?_) hG ?_ ?_ herr
    · obtain ⟨code', hcode'⟩ := hcode hH
      exact exists_restated hcode' (hterminal hH) updatedAt hupdated
    · exact fun updated t hupdated => hput updated t (restated_of_updatedBy hupdated)
    · exact fun updated t hupdated => hQ updated t (restated_of_updatedBy hupdated)

/-- `_terminal` for a record that has not reached this end. -/
theorem alone_terminal {Q : Except Exn WorkflowExecutionRecord → CoordinatorWorld E → Prop}
    {status : WorkflowRuntimeStatus} {code : Option String} (h : Stands H rt record scene s)
    (hrt : H → engine.rt = rt.toRuntime)
    (hcode : H → ∃ code', nonEmptyStrOrNone code = .ok code')
    (hterminal : status.isTerminal = true) (hnew : record.status ≠ status)
    (hG : ∀ {t t'}, Quiet t t' → G t t')
    (hput : ∀ record' t, Restated record status code record' → Stands H rt record scene t →
      G t (t.putWorkflow record'))
    (hQ : ∀ record' t, Restated record status code record' → Stands H rt record' scene t →
      Q (.ok record') t)
    (herr : ¬ H → ∀ e t, Stands H rt record scene t → Q (.error e) t) :
    Prog.RG .alone G Q (engine.terminal record status code) s := by
  unfold WorkflowEngine.terminal
  rw [if_neg fun hsame => hnew hsame.1]
  refine (Prog.RG.alone_bind _ _ _).mpr (h.alone_now engine.rt hG fun t ht _ => ?_)
  refine ht.alone_updateRecord hrt rfl (fun hH updatedAt hupdated => ?_) hG ?_ ?_ herr
  · obtain ⟨code', hcode'⟩ := hcode hH
    exact exists_restated hcode' hterminal updatedAt hupdated
  · exact fun updated t hupdated => hput updated t (restated_of_updatedBy hupdated)
  · exact fun updated t hupdated => hQ updated t (restated_of_updatedBy hupdated)

/-! ## Transitions of the change -/

/-- The service, alone and on healthy stores, once it has read the change. -/
theorem alone_transitionRead {Q : Except Exn ChangeRecord → CoordinatorWorld E → Prop}
    {call : TransitionCall} {change : ChangeRecord} (h : Stands True rt record scene s)
    (hversion : call.expectedVersion = change.version)
    (hupdates : call.recordUpdates.unsupported = [])
    (hchange : scene.change = some change) (hG : ∀ {t t'}, Quiet t t' → G t t')
    (hcommit : ∀ updated event t, MovedTo call.target call.recordUpdates change updated →
      Stands True rt record scene t → G t (t.commit updated event))
    (hQ : canTransition change.status call.target = true → ∀ updated t,
      MovedTo call.target call.recordUpdates change updated →
      Stands True rt record { scene with change := some updated } t → Q (.ok updated) t)
    (hreject : canTransition change.status call.target = false → ∀ id t,
      Stands True rt record scene t →
      Q (.error (.invalidStateTransition change.status call.target id)) t) :
    Prog.RG .alone G Q (transitionRead rt.toRuntime call change) s := by
  have hstored := h.change.trans hchange
  have hkey := key_of_stored hstored
  have hhealthy := h.healthy trivial
  have hclock : ¬ rt.clock s.tick < change.updatedAt := Nat.not_lt.mpr (hhealthy.clock hstored)
  have hs := h.tick.draw
  unfold transitionRead
  refine (Prog.RG.alone_bind _ _ _).mpr ?_
  rw [now, Prog.RG.alone_atomic]
  refine ⟨hG ⟨rfl, rfl⟩, ?_⟩
  dsimp only
  rw [dif_neg hclock, if_neg (not_not.mpr hupdates)]
  split_ifs with hedge
  · -- the edge is in the graph: the version is the stored one and the audit id is new
    simp only [commitUpdated, buildAuditEvent, uuid4Hex, onChanges, Prog.bind_eq_bind,
      Prog.RG.alone_bind, Prog.RG.alone_tryCatch, Prog.RG.alone_atomic, Prog.pure_eq_ret,
      Prog.RG.alone_ret]
    refine ⟨hG ⟨rfl, rfl⟩, ?_⟩
    have hmoved : MovedTo call.target call.recordUpdates change
        (call.updated change (rt.clock s.tick) hclock) :=
      ⟨rfl, carriesOver_updated call change (rt.clock s.tick) hclock⟩
    have hcurrent : s.changes.stored? ((call.updated change (rt.clock s.tick) hclock).tenantId,
        (call.updated change (rt.clock s.tick) hclock).changeId) = some change := by
      rw [hmoved.key, hkey]
      exact hstored
    rw [commitTransition_of_version hcurrent hmoved.key.symm (hhealthy.fresh s.uuid (Nat.le_refl _) _) hversion.symm rfl]
    refine ⟨hcommit _ _ _ hmoved hs, hQ hedge _ _ hmoved ?_⟩
    exact hs.commit (hmoved.key.trans hkey) (fun _ => rt.clock_mono (Nat.le_succ _))
      fun _ => ⟨s.uuid, Nat.lt_succ_self _, rfl⟩
  · -- the refusal is audited, then raised
    simp only [rejectTransition, buildAuditEvent, uuid4Hex, onChanges, Prog.bind_eq_bind,
      Prog.RG.alone_bind, Prog.RG.alone_atomic, Prog.pure_eq_ret, Prog.RG.alone_ret,
      Prog.RG.alone_raise]
    refine ⟨hG ⟨rfl, rfl⟩, hG ⟨stored?_recordAudit _ _, rfl⟩, ?_⟩
    rw [recordAudit_of_new (by rw [TransitionCall.auditEvent, hkey, hstored]; exact Option.some_ne_none _)
      (hhealthy.fresh s.uuid (Nat.le_refl _) _)]
    exact hreject (Bool.eq_false_of_not_eq_true hedge) _ _
      (hs.appendAudit fun _ => ⟨s.uuid, Nat.lt_succ_self _, rfl⟩)

/-- Without healthy stores, a quiet action leaves the run what it sees. -/
theorem quiet (h : Stands H rt record scene s) (hH : ¬ H) {t : CoordinatorWorld E}
    (hq : Quiet s t) : Stands H rt record scene t := by
  obtain ⟨-, hworkflow, hchange, hremote, hlog, hdead⟩ := h
  refine ⟨fun h => absurd h hH, ?_, ?_, ?_, ?_, ?_⟩
  · rw [World.workflow?, hq.rest]
    exact hworkflow
  · rw [hq.stored]
    exact hchange
  · rw [hq.rest]
    exact hremote
  · rw [hq.rest]
    exact hlog
  · rw [hq.rest]
    exact hdead

theorem carried (record : WorkflowExecutionRecord) (scene : Scene E) (hH : ¬ H) :
    Carried .alone (Stands H rt record scene) where
  rely h heq := heq ▸ h
  quiet h hq := h.quiet hH hq

/-- The service, alone, once it has read the change; any store may refuse. -/
theorem alone_transitionRead_partial {Q : Except Exn ChangeRecord → CoordinatorWorld E → Prop}
    {rt' : Runtime} {call : TransitionCall} {change : ChangeRecord} (hH : ¬ H)
    (h : Stands H rt record scene s) (hcall : call.key = (record.tenantId, record.changeId))
    (hchange : scene.change = some change) (hG : ∀ {t t'}, Quiet t t' → G t t')
    (hcommit : ∀ updated event t, MovedTo call.target call.recordUpdates change updated →
      Stands H rt record scene t → G t (t.commit updated event))
    (hQ : canTransition change.status call.target = true → ∀ updated t,
      MovedTo call.target call.recordUpdates change updated →
      Stands H rt record { scene with change := some updated } t → Q (.ok updated) t)
    (herr : ∀ e t, Stands H rt record scene t → Q (.error e) t) :
    Prog.RG .alone G Q (transitionRead rt' call change) s := by
  have hkey : (change.tenantId, change.changeId) = call.key :=
    (key_of_stored (h.change.trans hchange)).trans hcall.symm
  refine Prog.RG.transitionRead hG (carried record scene hH) h hkey ?_ herr
  rintro t stored _ event ht hedge - - ⟨transitionedAt, hclock, rfl⟩
  have hmoved : MovedTo call.target call.recordUpdates change
      (call.updated change transitionedAt hclock) :=
    ⟨rfl, carriesOver_updated call change transitionedAt hclock⟩
  refine ⟨hcommit _ event t hmoved ht, ?_⟩
  rintro _ rfl
  exact hQ hedge _ _ hmoved (ht.commit (hmoved.key.trans (hkey.trans hcall))
    (fun h => absurd h hH) fun h => absurd h hH)

/-- **The rule of `_transition`.** -/
theorem alone_transition {Q : Except Exn ChangeRecord → CoordinatorWorld E → Prop}
    {target : WorkflowState} {updates : RecordUpdates} {change : ChangeRecord}
    (h : Stands H rt record scene s) (hrt : H → engine.rt = rt.toRuntime)
    (hupdates : H → updates.unsupported = []) (hchange : scene.change = some change)
    (hG : ∀ {t t'}, Quiet t t' → G t t')
    (hcommit : ∀ updated event t, MovedTo target updates change updated →
      Stands H rt record scene t → G t (t.commit updated event))
    (hQ : canTransition change.status target = true → ∀ updated t,
      MovedTo target updates change updated →
      Stands H rt record { scene with change := some updated } t → Q (.ok updated) t)
    (hreject : H → canTransition change.status target = false → ∀ id t,
      Stands H rt record scene t → Q (.error (.invalidStateTransition change.status target id)) t)
    (herr : ¬ H → ∀ e t, Stands H rt record scene t → Q (.error e) t) :
    Prog.RG .alone G Q (engine.transition record target updates) s := by
  unfold WorkflowEngine.transition ChangeOps.transition
  refine (Prog.RG.alone_bind _ _ _).mpr (h.alone_getChange hchange hG ?_)
  refine (Prog.RG.alone_bind _ _ _).mpr (h.alone_getChange hchange hG ?_)
  by_cases hH : H
  · rw [hrt hH]
    have htrue : H = True := eq_true hH
    subst htrue
    exact h.alone_transitionRead rfl (hupdates trivial) hchange hG hcommit hQ (hreject trivial)
  · exact h.alone_transitionRead_partial hH rfl hchange hG hcommit hQ (herr hH)

/-- `if change.status in sources: change = await self._transition(...)`. -/
theorem alone_transitionFrom {Q : Except Exn ChangeRecord → CoordinatorWorld E → Prop}
    {sources : List WorkflowState} {target : WorkflowState} {updates : RecordUpdates}
    {change : ChangeRecord} (h : Stands H rt record scene s) (hrt : H → engine.rt = rt.toRuntime)
    (hupdates : H → updates.unsupported = []) (hchange : scene.change = some change)
    (hedges : ∀ source ∈ sources, canTransition source target = true)
    (hG : ∀ {t t'}, Quiet t t' → G t t')
    (hcommit : change.status ∈ sources → ∀ updated event t, MovedTo target updates change updated →
      Stands H rt record scene t → G t (t.commit updated event))
    (hmoved : change.status ∈ sources → ∀ updated t, MovedTo target updates change updated →
      Stands H rt record { scene with change := some updated } t → Q (.ok updated) t)
    (hskipped : change.status ∉ sources → Q (.ok change) s)
    (herr : ¬ H → ∀ e t, Stands H rt record scene t → Q (.error e) t) :
    Prog.RG .alone G Q (engine.transitionFrom sources record change target updates) s := by
  unfold WorkflowEngine.transitionFrom
  split_ifs with hsource
  · refine h.alone_transition hrt hupdates hchange hG (hcommit hsource) (fun _ => hmoved hsource) ?_ herr
    intro _ hedge
    rw [hedges _ hsource] at hedge
    cases hedge
  · exact (Prog.RG.alone_ret _ _).mpr (hskipped hsource)

end Stands

end ChangeOps
