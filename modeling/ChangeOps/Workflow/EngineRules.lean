import ChangeOps.Workflow.Discipline

/-!
# ChangeOps.Workflow — rules for the engine's building blocks

One rule for each building block of `WorkflowEngine`, for a run among other runs: it relies
on `evolves` and guarantees `WorksWithin`. What a caller knows is a property that lasts under
`Evolves`; since a run's own actions evolve the world too, such a property also survives
them.
-/

namespace ChangeOps

open InMemoryChangeStateRepository

variable [Sha256] {E : Type} {α : Type}

/-- The triple of a run of the engine among others. -/
abbrev Works (focus : Option ChangeEvent) (authorised : ChangeEvent → CoordinatorWorld E → Prop)
    (Q : Except Exn α → CoordinatorWorld E → Prop) (p : WorkflowEngine.Run E α)
    (s : CoordinatorWorld E) : Prop :=
  p.RG (evolves focus) (WorksWithin focus authorised) Q s

omit [Sha256] in
/-- A raised exception has no result to speak of. -/
theorem noResult {Q : α → Prop} {e : Exn} (a : α)
    (h : (Except.error e : Except Exn α) = .ok a) : Q a :=
  nomatch h

omit [Sha256] in
theorem raised {p : Prop} {Q : α → Prop} {e : Exn} (h : p) :
    p ∧ ∀ a, (Except.error e : Except Exn α) = .ok a → Q a :=
  ⟨h, noResult⟩

/-- A property that survives every evolution. -/
def Lasting (focus : Option ChangeEvent) (P : CoordinatorWorld E → Prop) : Prop :=
  ∀ t t', P t → Evolves focus t t' → P t'

/-- A run holds `record`: it was stored, and it has only been extended since. -/
structure Holding (focus : Option ChangeEvent) (record : WorkflowExecutionRecord)
    (w : CoordinatorWorld E) : Prop where
  consistent : Consistent focus w
  seen : ∃ stored, w.workflow? record.key = some stored ∧ Extends record stored

variable {focus : Option ChangeEvent} {authorised : ChangeEvent → CoordinatorWorld E → Prop}
  {engine : WorkflowEngine E} {record : WorkflowExecutionRecord} {s : CoordinatorWorld E}
  {P : CoordinatorWorld E → Prop}

theorem lasting_holding (focus : Option ChangeEvent) (record : WorkflowExecutionRecord) :
    Lasting (E := E) focus (Holding focus record) := by
  rintro t t' ⟨hc, stored, hstored, hext⟩ he
  obtain ⟨stored', hstored', hext'⟩ := he.workflows _ _ hstored
  exact ⟨he.consistent hc, stored', hstored', hext.trans hext'⟩

theorem Lasting.and {P' : CoordinatorWorld E → Prop} (h : Lasting focus P)
    (h' : Lasting focus P') : Lasting focus fun t => P t ∧ P' t :=
  fun t t' ht he => ⟨h t t' ht.1 he, h' t t' ht.2 he⟩

theorem Lasting.const (p : Prop) : Lasting (E := E) focus fun _ => p :=
  fun _ _ h _ => h

/-! ## Actions that store nothing -/

theorem works_noted {f : CoordinatorWorld E → Except Exn α × CoordinatorWorld E}
    (hf : ∀ t, ∃ events, Noted events t (f t).2 ∧ ∀ event ∈ events, event.isCall = false)
    (hP : Lasting focus P) (hs : P s) :
    Works focus authorised (fun _ t => P t) (Prog.atomic f) s := by
  refine Prog.RG.atomic fun t ht => ?_
  obtain ⟨events, hnoted, hharmless⟩ := hf t
  have hworks : WorksWithin focus authorised t (f t).2 := worksWithin_of_noted hnoted hharmless
  exact ⟨hworks, fun t' ht' => hP _ _ (hP _ _ (hP _ _ hs ht) hworks.evolves) ht'⟩

theorem works_quiet {f : CoordinatorWorld E → Except Exn α × CoordinatorWorld E}
    (hf : ∀ t, Quiet t (f t).2) (hP : Lasting focus P) (hs : P s) :
    Works focus authorised (fun _ t => P t) (Prog.atomic f) s :=
  works_noted (fun t => ⟨[], (hf t).noted, by simp⟩) hP hs

theorem works_now (rt : Runtime) (hP : Lasting focus P) (hs : P s) :
    Works focus authorised (fun _ t => P t) (now rt) s :=
  works_quiet (fun _ => ⟨rfl, rfl⟩) hP hs

theorem works_requestId (hP : Lasting focus P) (hs : P s) :
    Works focus authorised (fun _ t => P t) engine.requestId s := by
  have hdraw : Works focus authorised (fun _ t => P t) (uuid4Hex engine.rt) s :=
    works_quiet (fun _ => ⟨rfl, rfl⟩) hP hs
  exact hdraw.bind (fun _ t ht t' ht' => hP t t' ht ht') fun _ _ h => h

theorem works_audit {entry : WorkflowEngine.AuditNote} (hP : Lasting focus P) (hs : P s) :
    Works focus authorised (fun _ t => P t) (engine.audit record entry) s := by
  have hdraw : Works focus authorised (fun _ t => P t) (uuid4Hex engine.rt) s :=
    works_quiet (fun _ => ⟨rfl, rfl⟩) hP hs
  refine hdraw.bind (fun _ t ht => ?_) fun _ _ h => h
  exact (works_now engine.rt hP ht).bind (fun _ t ht t' ht' => hP t t' ht ht') fun _ _ h => h

theorem works_recordAudit {entry : WorkflowEngine.AuditNote} (hP : Lasting focus P) (hs : P s) :
    Works focus authorised (fun _ t => P t) (engine.recordAudit record entry) s := by
  refine (works_audit hP hs).bind (fun event t ht => ?_) fun _ _ h => h
  exact works_quiet (fun t => ⟨stored?_recordAudit event t.changes, rfl⟩) hP ht

/-- An exchange, whose notes may be observed together with its answer. -/
theorem works_exchange {request : Exchange E α}
    {notes : Except RemoteError α → List RemoteEvent}
    (hnotes : ∀ answer, ∀ event ∈ notes answer, event.isCall = false)
    (hP : Lasting focus P) (hs : P s) :
    Works focus authorised (fun r t => P t ∧ ∃ answer,
        r = answer.mapError RemoteError.toExn ∧ ∀ event ∈ notes answer, event ∈ t.rest.log)
      (exchange request notes) s := by
  refine Prog.RG.atomic fun t ht => ?_
  have hnoted : Noted (notes (request t.changes t.rest.remote).1) t
      { t with rest := { t.rest with
          remote := (request t.changes t.rest.remote).2
          log := t.rest.log ++ notes (request t.changes t.rest.remote).1 } } :=
    ⟨rfl, rfl, rfl⟩
  have hworks : WorksWithin focus authorised t _ := worksWithin_of_noted hnoted (hnotes _)
  refine ⟨hworks, fun t' ht' => ⟨hP _ _ (hP _ _ (hP _ _ hs ht) hworks.evolves) ht', _, rfl, ?_⟩⟩
  intro event hmem
  exact ht'.log.subset (List.mem_append_right _ hmem)

/-- A note that is not about a call. -/
theorem works_note {event : RemoteEvent} (hevent : event.isCall = false)
    (hP : Lasting focus P) (hs : P s) :
    Works focus authorised (fun _ t => P t) (note event) s := by
  refine works_noted (fun t => ⟨[event], ⟨rfl, rfl, rfl⟩, fun event' hmem => ?_⟩) hP hs
  rw [List.mem_singleton.mp hmem]
  exact hevent

/-- A program of a service leaves the stored records alone. -/
theorem works_remotely (p : Prog (InMemoryChangeStateRepository × E) RemoteError α)
    (hP : Lasting focus P) (hs : P s) :
    Works focus authorised (fun _ t => P t) (remotely p) s := by
  induction p generalizing s with
  | ret a => exact fun t ht => hP s t hs ht
  | raise e => exact fun t ht => hP s t hs ht
  | step u k ih =>
    intro t ht
    have hworks : WorksWithin focus authorised t
        { t with rest := { t.rest with remote := (u (t.changes, t.rest.remote)).2 } } :=
      worksWithin_of_quiet ⟨rfl, rfl, by simp⟩
    exact ⟨hworks, ih _ (hP _ _ (hP _ _ hs ht) hworks.evolves)⟩
  | choice l r ihl ihr => exact ⟨ihl hs, ihr hs⟩

/-! ## Updates of the held record -/

/-- The document of an update keeps what a stored workflow must keep. -/
structure Keeps (record : WorkflowExecutionRecord) (fields : WorkflowFields) : Prop where
  plan : record.plan.isSome → fields.plan = record.plan ∧ fields.approvalId = record.approvalId
  tasks : record.plan.isSome → List.Forall₂ KeepsSnapshot record.tasks fields.tasks
  distinct : fields.stepIds.Nodup

/-- `updated` is what `_update_record` makes of `record`. -/
def UpdatedBy (updates : WorkflowFields → WorkflowFields)
    (record updated : WorkflowExecutionRecord) : Prop :=
  ∃ updatedAt, (WorkflowEngine.revise record updates updatedAt).modelValidate = .ok updated

section UpdatedBy

variable {updates : WorkflowFields → WorkflowFields} {updated : WorkflowExecutionRecord}

/-- The fields of an updated record, except its time, version and error code. -/
theorem UpdatedBy.fields (h : UpdatedBy updates record updated) :
    ∃ updatedAt, updated.toWorkflowFields =
      { updates record.toWorkflowFields with
        updatedAt := updatedAt
        version := record.version + 1
        lastErrorCode := (updates record.toWorkflowFields).lastErrorCode.map stripWhitespace } := by
  obtain ⟨updatedAt, hvalid⟩ := h
  exact ⟨updatedAt, WorkflowFields.modelValidate_of_ok hvalid⟩

theorem UpdatedBy.version (h : UpdatedBy updates record updated) :
    updated.version = record.version + 1 := by
  obtain ⟨_, hfields⟩ := h.fields
  rw [hfields]

theorem UpdatedBy.key (h : UpdatedBy updates record updated) :
    updated.key = (updates record.toWorkflowFields).key := by
  obtain ⟨_, hfields⟩ := h.fields
  rw [WorkflowExecutionRecord.key, hfields]
  rfl

theorem UpdatedBy.plan (h : UpdatedBy updates record updated) :
    updated.plan = (updates record.toWorkflowFields).plan := by
  obtain ⟨_, hfields⟩ := h.fields
  rw [hfields]

theorem UpdatedBy.approvalId (h : UpdatedBy updates record updated) :
    updated.approvalId = (updates record.toWorkflowFields).approvalId := by
  obtain ⟨_, hfields⟩ := h.fields
  rw [hfields]

theorem UpdatedBy.tasks (h : UpdatedBy updates record updated) :
    updated.tasks = (updates record.toWorkflowFields).tasks := by
  obtain ⟨_, hfields⟩ := h.fields
  rw [hfields]

theorem UpdatedBy.extends (h : UpdatedBy updates record updated)
    (hkey : (updates record.toWorkflowFields).key = record.key)
    (hkeeps : Keeps record (updates record.toWorkflowFields)) : Extends record updated := by
  have hversion := h.version
  refine ⟨h.key.trans hkey, .inr (by omega), fun hplan => ?_, fun hplan => ?_⟩
  · rw [h.plan, h.approvalId]
    exact hkeeps.plan hplan
  · rw [h.tasks]
    exact hkeeps.tasks hplan

end UpdatedBy

/-- Storing an updated record, which succeeds only if the held record is still stored. -/
theorem works_storeUpdated {updates : WorkflowFields → WorkflowFields}
    {updated : WorkflowExecutionRecord} (hP : Lasting focus P) (hs : P s)
    (hheld : Holding focus record s) (hupdated : UpdatedBy updates record updated)
    (hkey : (updates record.toWorkflowFields).key = record.key)
    (hkeeps : record.stepIds.Nodup → Keeps record (updates record.toWorkflowFields))
    (hcaptured : ∀ t, P t → Consistent focus t → t.workflow? record.key = some record →
      SnapshotsCaptured t.rest.log record.key (updates record.toWorkflowFields).tasks) :
    Works focus authorised (fun r t => P t ∧ ∀ result, r = .ok result →
        Holding focus result t ∧ UpdatedBy updates record result ∧ Extends record result)
      (onWorkflows (InMemoryWorkflowRepository.update updated record.version)) s := by
  refine Prog.RG.atomic fun t ht => ?_
  have hukey : updated.key = record.key := hupdated.key.trans hkey
  have hPt := hP _ _ hs ht
  obtain ⟨hc, stored, hstored, hext⟩ := lasting_holding focus record _ _ hheld ht
  rcases InMemoryWorkflowRepository.update_cases updated record.version t.rest.workflows with
    ⟨e, heq⟩ | ⟨current, hcurrent, hversion, -, heq⟩
  · rw [heq]
    exact ⟨worksWithin_of_quiet ⟨rfl, rfl, by simp⟩, fun t' ht' => raised (hP _ _ hPt ht')⟩
  · rw [heq]
    -- the versions agree, so the stored workflow is the held record
    have hsame : t.workflow? record.key = some record := by
      rw [hukey] at hcurrent
      obtain rfl : current = stored := Option.some.inj (hcurrent.symm.trans hstored)
      rw [hext.eq_of_version hversion] at hstored
      exact hstored
    have hdistinct := hc.tasks _ _ hsame
    have hextends := hupdated.extends hkey (hkeeps hdistinct)
    have hevolves : Evolves focus t (t.putWorkflow updated) := by
      refine evolves_putWorkflow ?_ ?_ ?_
      · intro current' hcurrent'
        rw [hukey, hsame] at hcurrent'
        cases hcurrent'
        exact hextends
      · intro _
        rw [WorkflowFields.stepIds, hupdated.tasks]
        exact (hkeeps hdistinct).distinct
      · intro _
        rw [hukey, hupdated.tasks]
        exact hcaptured t hPt hc hsame
    refine ⟨worksWithin_of_evolves hevolves rfl, fun t' ht' => ⟨?_, ?_⟩⟩
    · exact hP _ _ (hP _ _ hPt hevolves) ht'
    · rintro _ ⟨⟩
      have hholds : Holding focus updated (t.putWorkflow updated) :=
        ⟨hevolves.consistent hc, updated, t.workflow?_putWorkflow_self updated, .refl updated⟩
      exact ⟨lasting_holding focus updated _ _ hholds ht', hupdated, hextends⟩

/-- **The rule of `_update_record`.** What has to hold of the document needs to hold only if
the held record is still stored. -/
theorem works_updateRecord {updates : WorkflowFields → WorkflowFields} (hP : Lasting focus P)
    (hs : P s) (hheld : Holding focus record s)
    (hkey : (updates record.toWorkflowFields).key = record.key)
    (hkeeps : record.stepIds.Nodup → Keeps record (updates record.toWorkflowFields))
    (hcaptured : ∀ t, P t → Consistent focus t → t.workflow? record.key = some record →
      SnapshotsCaptured t.rest.log record.key (updates record.toWorkflowFields).tasks) :
    Works focus authorised (fun r t => P t ∧ ∀ updated, r = .ok updated →
        Holding focus updated t ∧ UpdatedBy updates record updated ∧ Extends record updated)
      (engine.updateRecord record updates) s := by
  have hboth := hP.and (lasting_holding focus record)
  refine (works_now engine.rt hboth ⟨hs, hheld⟩).bind ?_ fun e t ht => raised ht.1
  rintro updatedAt t ⟨hPt, hheld⟩
  cases hvalid : (WorkflowEngine.revise record updates updatedAt).modelValidate with
  | error e => exact fun t' ht' => raised (hP _ _ hPt ht')
  | ok updated => exact works_storeUpdated hP hPt hheld ⟨updatedAt, hvalid⟩ hkey hkeeps hcaptured

/-! ## Updates that capture nothing -/

/-- The document differs from the record in neither the plan nor the snapshots. -/
structure Rewrites (record : WorkflowExecutionRecord) (fields : WorkflowFields) : Prop where
  plan : fields.plan = record.plan
  approvalId : fields.approvalId = record.approvalId
  tasks : List.Forall₂ SameSnapshot record.tasks fields.tasks

theorem Rewrites.keeps {fields : WorkflowFields} (h : Rewrites record fields)
    (hdistinct : record.stepIds.Nodup) : Keeps record fields := by
  have htasks := h.tasks.imp fun _ _ => SameSnapshot.keeps
  refine ⟨fun _ => ⟨h.plan, h.approvalId⟩, fun _ => htasks, ?_⟩
  rw [WorkflowFields.stepIds, stepIds_of_keepsSnapshot htasks]
  exact hdistinct

theorem Rewrites.captured {fields : WorkflowFields} {log : List RemoteEvent}
    (h : Rewrites record fields) (hcaptured : SnapshotsCaptured log record.key record.tasks) :
    SnapshotsCaptured log record.key fields.tasks := by
  intro task' hmem snapshotId snapshotHash hid hhash
  obtain ⟨task, htask, hstep, hid', hhash'⟩ := exists_of_mem_forall₂ h.tasks hmem
  rw [hstep]
  exact hcaptured task htask snapshotId snapshotHash (hid' ▸ hid) (hhash' ▸ hhash)

/-- `_update_record` with a document that captures nothing. -/
theorem works_rewrite {updates : WorkflowFields → WorkflowFields} (hP : Lasting focus P)
    (hs : P s) (hheld : Holding focus record s)
    (hkey : (updates record.toWorkflowFields).key = record.key)
    (hrewrites : record.stepIds.Nodup → Rewrites record (updates record.toWorkflowFields)) :
    Works focus authorised (fun r t => P t ∧ ∀ updated, r = .ok updated →
        Holding focus updated t ∧ UpdatedBy updates record updated ∧ Extends record updated)
      (engine.updateRecord record updates) s :=
  works_updateRecord hP hs hheld hkey (fun hd => (hrewrites hd).keeps hd)
    fun _ _ hc hstored => (hrewrites (hc.tasks _ _ hstored)).captured
      (hc.snapshots.captured _ _ hstored)

/-- The next record of a run, with the same plan and the same tasks. -/
structure Successor (record record' : WorkflowExecutionRecord) : Prop where
  extends_ : Extends record record'
  plan : record'.plan = record.plan
  approvalId : record'.approvalId = record.approvalId
  tasks : record'.tasks = record.tasks

theorem Successor.refl (record : WorkflowExecutionRecord) : Successor record record :=
  ⟨.refl record, rfl, rfl, rfl⟩

/-- An update of fields other than the plan and the tasks. -/
theorem works_succeed {updates : WorkflowFields → WorkflowFields} (hP : Lasting focus P)
    (hs : P s) (hheld : Holding focus record s)
    (hkey : (updates record.toWorkflowFields).key = record.key)
    (hplan : (updates record.toWorkflowFields).plan = record.plan)
    (happroval : (updates record.toWorkflowFields).approvalId = record.approvalId)
    (htasks : (updates record.toWorkflowFields).tasks = record.tasks) :
    Works focus authorised (fun r t => P t ∧ ∀ updated, r = .ok updated →
        Holding focus updated t ∧ Successor record updated)
      (engine.updateRecord record updates) s := by
  refine (works_rewrite hP hs hheld hkey fun _ => ⟨hplan, happroval, ?_⟩).mono ?_
  · rw [htasks]
    exact List.forall₂_same.mpr fun task _ => .refl task
  · rintro r t ⟨hPt, hok⟩
    refine ⟨hPt, fun updated heq => ?_⟩
    obtain ⟨hheld', hupdated, hext⟩ := hok updated heq
    exact ⟨hheld', hext, hupdated.plan.trans hplan, hupdated.approvalId.trans happroval,
      hupdated.tasks.trans htasks⟩

theorem works_setRuntimeStatus {status : WorkflowRuntimeStatus} {code : Option String}
    (hP : Lasting focus P) (hs : P s) (hheld : Holding focus record s) :
    Works focus authorised (fun r t => P t ∧ ∀ updated, r = .ok updated →
        Holding focus updated t ∧ Successor record updated)
      (engine.setRuntimeStatus record status code) s := by
  unfold WorkflowEngine.setRuntimeStatus
  split_ifs
  · intro t ht
    refine ⟨hP _ _ hs ht, ?_⟩
    rintro _ ⟨⟩
    exact ⟨lasting_holding focus record _ _ hheld ht, .refl record⟩
  · exact works_succeed hP hs hheld rfl rfl rfl rfl

theorem works_terminal {status : WorkflowRuntimeStatus} {code : Option String}
    (hP : Lasting focus P) (hs : P s) (hheld : Holding focus record s) :
    Works focus authorised (fun r t => P t ∧ ∀ updated, r = .ok updated →
        Holding focus updated t ∧ Successor record updated)
      (engine.terminal record status code) s := by
  unfold WorkflowEngine.terminal
  split_ifs
  · intro t ht
    refine ⟨hP _ _ hs ht, ?_⟩
    rintro _ ⟨⟩
    exact ⟨lasting_holding focus record _ _ hheld ht, .refl record⟩
  · have hboth := hP.and (lasting_holding focus record)
    refine (works_now engine.rt hboth ⟨hs, hheld⟩).bind ?_ fun e t ht => raised ht.1
    exact fun completedAt t ht => works_succeed hP ht.1 ht.2 rfl rfl rfl rfl

theorem works_deadLetter {errorCode : String} (hP : Lasting focus P) (hs : P s)
    (hheld : Holding focus record s) :
    Works focus authorised (fun _ t => P t) (engine.deadLetter record errorCode) s := by
  refine (works_terminal hP hs hheld).bind (fun finished t ht => ?_) fun e t ht => ht.1
  refine (works_now engine.rt hP ht.1).bind (fun createdAt t ht => ?_) fun e t ht => ht
  cases nonEmptyStr errorCode with
  | error e => exact fun t' ht' => hP _ _ ht ht'
  | ok checkedCode =>
    have hstore : Works focus authorised (fun _ t => P t)
        (onWorkflows (InMemoryWorkflowRepository.recordDeadLetter {
          deadLetterId := "dlq_" ++ record.workflowExecutionId
          tenantId := record.tenantId
          eventId := record.eventId
          workflowExecutionId := record.workflowExecutionId
          errorCode := checkedCode
          inputHash := sha256Digest record.event.modelDump
          createdAt := createdAt })) t :=
      works_noted (fun t => ⟨[], ⟨rfl, InMemoryWorkflowRepository.stored?_recordDeadLetter _ _,
        by simp⟩, by simp⟩) hP ht
    exact hstore.bind (fun _ t ht t' ht' => hP _ _ ht ht') fun e t ht => ht

/-! ## Transitions of the change -/

/-- The rule of the transition service after its read, for a caller whose expected version is
not ahead of what was read: the commit replaces the change whose edge was checked. -/
theorem works_transitionRead {rt : Runtime} {call : TransitionCall} {current : ChangeRecord}
    {Q : Except Exn ChangeRecord → CoordinatorWorld E → Prop} (hP : Lasting focus P) (hs : P s)
    (hread : HasRead call current s)
    (hcommit : ∀ t updated auditEvent, P t →
      t.changes.stored? (updated.tenantId, updated.changeId) = some current →
      (updated.tenantId, updated.changeId) = call.key → current.version = call.expectedVersion →
      canTransition current.status call.target = true → updated.status = call.target →
      CarriesOver call.recordUpdates current updated → Advances (some current) (some updated) →
      WorksWithin focus authorised t (t.commit updated auditEvent) ∧
        ∀ t', Evolves focus (t.commit updated auditEvent) t' → Q (.ok updated) t')
    (herr : ∀ e t, Q (.error e) t) :
    Works focus authorised Q (transitionRead rt call current) s := by
  have hquiet : ∀ {t t'}, Quiet t t' → WorksWithin focus authorised t t' :=
    fun h => worksWithin_of_quiet h.noted
  have hbase := hasRead_carried (X := Coordinator E) call current
  have hcarried : Carried (evolves focus) fun t => P t ∧ HasRead call current t :=
    ⟨fun h he => ⟨hP _ _ h.1 he, hbase.rely h.2 he.changes⟩,
      fun h hq => ⟨hP _ _ h.1 (hquiet hq).evolves, hbase.quiet h.2 hq⟩⟩
  refine Prog.RG.transitionRead hquiet hcarried ⟨hs, hread⟩ hread.key ?_ fun e t _ => herr e t
  rintro t stored _ auditEvent ⟨hPt, hhasRead⟩ hedge hstored hversion ⟨transitionedAt, hclock, rfl⟩
  obtain rfl : stored = current := hhasRead.eq_of_version hstored hversion
  have hlaw := lawfulCommit_updated call stored transitionedAt hclock hedge
  have hadv := hlaw.advances (Nat.lt_succ_of_le (Nat.le_of_eq hversion))
  exact hcommit t _ auditEvent hPt ((congrArg t.changes.stored? hhasRead.key).trans hstored)
    hhasRead.key hversion hedge rfl hlaw.carriesOver hadv

/-- The read of the transition service, after a read of the same change. -/
theorem works_readAgain {call : TransitionCall} {before : ChangeRecord} (hP : Lasting focus P)
    (hs : P s) (hbefore : Advances (some before) (s.changes.stored? call.key))
    (hversion : call.expectedVersion ≤ before.version) :
    Works focus authorised (fun r t => ∀ current, r = .ok current → P t ∧ HasRead call current t)
      (getChange call.tenantId call.changeId) s := by
  refine Prog.RG.getChange (fun h => worksWithin_of_quiet h.noted) ?_ (by simp)
  rintro t t' current ht hstored ht' _ ⟨⟩
  refine ⟨hP _ _ (hP _ _ hs ht) ht', key_of_stored hstored, ?_, hstored ▸ ht'.changes _⟩
  have hadv := hbefore.trans (ht.changes _)
  rw [show t.changes.stored? call.key = some current from hstored] at hadv
  exact hversion.trans hadv.version_le

/-- **The rule of the engine's `_transition`.** Nobody can have moved the change between its
reads and its commit without moving its version. -/
theorem works_transition {target : WorkflowState} {updates : RecordUpdates}
    {Q : Except Exn ChangeRecord → CoordinatorWorld E → Prop} (hP : Lasting focus P) (hs : P s)
    (hcommit : ∀ t replaced updated auditEvent, P t →
      t.changes.stored? (updated.tenantId, updated.changeId) = some replaced →
      (updated.tenantId, updated.changeId) = (record.tenantId, record.changeId) →
      canTransition replaced.status target = true → updated.status = target →
      CarriesOver updates replaced updated → Advances (some replaced) (some updated) →
      WorksWithin focus authorised t (t.commit updated auditEvent) ∧
        ∀ t', Evolves focus (t.commit updated auditEvent) t' → Q (.ok updated) t')
    (herr : ∀ e t, Q (.error e) t) :
    Works focus authorised Q (engine.transition record target updates) s := by
  -- the read of `_transition` fixes the expected version
  have hread : Works focus authorised (fun r t => ∀ current, r = .ok current → P t ∧
      Advances (some current) (t.changes.stored? (record.tenantId, record.changeId)))
      (getChange record.tenantId record.changeId) s := by
    refine Prog.RG.getChange (fun h => worksWithin_of_quiet h.noted) ?_ (by simp)
    rintro t t' current ht hstored ht' _ ⟨⟩
    exact ⟨hP _ _ (hP _ _ hs ht) ht', hstored ▸ ht'.changes _⟩
  refine hread.bind ?_ fun e t _ => herr e t
  intro before t hbefore
  obtain ⟨hPt, hadvances⟩ := hbefore before rfl
  refine (works_readAgain hP hPt hadvances (Nat.le_refl _)).bind ?_ fun e t _ => herr e t
  intro current t hcurrent
  obtain ⟨hPt, hhasRead⟩ := hcurrent current rfl
  refine works_transitionRead hP hPt hhasRead ?_ herr
  intro t updated auditEvent hPt hstored hkey _ hedge hstatus hcarries hadvances
  exact hcommit t current updated auditEvent hPt hstored hkey hedge hstatus hcarries hadvances

/-- The change of a record, if it is the change of a focused event, has its plan bound. -/
def BoundFor (focus : Option ChangeEvent) (record : WorkflowExecutionRecord)
    (w : CoordinatorWorld E) : Prop :=
  ∀ event ∈ focus, changeKey event = (record.tenantId, record.changeId) → PlanBound event w

theorem lasting_boundFor (focus : Option ChangeEvent) (record : WorkflowExecutionRecord) :
    Lasting (E := E) focus (BoundFor focus record) :=
  fun _ _ h he event hmem hkey => he.bound event hmem (h event hmem hkey)

/-- The workflow of the record is that of a focused event whose change is the record's. -/
def Belongs (focus : Option ChangeEvent) (record : WorkflowExecutionRecord) : Prop :=
  ∀ event ∈ focus, changeKey event = (record.tenantId, record.changeId) →
    workflowKey event = record.key

omit [Sha256] in
/-- The states from which a change is approved, executed or sent to approval have a plan. -/
theorem isBound_of_canTransition {current target : WorkflowState}
    (htarget : target = .APPROVED ∨ target = .EXECUTING ∨ target = .AWAITING_APPROVAL)
    (h : canTransition current target = true) : current.isBound = true := by
  rcases htarget with rfl | rfl | rfl <;> cases current <;> first | rfl | cases h

theorem planBound_commit {event : ChangeEvent} {t : CoordinatorWorld E}
    {replaced updated : ChangeRecord} {auditEvent : AuditEvent}
    (hkey : changeKey event = (updated.tenantId, updated.changeId))
    (hstored : t.changes.stored? (updated.tenantId, updated.changeId) = some replaced)
    (hhash : updated.planHash = replaced.planHash)
    (hversion : updated.planVersion = replaced.planVersion) (h : PlanBound event t) :
    PlanBound event (t.commit updated auditEvent) := by
  obtain ⟨change, record, plan, hchange, hrecord, hplan, hh, hv⟩ := h
  rw [hkey, hstored] at hchange
  cases hchange
  exact ⟨updated, record, plan, by rw [hkey]; exact t.stored?_commit_self updated auditEvent, hrecord,
    hplan, hhash.trans hh, hversion.trans hv⟩

/-- A commit that sets no field of its own. -/
theorem worksWithin_commit {t : CoordinatorWorld E} {replaced updated : ChangeRecord}
    {auditEvent : AuditEvent}
    (hstored : t.changes.stored? (updated.tenantId, updated.changeId) = some replaced)
    (hadvances : Advances (some replaced) (some updated))
    (hcarries : CarriesOver {} replaced updated)
    (hbound : Consistent focus t → updated.status.isBound = true → ∀ event ∈ focus,
      changeKey event = (updated.tenantId, updated.changeId) → PlanBound event t)
    (hauthorised : updated.status = .EXECUTING → ∀ event ∈ focus,
      changeKey event = (updated.tenantId, updated.changeId) → authorised event t) :
    WorksWithin focus authorised t (t.commit updated auditEvent) := by
  refine ⟨evolves_commit hstored hadvances ?_ ?_ ?_, ?_⟩
  · intro hc event hmem hkey
    rw [hcarries.workflowExecutionId]
    exact (hc.binding event hmem).workflowId replaced (hkey ▸ hstored)
  · intro event hmem hkey
    exact planBound_commit hkey hstored hcarries.planHash hcarries.planVersion
  · intro hc event hmem hkey hstatus
    exact planBound_commit hkey hstored hcarries.planHash hcarries.planVersion
      (hbound hc hstatus event hmem hkey)
  · intro event hmem change change' hold hnew hne hexecuting
    by_cases hkey : changeKey event = (updated.tenantId, updated.changeId)
    · rw [hkey, World.stored?_commit_self] at hnew
      cases hnew
      exact hauthorised hexecuting event hmem hkey
    · rw [World.stored?_commit_ne t auditEvent hkey, hold] at hnew
      exact absurd (Option.some.inj hnew).symm hne

/-- `_transition` without record updates. The plan of the change must be known to be bound,
unless the edge into `target` or the target itself makes that unnecessary. -/
theorem works_transitionPlain {target : WorkflowState} (hP : Lasting focus P) (hs : P s)
    (hbound : ∀ t replaced, P t → canTransition replaced target = true →
      target.isBound = true → replaced.isBound = true ∨ BoundFor focus record t)
    (hauthorised : target = .EXECUTING → ∀ t, P t → BoundFor focus record t →
      ∀ event ∈ focus, changeKey event = (record.tenantId, record.changeId) → authorised event t)
    (hconsistent : ∀ t, P t → Consistent focus t) :
    Works focus authorised (fun r t => ∀ updated, r = .ok updated →
        P t ∧ updated.status = target ∧ (target.isBound = true → BoundFor focus record t))
      (engine.transition record target {}) s := by
  refine works_transition hP hs ?_ fun e t => noResult
  rintro t replaced updated auditEvent hPt hstored hkey hedge rfl hcarries hadvances
  have hb : updated.status.isBound = true → BoundFor focus record t := by
    intro hstatus event hmem hk
    rcases hbound t _ hPt hedge hstatus with hreplaced | hb
    · exact ((hconsistent t hPt).binding event hmem).bound replaced ((hk.trans hkey.symm) ▸ hstored)
        hreplaced
    · exact hb event hmem hk
  have hworks : WorksWithin focus authorised t (t.commit updated auditEvent) := by
    refine worksWithin_commit hstored hadvances hcarries ?_ ?_
    · exact fun _ hstatus event hmem hk => hb hstatus event hmem (hk.trans hkey)
    · intro hexecuting event hmem hk
      exact hauthorised hexecuting t hPt (hb (by rw [hexecuting]; rfl)) event hmem (hk.trans hkey)
  refine ⟨hworks, fun t' ht' => ?_⟩
  rintro _ ⟨⟩
  refine ⟨hP _ _ (hP _ _ hPt hworks.evolves) ht', rfl, fun hstatus => ?_⟩
  exact lasting_boundFor focus record _ _ (lasting_boundFor focus record _ _ (hb hstatus)
    hworks.evolves) ht'

end ChangeOps
