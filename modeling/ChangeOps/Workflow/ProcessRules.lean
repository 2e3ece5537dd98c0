import ChangeOps.Workflow.ResumeRules

/-!
# ChangeOps.Workflow — a run of `process_event` among others

A delivery creates the workflow and the change, or finds them, and leads both to the approval
pause. Two of its commits write more than a status: the one to `SCREENING` names the workflow
in the change, the one to `PLAN_READY` binds the plan of the workflow to the change. A delivery
never sets the status `EXECUTING`, so nothing authorises it to.
-/

namespace ChangeOps

open InMemoryChangeStateRepository WorkflowEngine

variable [Sha256] {E : Type} {α : Type} {focus : Option ChangeEvent}
  {authorised : ChangeEvent → CoordinatorWorld E → Prop} {engine : WorkflowEngine E}
  {record : WorkflowExecutionRecord} {s : CoordinatorWorld E} {P : CoordinatorWorld E → Prop}

/-- A delivery holds the record of its event. -/
structure Active (focus : Option ChangeEvent) (record : WorkflowExecutionRecord)
    (w : CoordinatorWorld E) : Prop where
  held : Holding focus record w
  belongs : Belongs focus record

theorem lasting_active (focus : Option ChangeEvent) (record : WorkflowExecutionRecord) :
    Lasting (E := E) focus (Active focus record) :=
  fun t t' h he => ⟨lasting_holding focus record t t' h.held he, h.belongs⟩

theorem Belongs.of_key {record' : WorkflowExecutionRecord} (h : Belongs focus record)
    (hkey : record'.key = record.key) : Belongs focus record' := by
  obtain ⟨htenant, hchange, -⟩ := Prod.mk.inj hkey |>.imp id Prod.mk.inj
  intro event hmem hevent
  rw [hkey]
  refine h event hmem (hevent.trans ?_)
  rw [htenant, hchange]

theorem Active.next {record' : WorkflowExecutionRecord} {w : CoordinatorWorld E}
    (h : Active focus record w) (hheld : Holding focus record' w) (hext : Extends record record') :
    Active focus record' w :=
  ⟨hheld, h.belongs.of_key hext.key⟩

/-! ## Commits of a delivery -/

theorem worksWithin_of_commit {t : CoordinatorWorld E} {updated : ChangeRecord}
    {auditEvent : AuditEvent} (h : Evolves focus t (t.commit updated auditEvent))
    (hstatus : updated.status ≠ .EXECUTING) :
    WorksWithin focus authorised t (t.commit updated auditEvent) := by
  refine ⟨h, fun event _ change change' hold hnew hne hexecuting => ?_⟩
  by_cases hkey : changeKey event = (updated.tenantId, updated.changeId)
  · rw [hkey, World.stored?_commit_self] at hnew
    cases hnew
    exact absurd hexecuting hstatus
  · rw [World.stored?_commit_ne t auditEvent hkey, hold] at hnew
    exact absurd (Option.some.inj hnew).symm hne

/-- A transition of a delivery without record updates. -/
theorem works_transitionActive {sources : List WorkflowState} {change : ChangeRecord}
    (target : WorkflowState) (hexecuting : target ≠ .EXECUTING)
    (hbound : target.isBound = true → target = .AWAITING_APPROVAL) (hs : Active focus record s) :
    Works focus authorised (fun r t => ∀ updated, r = .ok updated → Active focus record t)
      (engine.transitionFrom sources record change target {}) s := by
  have hlasting := lasting_active (E := E) focus record
  unfold transitionFrom
  split_ifs
  · refine (works_transitionPlain hlasting hs ?_ ?_ ?_).mono ?_
    · exact fun t replaced _ hedge hb =>
        .inl (isBound_of_canTransition (.inr (.inr (hbound hb))) hedge)
    · exact fun heq => absurd heq hexecuting
    · exact fun t ht => ht.held.consistent
    · exact fun r t hok updated heq => (hok updated heq).1
  · exact fun t ht _ _ => hlasting _ _ hs ht

/-- The transition that names the workflow in the change. -/
theorem works_screening {change : ChangeRecord} (hs : Active focus record s) :
    Works focus authorised (fun r t => ∀ updated, r = .ok updated → Active focus record t)
      (engine.transitionFrom [.RECEIVED] record change .SCREENING
        { workflowExecutionId := some (some record.workflowExecutionId) }) s := by
  have hlasting := lasting_active (E := E) focus record
  unfold transitionFrom
  split_ifs
  · refine works_transition hlasting hs ?_ fun _ _ => noResult
    intro t replaced updated auditEvent hactive hstored hkey hedge hstatus hcarries hadvances
    have hevolves : Evolves focus t (t.commit updated auditEvent) := by
      refine evolves_commit hstored hadvances ?_ ?_ ?_
      · intro _ event hmem hevent
        obtain ⟨-, -, hid⟩ := Prod.mk.inj (hactive.belongs event hmem (hevent.trans hkey))
          |>.imp id Prod.mk.inj
        right
        rw [hcarries.workflowExecutionId, hid]
        rfl
      · intro event hmem hevent
        exact planBound_commit hevent hstored hcarries.planHash hcarries.planVersion
      · intro _ event _ _ hb
        rw [hstatus] at hb
        cases hb
    have hworks : WorksWithin focus authorised t (t.commit updated auditEvent) :=
      worksWithin_of_commit hevolves (by rw [hstatus]; decide)
    exact ⟨hworks, fun t' ht' _ _ => hlasting _ _ (hlasting _ _ hactive hevolves) ht'⟩
  · exact fun t ht _ _ => hlasting _ _ hs ht

/-- The transition that binds the plan of the workflow to the change. -/
theorem works_planReady {plan : RemediationPlan} {change : ChangeRecord}
    (hplan : record.plan = some plan) (hs : Active focus record s) :
    Works focus authorised (fun r t => ∀ updated, r = .ok updated → Active focus record t)
      (engine.transitionFrom [.ANALYZING] record change .PLAN_READY
        { planVersion := some plan.version
          planHash := some (some (calculatePlanHash plan))
          riskLevel := some plan.riskLevel }) s := by
  have hlasting := lasting_active (E := E) focus record
  unfold transitionFrom
  split_ifs
  · refine works_transition hlasting hs ?_ fun _ _ => noResult
    intro t replaced updated auditEvent hactive hstored hkey hedge hstatus hcarries hadvances
    -- whatever was bound before, the commit binds the plan of the workflow
    have hbinds : ∀ event ∈ focus, changeKey event = (updated.tenantId, updated.changeId) →
        PlanBound event (t.commit updated auditEvent) := by
      intro event hmem hevent
      obtain ⟨⟨-, stored, hrecord, hext⟩, hbelongs⟩ := hactive
      refine ⟨updated, stored, plan, ?_, ?_, ?_, hcarries.planHash, hcarries.planVersion⟩
      · rw [hevent]
        exact t.stored?_commit_self updated auditEvent
      · rw [hbelongs event hmem (hevent.trans hkey)]
        exact hrecord
      · rw [(hext.plan (by rw [hplan]; rfl)).1, hplan]
    have hevolves : Evolves focus t (t.commit updated auditEvent) := by
      refine evolves_commit hstored hadvances ?_ ?_ ?_
      · intro hc event hmem hevent
        rw [hcarries.workflowExecutionId]
        exact (hc.binding event hmem).workflowId replaced (hevent ▸ hstored)
      · exact fun event hmem hevent _ => hbinds event hmem hevent
      · exact fun _ event hmem hevent _ => hbinds event hmem hevent
    have hworks : WorksWithin focus authorised t (t.commit updated auditEvent) :=
      worksWithin_of_commit hevolves (by rw [hstatus]; decide)
    exact ⟨hworks, fun t' ht' _ _ => hlasting _ _ (hlasting _ _ hactive hevolves) ht'⟩
  · exact fun t ht _ _ => hlasting _ _ hs ht

/-! ## Creating the change -/

theorem works_addWithAudit {change : ChangeRecord} {auditEvent : AuditEvent} (hP : Lasting focus P)
    (hs : P s) (hid : change.workflowExecutionId = none) (hstatus : change.status.isBound = false) :
    Works focus authorised (fun _ t => P t) (onChanges (addWithAudit change auditEvent)) s := by
  refine Prog.RG.atomic fun t ht => ?_
  have hPt := hP _ _ hs ht
  rcases addWithAudit_cases change auditEvent t.changes with ⟨e, heq⟩ | ⟨hnone, heq⟩
  · simp only [heq]
    exact ⟨worksWithin_of_quiet (Quiet.refl t).noted, fun t' ht' => hP _ _ hPt ht'⟩
  · simp only [heq]
    have hevolves : Evolves focus t { t with
        changes := ((t.changes.put change).claimId change).appendAudit auditEvent } :=
      evolves_add hnone hid hstatus
    refine ⟨⟨hevolves, ?_⟩, fun t' ht' => hP _ _ (hP _ _ hPt hevolves) ht'⟩
    intro event _ stored stored' hold hnew hne _
    -- a change that was stored before is not the added one
    have hkey : changeKey event ≠ (change.tenantId, change.changeId) := by
      intro hkey
      rw [hkey, hnone] at hold
      cases hold
    have hsame : t.changes.stored? (changeKey event) = some stored' := by
      rw [← hnew]
      exact (stored?_put_ne t.changes hkey).symm
    rw [hold] at hsame
    exact absurd (Option.some.inj hsame).symm hne

theorem works_readAny {tenantId changeId : String} (hP : Lasting focus P) (hs : P s) :
    Works focus authorised (fun _ t => P t) (getChange tenantId changeId) s :=
  works_quiet (fun t => Quiet.refl t) hP hs

theorem works_ensureChange (hP : Lasting focus P) (hs : P s) :
    Works focus authorised (fun _ t => P t) (engine.ensureChange record) s := by
  refine (works_readAny hP hs).tryCatch (fun _ _ h => h) fun e t ht => ?_
  split
  · refine (works_now engine.rt hP ht).bind (fun timestamp t ht => ?_) fun _ _ h => h
    refine (works_audit hP ht).bind (fun event t ht => ?_) fun _ _ h => h
    have hadd : Works focus authorised (fun _ t => P t) (do
        onChanges (addWithAudit (receivedChange record timestamp) event)
        return receivedChange record timestamp) t := by
      refine (works_addWithAudit hP ht rfl rfl).bind (fun _ t ht => ?_) fun _ _ h => h
      exact fun t' ht' => hP _ _ ht ht'
    refine hadd.tryCatch (fun _ _ h => h) fun e t ht => ?_
    split
    · refine (works_readAny hP ht).bind (fun existing t ht => ?_) fun _ _ h => h
      split_ifs <;> exact fun t' ht' => hP _ _ ht ht'
    · exact fun t' ht' => hP _ _ ht ht'
  · exact fun t' ht' => hP _ _ ht ht'

/-! ## From the analysis to the approval request -/

omit [Sha256] in
/-- The tasks of a plan: one for each step, without a snapshot. -/
theorem pendingTasks_of_ok {timestamp : Time} {steps : List RemediationStep}
    {tasks : List WorkflowTaskRecord} (h : pendingTasks timestamp steps = .ok tasks) :
    List.Forall₂ (fun step task => ∃ system, systemForStep step = .ok system ∧
      task = pendingTask timestamp step system) steps tasks := by
  unfold pendingTasks at h
  induction steps generalizing tasks with
  | nil =>
    cases h
    exact .nil
  | cons step steps ih =>
    rw [List.mapM_cons] at h
    cases hsystem : systemForStep step with
    | error e =>
      rw [hsystem] at h
      cases h
    | ok system =>
      rw [hsystem] at h
      cases hrest : steps.mapM (fun step => do
          let system ← systemForStep step
          return pendingTask timestamp step system) with
      | error e =>
        rw [hrest] at h
        cases h
      | ok rest =>
        rw [hrest] at h
        cases h
        exact .cons ⟨system, hsystem, rfl⟩ (ih hrest)

omit [Sha256] in
theorem stepIds_pendingTasks {timestamp : Time} {steps : List RemediationStep}
    {tasks : List WorkflowTaskRecord} (h : pendingTasks timestamp steps = .ok tasks) :
    tasks.map (·.stepId) = steps.map (·.stepId) := by
  have hall := pendingTasks_of_ok h
  clear h
  induction hall with
  | nil => rfl
  | cons hhead _ ih =>
    obtain ⟨system, -, rfl⟩ := hhead
    rw [List.map_cons, List.map_cons, ih]
    rfl

theorem works_bindPlan {analysis : FleetAnalysisResult} (hplan : record.plan = none)
    (hs : Active focus record s) :
    Works focus authorised (fun r t => ∀ bound, r = .ok (.inl bound) → Active focus bound t)
      (engine.bindPlan record analysis) s := by
  have hlasting := lasting_active (E := E) focus record
  refine (works_readAny hlasting hs).bind (fun change t ht => ?_) fun _ _ _ _ h => nomatch h
  refine (works_transitionActive .ANALYZING (by decide) (by decide) ht).bind
    (fun change' t ht => ?_) fun _ _ _ _ h => nomatch h
  replace ht := ht _ rfl
  dsimp only
  split_ifs with hinvalid
  · refine (works_deadLetter hlasting ht ht.held).bind (fun finished t ht => ?_)
      fun _ _ _ _ h => nomatch h
    exact fun _ _ _ h => nomatch h
  · refine (works_now engine.rt hlasting ht).bind (fun taskTimestamp t ht => ?_)
      fun _ _ _ _ h => nomatch h
    refine (works_ofExcept hlasting ht).bind (fun tasks t ht => ?_) fun _ _ _ _ h => nomatch h
    obtain ⟨ht, htasks⟩ := ht
    refine (works_now engine.rt hlasting ht).bind (fun issuedAt t ht => ?_)
      fun _ _ _ _ h => nomatch h
    refine (works_updateRecord hlasting ht ht.held rfl ?_ ?_).bind (fun bound t ht => ?_)
      fun _ _ _ _ h => nomatch h
    · -- there was no plan to keep, and the steps of a plan are distinct
      refine fun _ => ⟨?_, ?_, ?_⟩
      · simp [hplan]
      · simp [hplan]
      · show (tasks.map (·.stepId)).Nodup
        rw [stepIds_pendingTasks htasks.symm]
        exact analysis.draftPlan.nodup_stepIds
    · rintro t - - - task hmem snapshotId snapshotHash hid
      obtain ⟨step, -, system, -, rfl⟩ := exists_of_mem_forall₂ (pendingTasks_of_ok htasks.symm) hmem
      cases hid
    · obtain ⟨hheld, -, hext⟩ := ht.2 bound rfl
      have hbound := ht.1.next hheld hext
      intro t' ht' bound' heq
      cases heq
      exact lasting_active focus bound _ _ hbound ht'

theorem works_awaitApproval (hs : Active focus record s) :
    Works focus authorised (fun _ _ => True) (engine.awaitApproval record) s := by
  have hlasting := lasting_active (E := E) focus record
  refine (works_requirePlan hlasting hs).bind (fun plan t ht => ?_) fun _ _ _ => trivial
  obtain ⟨ht, hplan⟩ := ht
  replace hplan := hplan plan rfl
  refine (works_readAny hlasting ht).bind (fun change t ht => ?_) fun _ _ _ => trivial
  refine (works_transitionActive .ANALYZING (by decide) (by decide) ht).bind
    (fun change t ht => ?_) fun _ _ _ => trivial
  refine (works_planReady hplan (ht _ rfl)).bind (fun change t ht => ?_) fun _ _ _ => trivial
  refine (works_transitionActive .AWAITING_APPROVAL (by decide) (fun _ => rfl) (ht _ rfl)).bind
    (fun change t ht => ?_) fun _ _ _ => trivial
  replace ht := ht _ rfl
  split_ifs
  · exact fun _ _ => trivial
  · split
    · next approvalId expiresAt _ _ =>
      have hrequest : Works focus authorised (fun _ t => Active focus record t) (do
          let requestId ← engine.requestId
          exchange (engine.services.createApproval approvalId plan expiresAt requestId)
            fun _ => [.approvalRequested approvalId]) t := by
        refine (works_requestId hlasting ht).bind (fun requestId t ht => ?_) fun _ _ h => h
        refine (works_exchange ?_ hlasting ht).mono fun _ _ h => h.1
        intro answer event hmem
        cases List.mem_singleton.mp hmem
        rfl
      refine hrequest.andThen fun r t ht => ?_
      split
      · exact (works_setRuntimeStatus hlasting ht ht.held).mono fun _ _ _ => trivial
      · split_ifs
        · exact fun _ _ => trivial
        · exact (works_deadLetter hlasting ht ht.held).mono fun _ _ _ => trivial
      · exact fun _ _ => trivial
    · exact fun _ _ => trivial

theorem works_analysisFailed {event : ChangeEvent} {e : Exn} (hs : Active focus record s) :
    Works focus authorised (fun _ _ => True) (engine.analysisFailed record event e) s := by
  have hlasting := lasting_active (E := E) focus record
  unfold analysisFailed
  split
  · split_ifs
    · refine (works_recordAudit hlasting hs).bind (fun _ t ht => ?_) fun _ _ _ => trivial
      have hblocked : Works focus authorised
          (fun r t => ∀ updated, r = .ok updated → Active focus record t)
          (engine.transition record .BLOCKED {}) t := by
        refine (works_transitionPlain hlasting ht ?_ ?_ ?_).mono ?_
        · intro t replaced _ _ hbound
          cases hbound
        · intro hexecuting
          cases hexecuting
        · exact fun t ht => ht.held.consistent
        · exact fun r t hok updated heq => (hok updated heq).1
      refine hblocked.bind (fun change t ht => ?_) fun _ _ _ => trivial
      exact (works_terminal hlasting (ht _ rfl) (ht _ rfl).held).mono fun _ _ _ => trivial
    · exact fun _ _ => trivial
    · exact (works_deadLetter hlasting hs hs.held).mono fun _ _ _ => trivial
  · exact fun _ _ => trivial

theorem works_processRecord {event : ChangeEvent} (hs : Active focus record s) :
    Works focus authorised (fun _ _ => True) (engine.processRecord event record) s := by
  have hlasting := lasting_active (E := E) focus
  unfold processRecord
  split_ifs
  · exact (works_deadLetter (hlasting record) hs hs.held).mono fun _ _ _ => trivial
  · refine (works_ensureChange (hlasting record) hs).bind (fun _ t ht => ?_) fun _ _ _ => trivial
    refine (works_setRuntimeStatus (hlasting record) ht ht.held).bind (fun record₁ t ht => ?_)
      fun _ _ _ => trivial
    obtain ⟨hheld, hnext⟩ := ht.2 record₁ rfl
    replace ht := ht.1.next hheld hnext.extends_
    refine (works_readAny (hlasting record₁) ht).bind (fun change t ht => ?_) fun _ _ _ => trivial
    refine (works_screening ht).bind (fun change t ht => ?_) fun _ _ _ => trivial
    replace ht := ht _ rfl
    split
    · exact works_awaitApproval ht
    · next hplan =>
      have hanalyze : Works focus authorised (fun _ t => Active focus record₁ t) (do
          let requestId ← engine.requestId
          exchange (engine.services.analyze record₁.changeId event requestId) fun _ => []) t := by
        refine (works_requestId (hlasting record₁) ht).bind (fun requestId t ht => ?_) fun _ _ h => h
        exact (works_exchange (by simp) (hlasting record₁) ht).mono fun _ _ h => h.1
      refine hanalyze.andThen fun r t ht => ?_
      split
      · exact works_analysisFailed ht
      · refine (works_bindPlan hplan ht).bind (fun result t ht => ?_) fun _ _ _ => trivial
        split
        · exact fun _ _ => trivial
        · exact works_awaitApproval (ht _ rfl)

/-! ## The delivery -/

/-- The record of a first delivery has nothing to keep yet. -/
theorem works_createOrGet {event : ChangeEvent} {timestamp : Time}
    {created : WorkflowExecutionRecord} (hs : Consistent focus s)
    (hvalid : (receivedFields event timestamp).modelValidate = .ok created) :
    Works focus authorised (fun r t => ∀ record, r = .ok record →
        Holding focus record t ∧ record.key = workflowKey event)
      (onWorkflows (InMemoryWorkflowRepository.createOrGet created)) s := by
  have hfields := WorkflowFields.modelValidate_of_ok hvalid
  have hkey : created.key = workflowKey event := by
    rw [WorkflowExecutionRecord.key, hfields]
    rfl
  have htasks : created.tasks = [] := by rw [hfields]; rfl
  refine Prog.RG.atomic fun t ht => ?_
  have hc := ht.consistent hs
  rcases InMemoryWorkflowRepository.createOrGet_cases created t.rest.workflows with
    ⟨e, heq⟩ | ⟨existing, hstored, heq⟩ | ⟨hnone, heq⟩
  · rw [heq]
    exact ⟨worksWithin_of_quiet ⟨rfl, rfl, by simp⟩, fun t' _ => noResult⟩
  · rw [heq]
    refine ⟨worksWithin_of_quiet ⟨rfl, rfl, by simp⟩, ?_⟩
    rintro t' ht' _ ⟨⟩
    have hexisting := InMemoryWorkflowRepository.key_of_stored hstored
    have hholds : Holding focus existing t :=
      ⟨hc, existing, by rw [hexisting]; exact hstored, .refl existing⟩
    exact ⟨lasting_holding focus existing _ _ hholds ht', hexisting.trans hkey⟩
  · rw [heq]
    have hevolves : Evolves focus t (t.putWorkflow created) := by
      refine evolves_putWorkflow ?_ ?_ ?_
      · intro current hcurrent
        rw [World.workflow?, hnone] at hcurrent
        cases hcurrent
      · intro _
        rw [WorkflowFields.stepIds, htasks]
        exact List.nodup_nil
      · intro _ task hmem
        rw [htasks] at hmem
        cases hmem
    refine ⟨worksWithin_of_evolves hevolves rfl, ?_⟩
    rintro t' ht' _ ⟨⟩
    have hholds : Holding focus created (t.putWorkflow created) :=
      ⟨hevolves.consistent hc, created, t.workflow?_putWorkflow_self created, .refl created⟩
    exact ⟨lasting_holding focus created _ _ hholds ht', hkey⟩

theorem works_readDelivered {event : ChangeEvent} (hs : Consistent focus s) :
    Works focus authorised (fun r t => Consistent focus t ∧ ∀ record, r = .ok record →
        Holding focus record t ∧ record.key = workflowKey event)
      (getWorkflow event.tenantId (deriveChangeId event) (deriveWorkflowId event)) s := by
  refine Prog.RG.atomic fun t ht => ⟨worksWithin_of_quiet (Quiet.refl t).noted, fun t' ht' => ?_⟩
  have hc := ht.consistent hs
  refine ⟨ht'.consistent hc, fun record hget => ?_⟩
  have hstored := InMemoryWorkflowRepository.get_eq_ok.mp hget
  have hkey := InMemoryWorkflowRepository.key_of_stored hstored
  have hholds : Holding focus record t := ⟨hc, record, by rw [hkey]; exact hstored, .refl record⟩
  exact ⟨lasting_holding focus record _ _ hholds ht', hkey⟩

/-- The first part of a delivery: the record to go on with is stored under the event's key. -/
theorem works_openWorkflow {event : ChangeEvent} {timestamp : Time} (hs : Consistent focus s) :
    Works focus authorised (fun r t => ∀ record, r = .ok (.inl record) →
        Holding focus record t ∧ record.key = workflowKey event)
      (engine.openWorkflow event timestamp) s := by
  have hconsistent : Lasting (E := E) focus (Consistent focus) := fun _ _ h he => he.consistent h
  refine Prog.RG.tryCatch (P := fun r t => Consistent focus t ∧ ∀ record,
    r = .ok (.inl record) → Holding focus record t ∧ record.key = workflowKey event) ?_
    (fun _ _ h => h.2) fun e t ht => ?_
  · -- a redelivery: the stored record, with one more attempt
    refine (works_readDelivered hs).bind (fun record t ht => ?_)
      fun e t ht => ⟨ht.1, fun _ h => nomatch h⟩
    obtain ⟨hc, hrecord⟩ := ht
    obtain ⟨hheld, hkey⟩ := hrecord record rfl
    split_ifs
    · exact fun t' ht' => ⟨ht'.consistent hc, fun _ h => nomatch h⟩
    · refine (works_succeed hconsistent hc hheld rfl rfl rfl rfl).bind (fun updated t ht => ?_)
        fun e t ht => ⟨ht.1, fun _ h => nomatch h⟩
      obtain ⟨hheld', hnext⟩ := ht.2 updated rfl
      refine fun t' ht' => ⟨ht'.consistent ht.1, ?_⟩
      rintro _ ⟨⟩
      exact ⟨lasting_holding focus updated _ _ hheld' ht', hnext.extends_.key.trans hkey⟩
  · split
    · cases hvalid : (receivedFields event timestamp).modelValidate with
      | error e => exact fun _ _ _ h => nomatch h
      | ok created =>
        refine (works_createOrGet ht.1 hvalid).bind (fun record t ht => ?_)
          fun _ _ _ _ h => nomatch h
        obtain ⟨hheld, hkey⟩ := ht record rfl
        intro t' ht' record' heq
        cases heq
        exact ⟨lasting_holding focus record _ _ hheld ht', hkey⟩
    · exact fun _ _ _ h => nomatch h

/-- **A run of `process_event`**, started in any consistent state. If an event is singled out
and the delivered event has its change, then it has its workflow too. -/
theorem works_processEvent {event : ChangeEvent}
    (hfocus : ∀ e ∈ focus, changeKey e = changeKey event → workflowKey e = workflowKey event)
    (hs : Consistent focus s) :
    Works focus authorised (fun _ _ => True) (engine.processEvent event) s := by
  have hconsistent : Lasting (E := E) focus (Consistent focus) := fun _ _ h he => he.consistent h
  refine (works_now engine.rt hconsistent hs).bind (fun timestamp t ht => ?_) fun _ _ _ => trivial
  refine (works_openWorkflow ht).bind (fun result t ht => ?_) fun _ _ _ => trivial
  split
  · exact fun _ _ => trivial
  · next record =>
    obtain ⟨hheld, hkey⟩ := ht record rfl
    obtain ⟨htenant, hchange, -⟩ := Prod.mk.inj hkey |>.imp id Prod.mk.inj
    refine works_processRecord ⟨hheld, fun e hmem hevent => ?_⟩
    rw [htenant, hchange] at hevent
    rw [hkey]
    exact hfocus e hmem hevent

end ChangeOps
