import ChangeOps.Workflow.Alone
import ChangeOps.Workflow.ResumeRules
import ChangeOps.Workflow.SandboxClient
import ChangeOps.Workflow.Terminal

/-!
# ChangeOps.Workflow — a rollback and what the sandboxes answer

`_rollback` goes through the tasks in reverse plan order and continues past a
`DependencyCallError`. What the sandboxes answer decides the `Verdict` on each task, and the
verdicts decide how the rollback ends. One verdict is fatal: an exception that the sandbox client
does not map, or an error code that no task can store, escapes the loop, and the systems that
were still to be restored are left as they are.
-/

namespace ChangeOps

open InMemoryChangeStateRepository WorkflowEngine

/-! ## Verdicts -/

/-- What comes of the compensation of a task. -/
inductive Verdict where
  | noSnapshot
  | restored
  | failed (code : String)
  | escaped
deriving DecidableEq

/-- A failed request: the task stores the error code, if it can. -/
def Verdict.ofError : RemoteError → Verdict
  | .dependencyCall code _ => if (nonEmptyStr code).isOk then .failed code else .escaped
  | .unmapped _ => .escaped

/-- The note that a task's compensation leaves. -/
def restoreNotes (key : WorkflowKey) (task : WorkflowTaskRecord) : List RemoteEvent :=
  if task.snapshotId.isSome then [.restoreCalled key task.stepId] else []

section Rollback

variable [Sha256] {E : Type}

/-- The verdict on a task, and the state in which its requests leave the sandboxes. -/
def verdict (http : SandboxHttp E) (tenantId : String) (task : WorkflowTaskRecord) (e : E) :
    Verdict × E :=
  match task.snapshotId, task.snapshotHash with
  | some snapshotId, some snapshotHash =>
      let restored := http (.restore task.systemId tenantId snapshotId) e
      match SandboxClient.restore snapshotId restored.1 with
      | .error error => (.ofError error, restored.2)
      | .ok () =>
          let read := http (.configuration task.systemId tenantId) restored.2
          match SandboxClient.configuration read.1 with
          | .error error => (.ofError error, read.2)
          | .ok document =>
              (if sha256Digest document = snapshotHash then .restored
                else .failed "RESTORE_HASH_MISMATCH", read.2)
  | _, _ => (.noSnapshot, e)

/-- The verdicts on the tasks, one after the other. -/
def verdicts (http : SandboxHttp E) (tenantId : String) :
    List WorkflowTaskRecord → E → List (WorkflowTaskRecord × Verdict)
  | [], _ => []
  | task :: tasks, e =>
      let decided := verdict http tenantId task e
      (task, decided.1) :: verdicts http tenantId tasks decided.2

/-! ### Which answers escape -/

/-- The answers with which a rollback does not go on, given the accepted bodies that are lost:
besides these, a failure of the transport that the client does not map, and a refusal with a code
that no task can store or a body that is nested too deep. -/
def answerEscapes (lost : Body → Bool) : HttpAnswer → Bool
  | .response statusCode body =>
      if 400 ≤ statusCode then
        decide (Verdict.ofError (responseError statusCode body) = .escaped)
      else lost body
  | .failure .TimeoutException | .failure .NetworkError | .failure .ServiceAuthenticationError =>
      false
  | .failure _ => true

/-- The accepted bodies that `restore` does not map: those that are not read as JSON. -/
def restoreLost : Body → Bool
  | .json _ _ => false
  | .invalid | .tooDeep => true

/-- The accepted bodies that `configuration_hash` does not map: a dictionary without a canonical
text, and what is nested too deep. -/
def configurationLost : Body → Bool
  | .json (.obj _) canonical => !canonical
  | .json _ _ | .invalid => false
  | .tooDeep => true

omit [Sha256] in
theorem ofError_literal {code : String} {transient : Bool}
    (hcode : (nonEmptyStr code).isOk = true) :
    Verdict.ofError (.dependencyCall code transient) ≠ .escaped := by
  rw [Verdict.ofError, if_pos hcode]
  intro h
  cases h

omit [Sha256] in
/-- A failed call, before the body is read. -/
theorem call_escapes {answer : HttpAnswer} {error : RemoteError} {lost : Body → Bool}
    (h : SandboxClient.call answer = .error error) :
    Verdict.ofError error = .escaped ↔ answerEscapes lost answer = true := by
  have hunavailable : Verdict.ofError (.dependencyCall "SANDBOX_UNAVAILABLE" true) ≠ .escaped :=
    ofError_literal (by decide +kernel)
  cases answer with
  | response statusCode body =>
    by_cases hrefused : 400 ≤ statusCode
    · simp only [SandboxClient.call, hrefused, if_true, Except.error.injEq] at h
      subst h
      simp [answerEscapes, hrefused]
    · simp [SandboxClient.call, hrefused] at h
  | failure error =>
    cases error with
    | TimeoutException | NetworkError | ServiceAuthenticationError =>
      cases h
      simp only [hunavailable, answerEscapes, Bool.false_eq_true]
    | _ =>
      cases h
      simp only [Verdict.ofError, answerEscapes]

omit [Sha256] in
theorem call_accepted {answer : HttpAnswer} {body : Body} {lost : Body → Bool}
    (h : SandboxClient.call answer = .ok body) : answerEscapes lost answer = lost body := by
  cases answer with
  | response statusCode body' =>
    by_cases hrefused : 400 ≤ statusCode
    · simp [SandboxClient.call, hrefused] at h
    · simp only [SandboxClient.call, hrefused, if_false, Except.ok.injEq] at h
      subst h
      simp [answerEscapes, hrefused]
  | failure error => cases error <;> cases h

omit [Sha256] in
theorem restore_escapes_iff (snapshotId : String) (answer : HttpAnswer) :
    (∃ error, SandboxClient.restore snapshotId answer = .error error ∧
      Verdict.ofError error = .escaped) ↔ answerEscapes restoreLost answer = true := by
  have hinvalid : Verdict.ofError (.dependencyCall "RESTORE_INVALID_RESPONSE" false) ≠ .escaped :=
    ofError_literal (by decide +kernel)
  have hunconfirmed : Verdict.ofError (.dependencyCall "RESTORE_NOT_CONFIRMED" false) ≠ .escaped :=
    ofError_literal (by decide +kernel)
  unfold SandboxClient.restore
  cases hcall : SandboxClient.call answer with
  | error error =>
    rw [← call_escapes hcall]
    simp [bind, Except.bind]
  | ok body =>
    rw [call_accepted hcall]
    simp only [bind, Except.bind]
    cases body with
    | json document canonical =>
      simp only [restoreLost, Bool.false_eq_true, iff_false]
      rintro ⟨error, herror, hescaped⟩
      split at herror
      · cases herror
        exact hinvalid hescaped
      · split_ifs at herror
        cases herror
        exact hunconfirmed hescaped
    | invalid => simp [restoreLost, Verdict.ofError]
    | tooDeep => simp [restoreLost, Verdict.ofError]

omit [Sha256] in
theorem configuration_escapes_iff (answer : HttpAnswer) :
    (∃ error, SandboxClient.configuration answer = .error error ∧
      Verdict.ofError error = .escaped) ↔ answerEscapes configurationLost answer = true := by
  have hinvalid : Verdict.ofError (.dependencyCall "CONFIGURATION_INVALID_RESPONSE" false) ≠
      .escaped := ofError_literal (by decide +kernel)
  unfold SandboxClient.configuration
  cases hcall : SandboxClient.call answer with
  | error error =>
    rw [← call_escapes hcall]
    simp [bind, Except.bind]
  | ok body =>
    rw [call_accepted hcall]
    simp only [bind, Except.bind]
    cases body with
    | json document canonical =>
      have hlost : Verdict.ofError (.unmapped "ValueError") = .escaped := rfl
      cases document <;> cases canonical <;> simp [configurationLost, hinvalid, hlost]
    | invalid => simp [configurationLost, hinvalid]
    | tooDeep => simp [configurationLost, Verdict.ofError]

/-- **Which verdicts escape**, by the answers to the two requests for the task. -/
theorem verdict_escaped_iff {http : SandboxHttp E} {tenantId snapshotId snapshotHash : String}
    {task : WorkflowTaskRecord} {e : E} (hid : task.snapshotId = some snapshotId)
    (hhash : task.snapshotHash = some snapshotHash) :
    (verdict http tenantId task e).1 = .escaped ↔
      let restored := http (.restore task.systemId tenantId snapshotId) e
      answerEscapes restoreLost restored.1 = true ∨
        (SandboxClient.restore snapshotId restored.1).isOk = true ∧
          answerEscapes configurationLost
            (http (.configuration task.systemId tenantId) restored.2).1 = true := by
  unfold verdict
  rw [hid, hhash]
  dsimp only
  rw [← restore_escapes_iff snapshotId, ← configuration_escapes_iff]
  generalize http (.restore task.systemId tenantId snapshotId) e = restored
  cases SandboxClient.restore snapshotId restored.1 with
  | error error => simp [Except.isOk, Except.toBool]
  | ok u =>
    dsimp only
    generalize http (.configuration task.systemId tenantId) restored.2 = read
    cases SandboxClient.configuration read.1 with
    | error error => simp [Except.isOk, Except.toBool]
    | ok document =>
      dsimp only
      split_ifs <;> simp

/-- The task as its verdict has it settled. -/
structure Settles (task : WorkflowTaskRecord) (decided : Verdict) (task' : WorkflowTaskRecord) :
    Prop where
  stepId : task'.stepId = task.stepId
  status : task'.status = if decided = .restored then .ROLLED_BACK else .ROLLBACK_FAILED

/-! ## One task -/

/-- One action of a rollback. -/
inductive Compensates (w w' : CoordinatorWorld E) : Prop where
  | noted (events : List RemoteEvent) (h : Noted events w w')
      (hcalls : ∀ event ∈ events, event.isCall = false)
  | stored (record : WorkflowExecutionRecord) (h : w' = w.putWorkflow record)
  | committed (change : ChangeRecord) (event : AuditEvent) (h : w' = w.commit change event)
      (hstatus : change.status = .ROLLING_BACK ∨ change.status = .FAILED ∨
        change.status = .NEEDS_ATTENTION)

theorem Compensates.quiet {w w' : CoordinatorWorld E} (h : Quiet w w') : Compensates w w' :=
  .noted [] h.noted (by simp)

variable {rt : LawfulRuntime} {engine : WorkflowEngine E} {http : SandboxHttp E}
  {record : WorkflowExecutionRecord} {scene : Scene E} {s : CoordinatorWorld E}

omit [Sha256] in
/-- A task can be stored as rolled back. -/
theorem exists_rolledBack (task : WorkflowTaskRecord) (updatedAt : Time) :
    ∃ task', TaskFields.modelValidate { task.toTaskFields with
      status := .ROLLED_BACK, errorCode := none, updatedAt := updatedAt } = .ok task' :=
  TaskFields.modelValidate_ok nonEmptyStrOrNone_none task.snapshot_paired
    (fun h => by cases h) (fun h => by rcases h with h | h <;> cases h)

omit [Sha256] in
/-- A task can be stored as one whose rollback failed, with any code that passes the check. -/
theorem exists_rollbackFailed (task : WorkflowTaskRecord) {code : String}
    (hcode : (nonEmptyStr code).isOk = true) (updatedAt : Time) :
    ∃ task', TaskFields.modelValidate { task.toTaskFields with
      status := .ROLLBACK_FAILED, errorCode := some code, updatedAt := updatedAt } = .ok task' := by
  cases hchecked : nonEmptyStr code with
  | error e =>
    rw [hchecked] at hcode
    cases hcode
  | ok checked =>
    exact TaskFields.modelValidate_ok (nonEmptyStrOrNone_ok hchecked) task.snapshot_paired
      (fun h => by cases h) fun _ => rfl

omit [Sha256] in
/-- A code that does not pass the check cannot be stored. -/
theorem not_rollbackFailed (task : WorkflowTaskRecord) {code : String}
    (hcode : (nonEmptyStr code).isOk = false) (updatedAt : Time) :
    ∃ e, TaskFields.modelValidate { task.toTaskFields with
      status := .ROLLBACK_FAILED, errorCode := some code, updatedAt := updatedAt } = .error e := by
  cases hchecked : nonEmptyStr code with
  | ok checked =>
    rw [hchecked] at hcode
    cases hcode
  | error e =>
    exact ⟨e, TaskFields.modelValidate_error (nonEmptyStrOrNone_error hchecked)⟩

/-- Settling a task with a document that validates. -/
theorem alone_settleTask {Q : Except Exn WorkflowTaskRecord → CoordinatorWorld E → Prop}
    {task : WorkflowTaskRecord} {status : WorkflowTaskStatus} {code : Option String}
    (h : Stands True rt record scene s)
    (hvalid : ∀ updatedAt, ∃ task', TaskFields.modelValidate { task.toTaskFields with
      status := status, errorCode := code, updatedAt := updatedAt } = .ok task')
    (hQ : ∀ task' t, task'.stepId = task.stepId → task'.status = status →
      Stands True rt record scene t → Q (.ok task') t) :
    Prog.RG .alone Compensates Q (engine.settleTask task status code) s := by
  refine (Prog.RG.alone_bind _ _ _).mpr (h.alone_now engine.rt .quiet fun t ht _ => ?_)
  obtain ⟨task', hok⟩ := hvalid (engine.rt.clock s.tick)
  refine (Prog.RG.alone_ofExcept _ _).mpr ?_
  rw [hok]
  have hfields := TaskFields.modelValidate_of_ok hok
  exact hQ task' t (by rw [hfields]) (by rw [hfields]) ht

omit [Sha256] in
theorem Verdict.failed_ne_escaped (code : String) : Verdict.failed code ≠ .escaped := by
  intro h
  cases h

omit [Sha256] in
theorem Verdict.failed_ne_restored (code : String) : Verdict.failed code ≠ .restored := by
  intro h
  cases h

omit [Sha256] in
theorem hashMismatch_eq :
    Verdict.failed "RESTORE_HASH_MISMATCH" = .ofError (.dependencyCall "RESTORE_HASH_MISMATCH" false) := by
  decide +kernel

/-- The scene after the compensation of a task. -/
def Scene.compensated (scene : Scene E) (http : SandboxHttp E) (record : WorkflowExecutionRecord)
    (task : WorkflowTaskRecord) : Scene E :=
  { scene with
    remote := (verdict http record.tenantId task scene.remote).2
    log := scene.log ++ restoreNotes record.key task }

/-- Restoring a task's snapshot: the task is rolled back, or what failed is raised. -/
theorem alone_restoreTask {Q : Except Exn WorkflowTaskRecord → CoordinatorWorld E → Prop}
    {task : WorkflowTaskRecord} {snapshotId snapshotHash : String}
    (h : Stands True rt record scene s) (hrt : engine.rt = rt.toRuntime)
    (huses : engine.services.UsesSandboxClient http) (hchange : scene.change ≠ none)
    (hid : task.snapshotId = some snapshotId) (hhash : task.snapshotHash = some snapshotHash)
    (hok : ∀ task' t, (verdict http record.tenantId task scene.remote).1 = .restored →
      Settles task .restored task' →
      Stands True rt record (scene.compensated http record task) t → Q (.ok task') t)
    (herr : ∀ error t, (verdict http record.tenantId task scene.remote).1 = .ofError error →
      Stands True rt record (scene.compensated http record task) t → Q (.error error.toExn) t) :
    Prog.RG .alone Compensates Q (engine.restoreTask record task snapshotId snapshotHash) s := by
  have hnotes : restoreNotes record.key task = [.restoreCalled record.key task.stepId] := by
    rw [restoreNotes, hid]
    rfl
  unfold restoreTask
  refine (Prog.RG.alone_bind _ _ _).mpr (h.alone_requestId .quiet fun restoreId t ht => ?_)
  refine (Prog.RG.alone_bind _ _ _).mpr (ht.alone_exchange ?_ fun t₁ ht₁ => ?_)
  · exact fun hnoted _ => .noted _ hnoted (by simp [RemoteEvent.isCall])
  rw [huses.restore] at ht₁ ⊢
  unfold Scene.compensated verdict at hok herr
  rw [hid, hhash] at hok herr
  dsimp only at hok herr ht₁ ⊢
  generalize http (.restore task.systemId record.tenantId snapshotId) scene.remote = restored
    at hok herr ht₁ ⊢
  cases hrestored : SandboxClient.restore snapshotId restored.1 with
  | error error =>
    rw [hrestored] at herr
    rw [← hnotes] at ht₁
    exact herr error t₁ rfl ht₁
  | ok u =>
    rw [hrestored] at hok herr
    dsimp only at hok herr
    refine (Prog.RG.alone_bind _ _ _).mpr (ht₁.alone_requestId .quiet fun configurationId t ht => ?_)
    refine (Prog.RG.alone_bind _ _ _).mpr (ht.alone_exchange ?_ fun t₂ ht₂ => ?_)
    · exact fun hnoted _ => .noted _ hnoted (by simp)
    rw [huses.configuration] at ht₂ ⊢
    dsimp only at ht₂ ⊢
    rw [List.append_nil, ← hnotes] at ht₂
    generalize http (.configuration task.systemId record.tenantId) restored.2 = read
      at hok herr ht₂ ⊢
    cases hread : SandboxClient.configuration read.1 with
    | error error =>
      rw [hread] at herr
      exact herr error t₂ rfl ht₂
    | ok document =>
      rw [hread] at hok herr
      dsimp only [Except.mapError] at hok herr ⊢
      split_ifs with hmismatch
      · -- the configuration is not the one that was captured
        rw [if_neg hmismatch] at herr
        exact (Prog.RG.alone_raise _ _).mpr (herr _ t₂ hashMismatch_eq ht₂)
      · rw [not_not] at hmismatch
        rw [if_pos hmismatch] at hok
        refine (Prog.RG.alone_bind _ _ _).mpr
          (alone_settleTask ht₂ (exists_rolledBack task) fun task' t hstep hstatus ht => ?_)
        refine (Prog.RG.alone_bind _ _ _).mpr (ht.alone_recordAudit (fun _ => hrt) (fun _ => hchange)
          .quiet (fun t ht => ?_) fun hH => absurd trivial hH)
        exact (Prog.RG.alone_ret _ _).mpr (hok task' t rfl ⟨hstep, hstatus⟩ ht)

/-- **One round of the compensation loop**: the task is settled as its verdict says, or the
exception of the verdict escapes. -/
theorem alone_rollbackTask {Q : Except Exn (Dict String WorkflowTaskRecord × Bool) →
      CoordinatorWorld E → Prop}
    {state : Dict String WorkflowTaskRecord × Bool} {task : WorkflowTaskRecord}
    (h : Stands True rt record scene s) (hrt : engine.rt = rt.toRuntime)
    (huses : engine.services.UsesSandboxClient http) (hchange : scene.change ≠ none)
    (hok : ∀ task' t, (verdict http record.tenantId task scene.remote).1 ≠ .escaped →
      Settles task (verdict http record.tenantId task scene.remote).1 task' →
      Stands True rt record (scene.compensated http record task) t →
      Q (.ok (state.1.set task.stepId task',
        state.2 || decide ((verdict http record.tenantId task scene.remote).1 ≠ .restored))) t)
    (hescaped : (verdict http record.tenantId task scene.remote).1 = .escaped →
      ∀ e t, Q (.error e) t) :
    Prog.RG .alone Compensates Q (engine.rollbackTask record state task) s := by
  unfold rollbackTask
  split
  · next snapshotId snapshotHash hid hhash =>
    refine (Prog.RG.alone_tryCatch _ _ _).mpr ((Prog.RG.alone_bind _ _ _).mpr ?_)
    refine alone_restoreTask h hrt huses hchange hid hhash (fun task' t hrestored hsettles ht => ?_)
      fun error t herror ht => ?_
    · refine (Prog.RG.alone_ret _ _).mpr ?_
      rw [hrestored] at hok
      have hkept := hok task' t (by decide) hsettles ht
      rw [show (state.2 || decide (Verdict.restored ≠ .restored)) = state.2 by simp] at hkept
      exact hkept
    · rw [herror] at hok hescaped
      cases error with
      | unmapped text => exact (Prog.RG.alone_raise _ _).mpr (hescaped rfl _ t)
      | dependencyCall code transient =>
        cases hcode : (nonEmptyStr code).isOk with
        | true =>
          have hfailed : Verdict.ofError (.dependencyCall code transient) = .failed code := by
            rw [Verdict.ofError, hcode]
            rfl
          rw [hfailed] at hok
          refine (Prog.RG.alone_bind _ _ _).mpr (alone_settleTask ht
            (exists_rollbackFailed task hcode) fun task' t hstep hstatus ht => ?_)
          refine (Prog.RG.alone_bind _ _ _).mpr (ht.alone_recordAudit (fun _ => hrt)
            (fun _ => hchange) .quiet (fun t ht => ?_) fun hH => absurd trivial hH)
          refine (Prog.RG.alone_ret _ _).mpr ?_
          have hkept := hok task' t (Verdict.failed_ne_escaped code) ⟨hstep, hstatus⟩ ht
          rw [decide_eq_true (Verdict.failed_ne_restored code), Bool.or_true] at hkept
          exact hkept
        | false =>
          have hfatal : Verdict.ofError (.dependencyCall code transient) = .escaped := by
            rw [Verdict.ofError, hcode]
            rfl
          refine (Prog.RG.alone_bind _ _ _).mpr ((Prog.RG.alone_bind _ _ _).mpr ?_)
          refine ht.alone_now engine.rt .quiet fun t' _ _ => ?_
          obtain ⟨e, he⟩ := not_rollbackFailed task hcode (engine.rt.clock t.tick)
          refine (Prog.RG.alone_ofExcept _ _).mpr ?_
          rw [he]
          exact hescaped hfatal e t'
  · next hmissing =>
    have hverdict : verdict http record.tenantId task scene.remote = (.noSnapshot, scene.remote) := by
      unfold verdict
      split
      · next snapshotId snapshotHash hid hhash => exact absurd hhash (hmissing _ _ hid)
      · rfl
    have hnone : task.snapshotId = none := by
      cases hid : task.snapshotId with
      | none => rfl
      | some snapshotId =>
        obtain ⟨snapshotHash, hhash⟩ := Option.isSome_iff_exists.mp
          (task.snapshot_paired ▸ hid ▸ rfl : task.snapshotHash.isSome = true)
        exact (hmissing _ _ hid hhash).elim
    have hscene : scene.compensated http record task = scene := by
      rw [Scene.compensated, hverdict, restoreNotes, hnone]
      simp
    rw [hverdict, hscene] at hok
    refine (Prog.RG.alone_bind _ _ _).mpr (alone_settleTask h
      (exists_rollbackFailed task (by decide +kernel)) fun task' t hstep hstatus ht => ?_)
    refine (Prog.RG.alone_ret _ _).mpr ?_
    dsimp only at hok
    have hkept := hok task' t (by decide) ⟨hstep, hstatus⟩ ht
    rw [decide_eq_true (by decide), Bool.or_true] at hkept
    exact hkept

/-! ## The loop -/

/-- What the loop leaves in its dictionary. -/
structure SettlesAll (decided : List (WorkflowTaskRecord × Verdict))
    (d d' : Dict String WorkflowTaskRecord) : Prop where
  settled : ∀ v ∈ decided, ∃ task', d'.get? v.1.stepId = some task' ∧ Settles v.1 v.2 task'
  others : ∀ id, id ∉ decided.map (·.1.stepId) → d'.get? id = d.get? id

theorem map_verdicts (http : SandboxHttp E) (tenantId : String) (tasks : List WorkflowTaskRecord)
    (e : E) : (verdicts http tenantId tasks e).map Prod.fst = tasks := by
  induction tasks generalizing e with
  | nil => rfl
  | cons task tasks ih => rw [verdicts, List.map_cons, ih]

theorem stepIds_verdicts (http : SandboxHttp E) (tenantId : String)
    (tasks : List WorkflowTaskRecord) (e : E) :
    (verdicts http tenantId tasks e).map (·.1.stepId) = tasks.map (·.stepId) := by
  have hmap := congrArg (List.map (·.stepId)) (map_verdicts http tenantId tasks e)
  rw [List.map_map] at hmap
  exact hmap

omit [Sha256] in
theorem SettlesAll.cons {task task' : WorkflowTaskRecord} {v : Verdict}
    {decided : List (WorkflowTaskRecord × Verdict)} {d d' : Dict String WorkflowTaskRecord}
    (hsettles : Settles task v task') (hnotMem : task.stepId ∉ decided.map (·.1.stepId))
    (h : SettlesAll decided (d.set task.stepId task') d') :
    SettlesAll ((task, v) :: decided) d d' := by
  refine ⟨fun w hmem => ?_, fun id hid => ?_⟩
  · rcases List.mem_cons.mp hmem with rfl | hrest
    · refine ⟨task', ?_, hsettles⟩
      rw [h.others _ hnotMem, Dict.get?_set_self]
    · exact h.settled w hrest
  · rw [List.map_cons, List.mem_cons, not_or] at hid
    rw [h.others id hid.2, Dict.get?_set_ne _ _ hid.1]

/-- **The compensation loop.** It ends, with every task settled as its verdict says, unless a
verdict escapes. The induction is on the tasks that are left. -/
theorem alone_rollbackTasks {Q : Except Exn (Dict String WorkflowTaskRecord × Bool) →
      CoordinatorWorld E → Prop}
    {state : Dict String WorkflowTaskRecord × Bool} {order : List WorkflowTaskRecord}
    (h : Stands True rt record scene s) (hrt : engine.rt = rt.toRuntime)
    (huses : engine.services.UsesSandboxClient http) (hchange : scene.change ≠ none)
    (hnodup : (order.map (·.stepId)).Nodup)
    (hok : ∀ state' t,
      (∀ v ∈ verdicts http record.tenantId order scene.remote, v.2 ≠ .escaped) →
      SettlesAll (verdicts http record.tenantId order scene.remote) state.1 state'.1 →
      state'.2 = (state.2 || (verdicts http record.tenantId order scene.remote).any
        fun v => decide (v.2 ≠ .restored)) →
      Stands True rt record (order.foldl (fun scene task => scene.compensated http record task) scene)
        t → Q (.ok state') t)
    (hescaped : (∃ v ∈ verdicts http record.tenantId order scene.remote, v.2 = .escaped) →
      ∀ e t, Q (.error e) t) :
    Prog.RG .alone Compensates Q (Prog.foldlP (engine.rollbackTask record) state order) s := by
  induction order generalizing state scene s with
  | nil =>
    refine (Prog.RG.alone_ret _ _).mpr (hok state s (by simp [verdicts]) ⟨by simp [verdicts], ?_⟩ ?_ h)
    · exact fun id _ => rfl
    · simp [verdicts]
  | cons task order ih =>
    rw [List.map_cons, List.nodup_cons] at hnodup
    refine (Prog.RG.alone_bind _ _ _).mpr ?_
    refine alone_rollbackTask h hrt huses hchange (fun task' t hne hsettles ht => ?_)
      fun hfatal e t => hescaped ⟨_, List.mem_cons_self, hfatal⟩ e t
    refine ih ht hchange hnodup.2 (fun state' t' hnone hsettled hflag ht' => ?_) fun hlater => ?_
    · refine hok state' t' ?_ (SettlesAll.cons hsettles ?_ hsettled) ?_ ht'
      · intro v hmem
        rcases List.mem_cons.mp hmem with rfl | hrest
        · exact hne
        · exact hnone v hrest
      · rw [stepIds_verdicts]
        exact hnodup.1
      · rw [hflag, verdicts, List.any_cons, Bool.or_assoc]
        rfl
    · obtain ⟨v, hmem, hfatal⟩ := hlater
      exact hescaped ⟨v, List.mem_cons_of_mem _ hmem, hfatal⟩

/-! ## The whole rollback -/

/-- A world in which `_rollback` is called: the stores are healthy, the record is stored and not
terminal, its change is being executed, verified or rolled back, and each step has one task. -/
structure Compensating (rt : LawfulRuntime) (record : WorkflowExecutionRecord)
    (w : CoordinatorWorld E) : Prop where
  healthy : Healthy rt w
  stored : w.workflow? record.key = some record
  active : record.status.isTerminal = false
  change : ∃ change, w.changes.stored? (record.tenantId, record.changeId) = some change ∧
    (change.status = .EXECUTING ∨ change.status = .VERIFYING ∨ change.status = .ROLLING_BACK)
  distinct : record.stepIds.Nodup

/-- How a rollback ends that nothing has escaped from. -/
structure RolledBack (order : List WorkflowTaskRecord)
    (decided : List (WorkflowTaskRecord × Verdict)) (w w' : CoordinatorWorld E)
    (record final : WorkflowExecutionRecord) : Prop where
  /-- The record is stored, and each task is settled as its verdict says. -/
  stored : w'.workflow? record.key = some final
  tasks : ∀ v ∈ decided, ∃ task' ∈ final.tasks, Settles v.1 v.2 task'
  /-- A restore was requested for each task with a snapshot, one after the other. -/
  attempted : w'.rest.log = w.rest.log ++ order.flatMap (restoreNotes record.key)
  /-- The record and its change end alike: as `FAILED` if all is restored. -/
  status : final.status =
    if ∀ v ∈ decided, v.2 = .restored then .FAILED else .NEEDS_ATTENTION
  change : ∃ change, w'.changes.stored? (record.tenantId, record.changeId) = some change ∧
    change.status = if ∀ v ∈ decided, v.2 = .restored then .FAILED else .NEEDS_ATTENTION

/-- What the loop changes of the scene: the sandboxes, and the notes of its requests. -/
theorem foldl_compensated (http : SandboxHttp E) (record : WorkflowExecutionRecord)
    (order : List WorkflowTaskRecord) (scene : Scene E) :
    ∃ remote, order.foldl (fun scene task => scene.compensated http record task) scene =
      { scene with
        remote := remote
        log := scene.log ++ order.flatMap (restoreNotes record.key) } := by
  induction order generalizing scene with
  | nil => exact ⟨scene.remote, by simp⟩
  | cons task order ih =>
    obtain ⟨remote, heq⟩ := ih (scene.compensated http record task)
    refine ⟨remote, ?_⟩
    rw [List.foldl_cons, heq, List.flatMap_cons, ← List.append_assoc]
    rfl

/-- The tasks that are merged back are those that the loop has settled. -/
theorem merged_of_settlesAll {tasks order : List WorkflowTaskRecord}
    {d d' : Dict String WorkflowTaskRecord} {e : E} {tenantId : String}
    (hperm : ∀ task, task ∈ order ↔ task ∈ tasks)
    (h : SettlesAll (verdicts http tenantId order e) d d') :
    (mergeTasks tasks d').map (·.stepId) = tasks.map (·.stepId) ∧
      ∀ v ∈ verdicts http tenantId order e, ∃ task' ∈ mergeTasks tasks d', Settles v.1 v.2 task' := by
  constructor
  · rw [mergeTasks, List.map_map]
    refine List.map_congr_left fun task hmem => ?_
    rw [← hperm, ← map_verdicts http tenantId order e] at hmem
    obtain ⟨v, hv, rfl⟩ := List.mem_map.mp hmem
    obtain ⟨task', hget, hsettles⟩ := h.settled v hv
    show (d'.getD v.1.stepId v.1).stepId = v.1.stepId
    rw [Dict.getD, hget]
    exact hsettles.stepId
  · intro v hv
    obtain ⟨task', hget, hsettles⟩ := h.settled v hv
    have hmem : v.1 ∈ tasks := by
      rw [← hperm, ← map_verdicts http tenantId order e]
      exact List.mem_map.mpr ⟨v, hv, rfl⟩
    refine ⟨task', List.mem_map.mpr ⟨v.1, hmem, ?_⟩, hsettles⟩
    rw [Dict.getD, hget]
    rfl

/-- A status with a code that does not pass the check is not stored. -/
theorem raises_setRuntimeStatus (engine : WorkflowEngine E) (record : WorkflowExecutionRecord)
    (status : WorkflowRuntimeStatus) {code : String} {e : Exn}
    (hcode : nonEmptyStr code = .error e) (t : CoordinatorWorld E) :
    Prog.RG .alone Compensates (fun r _ => ∃ e, r = .error e)
      (engine.setRuntimeStatus record status (some code)) t := by
  have hnone := nonEmptyStrOrNone_error hcode
  have hne : record.lastErrorCode ≠ some code := by
    intro heq
    have hchecked := record.error_code_checked
    rw [heq, hnone] at hchecked
    cases hchecked
  unfold setRuntimeStatus
  rw [if_neg fun hsame => hne hsame.2]
  unfold updateRecord
  refine (Prog.RG.alone_bind _ _ _).mpr ?_
  rw [now, Prog.RG.alone_atomic]
  refine ⟨.quiet ⟨rfl, rfl⟩, ?_⟩
  refine (Prog.RG.alone_bind _ _ _).mpr ((Prog.RG.alone_ofExcept _ _).mpr ?_)
  rw [WorkflowFields.modelValidate_error (e := e) hnone]
  exact ⟨e, rfl⟩

/-- The first part of `_rollback`: the change and the record are rolling back. -/
theorem alone_startRollback {α : Type} {Q : Except Exn α → CoordinatorWorld E → Prop}
    {originalError : String} {next : WorkflowExecutionRecord → WorkflowEngine.Run E α}
    {change : ChangeRecord} (h : Stands True rt record scene s) (hrt : engine.rt = rt.toRuntime)
    (hchange : scene.change = some change)
    (hstatus : change.status = .EXECUTING ∨ change.status = .VERIFYING ∨
      change.status = .ROLLING_BACK)
    (hactive : record.status.isTerminal = false)
    (hnext : ∀ record' change' t, (nonEmptyStr originalError).isOk = true →
      Restated record .ROLLING_BACK (some originalError) record' → change'.status = .ROLLING_BACK →
      Stands True rt record' { scene with change := some change' } t →
      Prog.RG .alone Compensates Q (next record') t)
    (hcode : (nonEmptyStr originalError).isOk = false → ∀ e t, Q (.error e) t) :
    Prog.RG .alone Compensates Q (do
      let change ← getChange record.tenantId record.changeId
      let _ ← engine.transitionFrom [.EXECUTING, .VERIFYING] record change .ROLLING_BACK {}
      let record ← engine.setRuntimeStatus record .ROLLING_BACK (some originalError)
      next record) s := by
  have hset : ∀ change' t, change'.status = .ROLLING_BACK →
      Stands True rt record { scene with change := some change' } t →
      Prog.RG .alone Compensates Q (do
        let record ← engine.setRuntimeStatus record .ROLLING_BACK (some originalError)
        next record) t := by
    intro change' t hrolling ht
    refine (Prog.RG.alone_bind _ _ _).mpr ?_
    cases hok : nonEmptyStr originalError with
    | ok checked =>
      refine ht.alone_setRuntimeStatus (fun _ => hrt) (fun _ => ⟨_, nonEmptyStrOrNone_ok hok⟩)
        (fun _ => ?_) .quiet (fun record' t _ _ => .stored record' rfl) ?_ fun hH => absurd trivial hH
      · rw [← record.terminal_iff, hactive]
        rfl
      · exact fun record' t hrestated ht =>
          hnext record' change' t (by rw [hok]; rfl) hrestated hrolling ht
    | error e =>
      -- the code does not pass the check, so the record is not rewritten
      have hraises := raises_setRuntimeStatus engine record .ROLLING_BACK hok t
      refine hraises.mono fun r t' hr => ?_
      obtain ⟨e', rfl⟩ := hr
      exact hcode (by rw [hok]; rfl) e' t'
  refine (Prog.RG.alone_bind _ _ _).mpr (h.alone_getChange hchange .quiet ?_)
  refine (Prog.RG.alone_bind _ _ _).mpr (h.alone_transitionFrom (fun _ => hrt) (fun _ => rfl) hchange
    (by decide) .quiet ?_ ?_ ?_ fun hH => absurd trivial hH)
  · exact fun _ updated event t hmoved _ => .committed updated event rfl (Or.inl hmoved.status)
  · exact fun _ updated t hmoved ht => hset updated t hmoved.status ht
  · intro hsources
    have hrolling : change.status = .ROLLING_BACK := by
      simp only [List.mem_cons, List.not_mem_nil, or_false] at hsources
      tauto
    refine hset change s hrolling ?_
    rw [← hchange]
    exact h

/-- The last part of `_rollback`: the settled tasks are stored, and the change and the record
end alike. -/
theorem alone_endRollback {Q : Except Exn WorkflowExecutionRecord → CoordinatorWorld E → Prop}
    {originalError : String} {tasks : List WorkflowTaskRecord} {failed : Bool}
    {change : ChangeRecord} (h : Stands True rt record scene s) (hrt : engine.rt = rt.toRuntime)
    (hchange : scene.change = some change) (hstatus : change.status = .ROLLING_BACK)
    (hrecord : record.status = .ROLLING_BACK)
    (hcode : (nonEmptyStr originalError).isOk = true)
    (hsteps : tasks.map (·.stepId) = record.stepIds)
    (hQ : ∀ final change' t, final.key = record.key → final.tasks = tasks →
      final.status = (if failed then .NEEDS_ATTENTION else .FAILED) →
      change'.status = (if failed then .NEEDS_ATTENTION else .FAILED) →
      Stands True rt final { scene with change := some change' } t → Q (.ok final) t) :
    Prog.RG .alone Compensates Q (do
      let record ← engine.updateRecord record fun fields => { fields with tasks := tasks }
      let _ ← engine.transition record (if failed then .NEEDS_ATTENTION else .FAILED) {}
      engine.terminal record (if failed then .NEEDS_ATTENTION else .FAILED) (some originalError)) s := by
  refine (Prog.RG.alone_bind _ _ _).mpr ?_
  refine h.alone_updateRecord (fun _ => hrt) rfl (fun _ updatedAt hupdated => ?_) .quiet
    (fun updated t _ _ => .stored updated rfl) (fun updated t hupdated ht => ?_)
    fun hH => absurd trivial hH
  · -- the tasks are still those of the plan's steps
    refine WorkflowFields.modelValidate_ok record.error_code_checked record.event_scope hupdated
      record.plan_paired ?_ record.terminal_iff
    have hmatches := record.plan_matches
    show PlanMatches (revise record (fun fields => { fields with tasks := tasks }) updatedAt)
      record.plan
    cases hplan : record.plan with
    | none =>
      rw [hplan] at hmatches
      have hnil : tasks.map (·.stepId) = [] := by
        rw [hsteps, WorkflowFields.stepIds, show record.tasks = [] from hmatches]
        rfl
      exact List.map_eq_nil_iff.mp hnil
    | some plan =>
      rw [hplan] at hmatches
      obtain ⟨htenant, hchangeId, hhash, hsub, hsup⟩ := hmatches
      rw [← hsteps] at hsub hsup
      exact ⟨htenant, hchangeId, hhash, hsub, hsup⟩
  · obtain ⟨updatedAt, hfields⟩ := hupdated.fields
    have hkey : updated.key = record.key := hupdated.key
    have hrolling : updated.status = .ROLLING_BACK := by
      rw [hfields]
      exact hrecord
    have htasks : updated.tasks = tasks := by rw [hfields]
    refine (Prog.RG.alone_bind _ _ _).mpr ?_
    refine ht.alone_transition (fun _ => hrt) (fun _ => rfl) hchange .quiet ?_ ?_ ?_
      fun hH => absurd trivial hH
    · intro updated' event t hmoved _
      refine .committed updated' event rfl ?_
      rw [hmoved.status]
      cases failed <;> decide
    · intro _ change' t hmoved ht
      refine ht.alone_terminal (fun _ => hrt) (fun _ => ?_) ?_ ?_ .quiet
        (fun final t _ _ => .stored final rfl) (fun final t hrestated ht => ?_)
        fun hH => absurd trivial hH
      · cases hchecked : nonEmptyStr originalError with
        | ok checked => exact ⟨_, nonEmptyStrOrNone_ok hchecked⟩
        | error e =>
          rw [hchecked] at hcode
          cases hcode
      · cases failed <;> rfl
      · rw [hrolling]
        cases failed <;> decide
      · have hmovedStatus := hmoved.status
        refine hQ final change' t (hrestated.key.trans hkey) (hrestated.tasks.trans htasks) ?_ ?_ ht
        · rw [hrestated.status]
        · rw [hmovedStatus]
    · intro _ hedge
      rw [hstatus] at hedge
      cases failed <;> cases hedge

omit [Sha256] in
theorem any_not_restored {decided : List (WorkflowTaskRecord × Verdict)} {α : Type} (a b : α) :
    (if decided.any fun v => decide (v.2 ≠ .restored) then a else b) =
      if ∀ v ∈ decided, v.2 = .restored then b else a := by
  by_cases hall : ∀ v ∈ decided, v.2 = .restored
  · rw [if_pos hall, if_neg]
    simpa using hall
  · rw [if_neg hall, if_pos]
    simpa using hall

/-- **`_rollback`, when nobody disturbs it.** -/
theorem alone_rollback {Q : Except Exn WorkflowExecutionRecord → CoordinatorWorld E → Prop}
    {originalError : String} {plan : RemediationPlan} {change : ChangeRecord}
    (h : Stands True rt record scene s) (hrt : engine.rt = rt.toRuntime)
    (huses : engine.services.UsesSandboxClient http) (hchange : scene.change = some change)
    (hstatus : change.status = .EXECUTING ∨ change.status = .VERIFYING ∨
      change.status = .ROLLING_BACK)
    (hactive : record.status.isTerminal = false) (hdistinct : record.stepIds.Nodup)
    (hplan : record.plan = some plan)
    (hok : ∀ final change' remote t, (nonEmptyStr originalError).isOk = true →
      (∀ v ∈ verdicts http record.tenantId (rollbackOrder plan record.tasks) scene.remote,
        v.2 ≠ .escaped) →
      final.key = record.key →
      (∀ v ∈ verdicts http record.tenantId (rollbackOrder plan record.tasks) scene.remote,
        ∃ task' ∈ final.tasks, Settles v.1 v.2 task') →
      final.status = (if ∀ v ∈ verdicts http record.tenantId (rollbackOrder plan record.tasks)
        scene.remote, v.2 = .restored then .FAILED else .NEEDS_ATTENTION) →
      change'.status = (if ∀ v ∈ verdicts http record.tenantId (rollbackOrder plan record.tasks)
        scene.remote, v.2 = .restored then .FAILED else .NEEDS_ATTENTION) →
      Stands True rt final { scene with
        change := some change'
        remote := remote
        log := scene.log ++ (rollbackOrder plan record.tasks).flatMap (restoreNotes record.key) }
        t → Q (.ok final) t)
    (hcode : (nonEmptyStr originalError).isOk = false → ∀ e t, Q (.error e) t)
    (hescaped : (∃ v ∈ verdicts http record.tenantId (rollbackOrder plan record.tasks)
      scene.remote, v.2 = .escaped) → ∀ e t, Q (.error e) t) :
    Prog.RG .alone Compensates Q (engine.rollback record originalError) s := by
  unfold rollback
  refine alone_startRollback h hrt hchange hstatus hactive (fun record' change' t hchecked hrestated
    hrolling ht => ?_) hcode
  have htenant : record'.tenantId = record.tenantId := congrArg Prod.fst hrestated.key
  unfold requirePlan
  rw [hrestated.plan, hplan]
  refine (Prog.RG.alone_bind _ _ _).mpr ((Prog.RG.alone_ret _ _).mpr ?_)
  refine (Prog.RG.alone_bind _ _ _).mpr ?_
  have hnodup : ((rollbackOrder plan record'.tasks).map (·.stepId)).Nodup := by
    have hperm := (List.perm_insertionSort
      (fun a b : WorkflowTaskRecord => stepOrder plan b.stepId ≤ stepOrder plan a.stepId)
      record'.tasks).map (·.stepId)
    rw [hrestated.tasks] at hperm ⊢
    exact hperm.nodup_iff.mpr hdistinct
  refine alone_rollbackTasks ht hrt huses (Option.some_ne_none _) hnodup
    (fun state' t hnone hsettled hflag ht => ?_) fun hlater => ?_
  · rw [htenant, hrestated.tasks] at hnone hsettled hflag
    obtain ⟨remote, hscene⟩ := foldl_compensated http record' (rollbackOrder plan record'.tasks)
      { scene with change := some change' }
    rw [hscene, hrestated.tasks, hrestated.key] at ht
    obtain ⟨hsteps, htasks⟩ := merged_of_settlesAll (fun task => mem_rollbackOrder) hsettled
    refine alone_endRollback ht hrt rfl hrolling hrestated.status hchecked ?_
      fun final change'' t hkey hfinal hstatus hchangeStatus ht => ?_
    · rw [hrestated.tasks, hsteps, WorkflowFields.stepIds, hrestated.tasks]
    · rw [hflag, Bool.false_or, any_not_restored] at hstatus hchangeStatus
      refine hok final change'' remote t hchecked hnone (hkey.trans hrestated.key) ?_ hstatus
        hchangeStatus ht
      rw [hfinal, hrestated.tasks]
      exact htasks
  · rw [htenant, hrestated.tasks] at hlater
    exact hescaped hlater

/-- What a rollback sees when it is called. -/
theorem Compensating.stands {w : CoordinatorWorld E} {change : ChangeRecord}
    (hw : Compensating rt record w)
    (hchange : w.changes.stored? (record.tenantId, record.changeId) = some change) :
    Stands True rt record
      ⟨some change, w.rest.remote, w.rest.log, w.rest.workflows.deadLetters⟩ w :=
  ⟨fun _ => hw.healthy, hw.stored, hchange, rfl, rfl, rfl⟩

/-- Nothing has escaped: the rollback ends as the verdicts say. -/
theorem rollback_settles {originalError : String} {plan : RemediationPlan}
    {w w' : CoordinatorWorld E} {outcome : Except Exn WorkflowExecutionRecord}
    (hrt : engine.rt = rt.toRuntime) (huses : engine.services.UsesSandboxClient http)
    (hw : Compensating rt record w) (hplan : record.plan = some plan)
    (hcode : (nonEmptyStr originalError).isOk = true)
    (hnone : ∀ v ∈ verdicts http record.tenantId (rollbackOrder plan record.tasks) w.rest.remote,
      v.2 ≠ .escaped)
    (hrun : Prog.Runs (engine.rollback record originalError) w outcome w') :
    ∃ final, outcome = .ok final ∧ RolledBack (rollbackOrder plan record.tasks)
      (verdicts http record.tenantId (rollbackOrder plan record.tasks) w.rest.remote)
      w w' record final := by
  obtain ⟨change, hchange, hstatus⟩ := hw.change
  refine (alone_rollback (hw.stands hchange) hrt huses rfl hstatus hw.active hw.distinct hplan
    (Q := fun outcome w' => ∃ final, outcome = .ok final ∧ RolledBack _ _ w w' record final)
    ?_ ?_ ?_).of_runs hrun
  · intro final change' remote t _ _ hkey htasks hfinal hchange' ht
    have hstored := ht.workflow
    have hchangeKey : (final.tenantId, final.changeId) = (record.tenantId, record.changeId) := by
      obtain ⟨htenant, hrest⟩ := Prod.mk.inj hkey
      rw [htenant, (Prod.mk.inj hrest).1]
    rw [hkey] at hstored
    refine ⟨final, rfl, hstored, htasks, ht.log, hfinal, change', ?_, hchange'⟩
    rw [← hchangeKey]
    exact ht.change
  · intro hbad
    rw [hcode] at hbad
    cases hbad
  · rintro ⟨v, hmem, hescaped⟩
    exact absurd hescaped (hnone v hmem)

/-- Something escapes: the rollback raises. -/
theorem rollback_raises (http : SandboxHttp E) {originalError : String} {plan : RemediationPlan}
    {w w' : CoordinatorWorld E} {outcome : Except Exn WorkflowExecutionRecord}
    (hrt : engine.rt = rt.toRuntime) (huses : engine.services.UsesSandboxClient http)
    (hw : Compensating rt record w) (hplan : record.plan = some plan)
    (hfatal : (nonEmptyStr originalError).isOk = false ∨
      ∃ v ∈ verdicts http record.tenantId (rollbackOrder plan record.tasks) w.rest.remote,
        v.2 = .escaped)
    (hrun : Prog.Runs (engine.rollback record originalError) w outcome w') :
    ∃ e, outcome = .error e := by
  obtain ⟨change, hchange, hstatus⟩ := hw.change
  refine (alone_rollback (hw.stands hchange) hrt huses rfl hstatus hw.active hw.distinct hplan
    (Q := fun outcome _ => ∃ e, outcome = .error e) ?_ ?_ ?_).of_runs hrun
  · intro final change' remote t hcode hnone _ _ _ _ _
    rcases hfatal with hbad | ⟨v, hmem, hescaped⟩
    · rw [hcode] at hbad
      cases hbad
    · exact absurd hescaped (hnone v hmem)
  · exact fun _ e _ => ⟨e, rfl⟩
  · exact fun _ e _ => ⟨e, rfl⟩

/-- **Rollback.** Every run of `_rollback` attempts each restore and ends as the verdicts say, if
and only if the original error is one that a record can store and no verdict escapes. -/
theorem rollback_compensates_iff (rt : LawfulRuntime) (engine : WorkflowEngine E)
    (http : SandboxHttp E) (record : WorkflowExecutionRecord) (plan : RemediationPlan)
    (originalError : String) (w : CoordinatorWorld E) (hrt : engine.rt = rt.toRuntime)
    (huses : engine.services.UsesSandboxClient http) (hw : Compensating rt record w)
    (hplan : record.plan = some plan) :
    (∀ outcome w', Prog.Runs (engine.rollback record originalError) w outcome w' →
      ∃ final, outcome = .ok final ∧ RolledBack (rollbackOrder plan record.tasks)
        (verdicts http record.tenantId (rollbackOrder plan record.tasks) w.rest.remote)
        w w' record final) ↔
      (nonEmptyStr originalError).isOk = true ∧
        ∀ v ∈ verdicts http record.tenantId (rollbackOrder plan record.tasks) w.rest.remote,
          v.2 ≠ .escaped := by
  constructor
  · intro hall
    obtain ⟨outcome, w', hrun⟩ := Prog.exists_runs (engine.rollback record originalError) w
    obtain ⟨final, rfl, -⟩ := hall outcome w' hrun
    by_contra hcond
    have hfatal : (nonEmptyStr originalError).isOk = false ∨
        ∃ v ∈ verdicts http record.tenantId (rollbackOrder plan record.tasks) w.rest.remote,
          v.2 = .escaped := by
      by_contra hnone
      push Not at hnone
      exact hcond ⟨by simpa using hnone.1, hnone.2⟩
    obtain ⟨e, he⟩ := rollback_raises http hrt huses hw hplan hfatal hrun
    cases he
  · rintro ⟨hcode, hnone⟩ outcome w' hrun
    exact rollback_settles hrt huses hw hplan hcode hnone hrun

end Rollback

namespace Demo

/-- The task of the plan, captured before its only attempt failed for good. -/
def failedTask : WorkflowTaskRecord where
  stepId := "step_crm"
  systemId := .crm
  status := .FAILED
  attemptCount := 1
  snapshotId := some "snap_001"
  snapshotHash := some (sha256Digest (.obj []))
  errorCode := some "APPROVAL_EXPIRED"
  updatedAt := 0
  error_code_checked := by decide +kernel
  snapshot_paired := rfl
  evidence := fun h => by cases h
  failure_code _ := rfl

theorem executing_unfinished :
    WorkflowRuntimeStatus.EXECUTING.isTerminal = (none : Option Time).isSome :=
  rfl

/-- The workflow when the coordinator has stopped after the failed wave. -/
def stoppedRecord : WorkflowExecutionRecord :=
  { record .EXECUTING none executing_unfinished with
    tasks := [failedTask]
    lastErrorCode := some "APPROVAL_EXPIRED"
    error_code_checked := by decide +kernel
    plan_matches := ⟨rfl, rfl, rfl, List.Subset.refl ["step_crm"], List.Subset.refl ["step_crm"]⟩ }

/-- Sandboxes that answer every restore with one body. -/
def sandboxes (body : Body) : SandboxHttp Unit
  | .restore _ _ _, e => (.response 200 body, e)
  | .configuration _ _, e => (.response 200 (.json (.obj []) true), e)

/-- The document of a snapshot that has been restored. -/
def restoredBody : Body :=
  .json (.obj [("system_id", .str "crm"), ("snapshot_id", .str "snap_001"),
    ("configuration_hash", .str ("sha256:" ++ String.ofList (List.replicate 64 '0'))),
    ("restored", .bool true)]) true

def rollbackServices (body : Body) : Services Unit :=
  { deadServices with
    restore := fun system tenantId snapshotId _ _ e =>
      let answer := sandboxes body (.restore system tenantId snapshotId) e
      (SandboxClient.restore snapshotId answer.1, answer.2)
    configuration := fun system tenantId _ _ e =>
      let answer := sandboxes body (.configuration system tenantId) e
      (SandboxClient.configuration answer.1, answer.2) }

def rollbackEngine (body : Body) : WorkflowEngine Unit :=
  ⟨rollbackServices body, retryPolicy, lawfulRuntime.toRuntime⟩

theorem usesSandboxClient_rollbackServices (body : Body) :
    (rollbackServices body).UsesSandboxClient (sandboxes body) :=
  ⟨fun _ _ _ _ _ _ => rfl, fun _ _ _ _ _ => rfl⟩

def stopped : CoordinatorWorld Unit := worldWith stoppedRecord .EXECUTING

theorem healthy_worldWith {record : WorkflowExecutionRecord} (h : record.updatedAt = 0)
    (status : WorkflowState) : Healthy lawfulRuntime (worldWith record status) where
  clock := by
    intro key stored hget
    by_cases hkey : key = ("tenant_demo", changeId)
    · rw [hkey] at hget
      have hsame : stored = changeIn status :=
        (Option.some.inj ((stored?_put_self .empty (changeIn status)).symm.trans hget)).symm
      rw [hsame]
      exact Nat.le_refl 0
    · rw [worldWith, stored?_put_ne _ hkey] at hget
      cases hget
  fresh _ _ _ := rfl
  workflows := by
    intro key stored hget
    rcases InMemoryWorkflowRepository.empty.stored?_put_cases hget with ⟨-, rfl⟩ | ⟨-, hget⟩
    · rw [h]
      exact Nat.zero_le _
    · cases hget

theorem compensating_stopped : Compensating lawfulRuntime stoppedRecord stopped where
  healthy := healthy_worldWith rfl _
  stored := InMemoryWorkflowRepository.stored?_put_self _ _
  active := rfl
  change := ⟨changeIn .EXECUTING, InMemoryChangeStateRepository.stored?_put_self _ _, Or.inl rfl⟩
  distinct := List.nodup_singleton _

end Demo

open Demo in
/-- The demonstration snapshot is restored. -/
theorem rollback_compensates_restored :
    ∃ final w', Prog.Runs ((rollbackEngine restoredBody).rollback stoppedRecord "APPROVAL_EXPIRED")
        stopped (.ok final) w' ∧
      RolledBack (rollbackOrder plan stoppedRecord.tasks)
        (verdicts (sandboxes restoredBody) stoppedRecord.tenantId
          (rollbackOrder plan stoppedRecord.tasks) stopped.rest.remote)
        stopped w' stoppedRecord final := by
  have hcompensates := (rollback_compensates_iff lawfulRuntime (rollbackEngine restoredBody)
    (sandboxes restoredBody) stoppedRecord plan "APPROVAL_EXPIRED" stopped rfl
    (usesSandboxClient_rollbackServices _) compensating_stopped rfl).mpr
      ⟨by decide +kernel, by decide +kernel⟩
  obtain ⟨outcome, w', hrun⟩ := Prog.exists_runs
    ((rollbackEngine restoredBody).rollback stoppedRecord "APPROVAL_EXPIRED") stopped
  obtain ⟨final, rfl, hrolled⟩ := hcompensates outcome w' hrun
  exact ⟨final, w', hrun, hrolled⟩

open Demo in
/-- A sandbox that answers a restore with status 200 and a body that is not JSON: the rollback
raises, and the record is left rolling back. -/
theorem not_rollback_compensates :
    ¬ ∀ [Sha256] (rt : LawfulRuntime) (engine : WorkflowEngine Unit) (http : SandboxHttp Unit)
      (record : WorkflowExecutionRecord) (plan : RemediationPlan) (originalError : String)
      (w : CoordinatorWorld Unit), engine.rt = rt.toRuntime →
      engine.services.UsesSandboxClient http → Compensating rt record w →
      record.plan = some plan → (nonEmptyStr originalError).isOk = true →
      ∀ outcome w', Prog.Runs (engine.rollback record originalError) w outcome w' →
        ∃ final, outcome = .ok final ∧ RolledBack (rollbackOrder plan record.tasks)
          (verdicts http record.tenantId (rollbackOrder plan record.tasks) w.rest.remote)
          w w' record final := by
  intro h
  obtain ⟨outcome, w', hrun⟩ := Prog.exists_runs
    ((rollbackEngine .invalid).rollback stoppedRecord "APPROVAL_EXPIRED") stopped
  obtain ⟨final, rfl, -⟩ := h lawfulRuntime (rollbackEngine .invalid) (sandboxes .invalid)
    stoppedRecord Demo.plan "APPROVAL_EXPIRED" stopped rfl (usesSandboxClient_rollbackServices _)
    compensating_stopped rfl (by decide +kernel) _ w' hrun
  have hescaped : ∃ v ∈ verdicts (sandboxes .invalid) stoppedRecord.tenantId
      (rollbackOrder Demo.plan stoppedRecord.tasks) stopped.rest.remote, v.2 = .escaped := by
    decide +kernel
  obtain ⟨e, he⟩ := rollback_raises (sandboxes .invalid) rfl
    (usesSandboxClient_rollbackServices _) compensating_stopped rfl (Or.inr hescaped) hrun
  cases he

end ChangeOps
