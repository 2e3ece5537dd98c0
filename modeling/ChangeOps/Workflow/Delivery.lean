import ChangeOps.Workflow.Alone
import ChangeOps.Workflow.ProcessRules
import ChangeOps.Workflow.Terminal

/-!
# ChangeOps.Workflow — one delivery of an event

A run of `process_event` that nobody disturbs. `DeliveryStep` says what each of its actions can
do, so that an invariant of its runs, wherever they stop, is a case analysis; `DeliveryEnd` says
how it ends, and `Course` why.

Any store may refuse; with `healthy` stores none does without a reason that is named.
-/

namespace ChangeOps

open InMemoryChangeStateRepository WorkflowEngine

variable [Sha256] {E : Type}

/-- The key of the dead letter of the workflow of an event. -/
def letterKey (event : ChangeEvent) : String × String :=
  (event.tenantId, "dlq_" ++ deriveWorkflowId event)

/-- The dead letter stored for the workflow of an event. -/
def World.letter? (w : CoordinatorWorld E) (event : ChangeEvent) : Option DeadLetterRecord :=
  w.rest.workflows.deadLetters.get? (letterKey event)

/-- The workflow is stored, and a delivery of its event goes on with it. -/
structure Acting (event : ChangeEvent) (record : WorkflowExecutionRecord) (w : CoordinatorWorld E) :
    Prop where
  stored : w.workflow? (workflowKey event) = some record
  active : returnsEarly record.status = false

/-! ## What the actions can do -/

/-- The plan of an analysis is for another change, or is not what its hash says. -/
def InvalidPlan (event : ChangeEvent) (analysis : FleetAnalysisResult) : Prop :=
  analysis.draftPlan.tenantId ≠ event.tenantId ∨
    analysis.draftPlan.changeId ≠ deriveChangeId event ∨
    analysis.draftPlanHash ≠ calculatePlanHash analysis.draftPlan

/-- In the state `e` of the services, the fleet may answer so and leave the state `e'`. -/
def FleetAnswers (engine : WorkflowEngine E) (event : ChangeEvent) (e : E)
    (answer : Except RemoteError FleetAnalysisResult) (e' : E) : Prop :=
  ∃ requestId changes,
    engine.services.analyze (deriveChangeId event) event requestId changes e = (answer, e')

/-- The gateway may answer so to a request for an approval. -/
def GatewayAnswers (engine : WorkflowEngine E) (plan : RemediationPlan) (e : E)
    (answer : Except RemoteError Unit) (e' : E) : Prop :=
  ∃ approvalId expiresAt requestId changes,
    engine.services.createApproval approvalId plan expiresAt requestId changes e = (answer, e')

/-- Why a delivery gives its workflow up, with the error code. -/
inductive GivesUp (engine : WorkflowEngine E) (event : ChangeEvent)
    (record : WorkflowExecutionRecord) : String → Prop where
  | unsupported (h : event.eventType ≠ "api.contract.changed") :
      GivesUp engine event record "UNSUPPORTED_EVENT_TYPE"
  | analysis {code : String} {e e' : E} (hplan : record.plan = none)
      (hcode : code ≠ "PROMPT_INJECTION_BLOCKED")
      (h : FleetAnswers engine event e (.error (.dependencyCall code false)) e') :
      GivesUp engine event record code
  | plan {analysis : FleetAnalysisResult} {e e' : E} (hplan : record.plan = none)
      (h : FleetAnswers engine event e (.ok analysis) e') (hinvalid : InvalidPlan event analysis) :
      GivesUp engine event record "INVALID_FLEET_PLAN"
  | approval {code : String} {plan : RemediationPlan} {e e' : E} (hplan : record.plan = some plan)
      (h : GatewayAnswers engine plan e (.error (.dependencyCall code false)) e') :
      GivesUp engine event record code

/-- The transitions that a delivery makes with the change of its record. -/
inductive DeliveryMove (record : WorkflowExecutionRecord) (status : WorkflowState) :
    WorkflowState → RecordUpdates → Prop where
  | screening (h : status = .RECEIVED) : DeliveryMove record status .SCREENING
      { workflowExecutionId := some (some record.workflowExecutionId) }
  | analyzing (h : status = .SCREENING) : DeliveryMove record status .ANALYZING {}
  | planReady {plan : RemediationPlan} (hplan : record.plan = some plan) (h : status = .ANALYZING) :
      DeliveryMove record status .PLAN_READY
        { planVersion := some plan.version
          planHash := some (some (calculatePlanHash plan))
          riskLevel := some plan.riskLevel }
  | awaiting (hplan : record.plan.isSome) (h : status = .PLAN_READY) :
      DeliveryMove record status .AWAITING_APPROVAL {}
  | blocked (hplan : record.plan = none) : DeliveryMove record status .BLOCKED {}

/-- What one action of a delivery does. -/
inductive DeliveryStep (engine : WorkflowEngine E) (event : ChangeEvent)
    (w w' : CoordinatorWorld E) : Prop where
  | quiet (h : Quiet w w')
  | asked (hchanges : w'.changes.stored? = w.changes.stored?)
      (hworkflows : w'.rest.workflows = w.rest.workflows) (hlog : w'.rest.log = w.rest.log)
  | opened (record : WorkflowExecutionRecord) (hnone : w.workflow? (workflowKey event) = none)
      (hkey : record.key = workflowKey event) (hstatus : record.status = .RECEIVED)
      (hplan : record.plan = none) (hw : w' = w.putWorkflow record)
  | continued (record record' : WorkflowExecutionRecord) (hacting : Acting event record w)
      (status : WorkflowRuntimeStatus) (code : Option String)
      (hstatus : status = record.status ∨ status = .ANALYZING)
      (hnext : Restated record status code record') (hw : w' = w.putWorkflow record')
  | created (record : WorkflowExecutionRecord) (change : ChangeRecord) (auditEvent : AuditEvent)
      (hacting : Acting event record w) (hnone : w.changes.stored? (changeKey event) = none)
      (hkey : (change.tenantId, change.changeId) = changeKey event)
      (hstatus : change.status = .RECEIVED) (hid : change.workflowExecutionId = none)
      (hw : w' = { w with
        changes := ((w.changes.put change).claimId change).appendAudit auditEvent })
  | moved (record : WorkflowExecutionRecord) (change updated : ChangeRecord) (target : WorkflowState)
      (updates : RecordUpdates) (auditEvent : AuditEvent) (hacting : Acting event record w)
      (hanalyzing : record.status = .ANALYZING)
      (hstored : w.changes.stored? (changeKey event) = some change)
      (hmove : DeliveryMove record change.status target updates)
      (hmoved : MovedTo target updates change updated) (hw : w' = w.commit updated auditEvent)
  | planned (record record' : WorkflowExecutionRecord) (plan : RemediationPlan)
      (hacting : Acting event record w) (hnone : record.plan = none)
      (hkey : record'.key = record.key) (hstatus : record'.status = record.status)
      (hplan : record'.plan = some plan)
      (hid : record'.approvalId = some ("approval_" ++ record.workflowExecutionId))
      (hexpires : record'.approvalExpiresAt ≠ none) (hw : w' = w.putWorkflow record')
  | requested (record : WorkflowExecutionRecord) (plan : RemediationPlan) (approvalId : String)
      (change : ChangeRecord) (hacting : Acting event record w) (hplan : record.plan = some plan)
      (hid : record.approvalId = some approvalId)
      (hstored : w.changes.stored? (changeKey event) = some change)
      (hstatus : change.status = .AWAITING_APPROVAL)
      (hchanges : w'.changes.stored? = w.changes.stored?)
      (hworkflows : w'.rest.workflows = w.rest.workflows)
      (hlog : w'.rest.log = w.rest.log ++ [.approvalRequested approvalId])
  | waiting (record record' : WorkflowExecutionRecord) (change : ChangeRecord)
      (hacting : Acting event record w) (hplan : record.plan.isSome)
      (hasked : ∃ approvalId, record.approvalId = some approvalId ∧
        .approvalRequested approvalId ∈ w.rest.log)
      (hstored : w.changes.stored? (changeKey event) = some change)
      (hstatus : change.status = .AWAITING_APPROVAL)
      (hnext : Restated record .WAITING_APPROVAL none record') (hw : w' = w.putWorkflow record')
  | blocked (record record' : WorkflowExecutionRecord) (change : ChangeRecord) (code : String)
      (hacting : Acting event record w) (hplan : record.plan = none)
      (hstored : w.changes.stored? (changeKey event) = some change)
      (hstatus : change.status = .BLOCKED)
      (hnext : Restated record .FAILED (some code) record') (hw : w' = w.putWorkflow record')
  | gaveUp (record record' : WorkflowExecutionRecord) (code : String)
      (hacting : Acting event record w) (hreason : GivesUp engine event record code)
      (hnext : Restated record .DEAD_LETTERED (some code) record') (hw : w' = w.putWorkflow record')
  | lettered (record : WorkflowExecutionRecord) (letter : DeadLetterRecord)
      (hstored : w.workflow? (workflowKey event) = some record)
      (hstatus : record.status = .DEAD_LETTERED) (hcode : record.lastErrorCode = some letter.errorCode)
      (hnone : w.letter? event = none)
      (hkey : (letter.tenantId, letter.deadLetterId) = letterKey event)
      (hw : w' = { w with rest := { w.rest with workflows := { w.rest.workflows with
        deadLetters := w.rest.workflows.deadLetters.set (letterKey event) letter } } })

/-! ## How a delivery ends -/

/-- The status of the change of an event. -/
def World.status? (w : CoordinatorWorld E) (event : ChangeEvent) : Option WorkflowState :=
  (w.changes.stored? (changeKey event)).map (·.status)

/-- `if change.status is source: change = await self._transition(record, target)`. -/
def moveFrom (source target status : WorkflowState) : WorkflowState :=
  if status = source then target else status

/-- The status of the change when the fleet is asked. -/
def screened (change : Option WorkflowState) : WorkflowState :=
  moveFrom .RECEIVED .SCREENING (change.getD .RECEIVED)

/-- The status of the change once the fleet has answered. -/
def analyzed (status : WorkflowState) : WorkflowState := moveFrom .SCREENING .ANALYZING status

/-- The status of the change when the gateway is asked, or is not asked. -/
def prepared (status : WorkflowState) : WorkflowState :=
  moveFrom .PLAN_READY .AWAITING_APPROVAL (moveFrom .ANALYZING .PLAN_READY (analyzed status))

/-- Every step of the plan has a system. -/
def SupportedPlan (plan : RemediationPlan) : Prop :=
  ∀ step ∈ plan.steps, ∃ system, systemForStep step = .ok system

/-- The plan that an approval is to be asked for, the status of the change at that point, and
the state of the services. `record` and `change` are what the delivery began with. -/
inductive Planned (engine : WorkflowEngine E) (event : ChangeEvent)
    (record : WorkflowExecutionRecord) (change : Option WorkflowState) (e : E) :
    RemediationPlan → WorkflowState → E → Prop where
  | stored {plan : RemediationPlan} (hplan : record.plan = some plan) :
      Planned engine event record change e plan (screened change) e
  | analysed {analysis : FleetAnalysisResult} {e' : E} (hplan : record.plan = none)
      (h : FleetAnswers engine event e (.ok analysis) e') (hvalid : ¬ InvalidPlan event analysis)
      (htools : SupportedPlan analysis.draftPlan) :
      Planned engine event record change e analysis.draftPlan (analyzed (screened change)) e'

/-- With a stored plan the fleet is not asked. -/
theorem Planned.of_stored {engine : WorkflowEngine E} {event : ChangeEvent}
    {record : WorkflowExecutionRecord} {change : Option WorkflowState} {e e' : E}
    {plan : RemediationPlan} {status : WorkflowState}
    (h : Planned engine event record change e plan status e') (hplan : record.plan.isSome) :
    status = screened change ∧ e' = e := by
  cases h with
  | stored _ => exact ⟨rfl, rfl⟩
  | analysed hnone _ _ _ =>
    rw [hnone] at hplan
    cases hplan

/-- What becomes of a delivery. -/
inductive Upshot where
  | giveUp (code : String)
  | block
  | fail (e : Exn)
  | wait

/-- What becomes of a delivery after the fleet has failed, and the status of the change then. -/
inductive AnalysisFails (status : WorkflowState) : RemoteError → Upshot → WorkflowState → Prop where
  | blocked {transient : Bool} (h : canTransition status .BLOCKED = true) :
      AnalysisFails status (.dependencyCall "PROMPT_INJECTION_BLOCKED" transient) .block .BLOCKED
  | notBlocked {transient : Bool} {id : String} (h : canTransition status .BLOCKED = false) :
      AnalysisFails status (.dependencyCall "PROMPT_INJECTION_BLOCKED" transient)
        (.fail (.invalidStateTransition status .BLOCKED id)) status
  | transient {code : String} (h : code ≠ "PROMPT_INJECTION_BLOCKED") :
      AnalysisFails status (.dependencyCall code true) (.fail (.workflowTransient code)) status
  | permanent {code : String} (h : code ≠ "PROMPT_INJECTION_BLOCKED") :
      AnalysisFails status (.dependencyCall code false) (.giveUp code) status
  | unmapped {text : String} : AnalysisFails status (.unmapped text) (.fail (.other text)) status

/-- What becomes of a delivery after the gateway has answered. -/
def approvalUpshot : Except RemoteError Unit → Upshot
  | .ok () => .wait
  | .error (.dependencyCall code true) => .fail (.workflowTransient code)
  | .error (.dependencyCall code false) => .giveUp code
  | .error (.unmapped text) => .fail (.other text)

/-- What becomes of a delivery that goes on, the status in which that leaves the change, and the
state in which it leaves the services. -/
inductive Course (engine : WorkflowEngine E) (event : ChangeEvent)
    (record : WorkflowExecutionRecord) (change : Option WorkflowState) (e : E) :
    Upshot → Option WorkflowState → E → Prop where
  | unsupported (h : event.eventType ≠ "api.contract.changed") :
      Course engine event record change e (.giveUp "UNSUPPORTED_EVENT_TYPE") change e
  | analysis {error : RemoteError} {upshot : Upshot} {status : WorkflowState} {e' : E}
      (h : event.eventType = "api.contract.changed") (hplan : record.plan = none)
      (hanswer : FleetAnswers engine event e (.error error) e')
      (hfails : AnalysisFails (screened change) error upshot status) :
      Course engine event record change e upshot (some status) e'
  | invalid {analysis : FleetAnalysisResult} {e' : E}
      (h : event.eventType = "api.contract.changed") (hplan : record.plan = none)
      (hanswer : FleetAnswers engine event e (.ok analysis) e')
      (hinvalid : InvalidPlan event analysis) :
      Course engine event record change e (.giveUp "INVALID_FLEET_PLAN")
        (some (analyzed (screened change))) e'
  | tools {analysis : FleetAnalysisResult} {e' : E}
      (h : event.eventType = "api.contract.changed") (hplan : record.plan = none)
      (hanswer : FleetAnswers engine event e (.ok analysis) e')
      (hvalid : ¬ InvalidPlan event analysis) (htools : ¬ SupportedPlan analysis.draftPlan) :
      Course engine event record change e
        (.fail (.dependencyCall "UNSUPPORTED_PLAN_TOOL" false))
        (some (analyzed (screened change))) e'
  | notAwaiting {plan : RemediationPlan} {status : WorkflowState} {e' : E}
      (h : event.eventType = "api.contract.changed")
      (hplanned : Planned engine event record change e plan status e')
      (hstatus : prepared status ≠ .AWAITING_APPROVAL) :
      Course engine event record change e
        (.fail (.workflowPermanent "CHANGE_NOT_AWAITING_APPROVAL")) (some (prepared status)) e'
  | noMetadata {plan : RemediationPlan} (h : event.eventType = "api.contract.changed")
      (hplan : record.plan = some plan) (hstatus : prepared (screened change) = .AWAITING_APPROVAL)
      (hmissing : record.approvalId = none ∨ record.approvalExpiresAt = none) :
      Course engine event record change e
        (.fail (.workflowPermanent "APPROVAL_METADATA_MISSING")) (some .AWAITING_APPROVAL) e
  | approval {plan : RemediationPlan} {status : WorkflowState} {answer : Except RemoteError Unit}
      {e' e'' : E} (h : event.eventType = "api.contract.changed")
      (hplanned : Planned engine event record change e plan status e')
      (hstatus : prepared status = .AWAITING_APPROVAL)
      (hanswer : GatewayAnswers engine plan e' answer e'') :
      Course engine event record change e (approvalUpshot answer) (some .AWAITING_APPROVAL) e''

/-- The record of the event, the status of its change and the state of the services are these. -/
structure Left (event : ChangeEvent) (record : WorkflowExecutionRecord)
    (change : Option WorkflowState) (e : E) (w : CoordinatorWorld E) : Prop where
  stored : w.workflow? (workflowKey event) = some record
  change : w.status? event = change
  remote : w.rest.remote = e

/-- How a delivery that goes on with `record` ends; `change`, `letter` and `e` are what it
began with. -/
inductive DeliveryEnd (H : Prop) (engine : WorkflowEngine E) (event : ChangeEvent)
    (record : WorkflowExecutionRecord) (change : Option WorkflowState)
    (letter : Option DeadLetterRecord) (e : E) :
    Except Exn WorkflowExecutionRecord → CoordinatorWorld E → Prop where
  | waiting {final : WorkflowExecutionRecord} {e' : E} {t : CoordinatorWorld E}
      (hcourse : Course engine event record change e .wait (some .AWAITING_APPROVAL) e')
      (hleft : Left event final (some .AWAITING_APPROVAL) e' t)
      (hstatus : final.status = .WAITING_APPROVAL) (hletter : t.letter? event = letter) :
      DeliveryEnd H engine event record change letter e (.ok final) t
  | blocked {final : WorkflowExecutionRecord} {e' : E} {t : CoordinatorWorld E}
      (hcourse : Course engine event record change e .block (some .BLOCKED) e')
      (hleft : Left event final (some .BLOCKED) e' t) (hstatus : final.status = .FAILED)
      (hcode : final.lastErrorCode = some "PROMPT_INJECTION_BLOCKED")
      (hletter : t.letter? event = letter) :
      DeliveryEnd H engine event record change letter e (.ok final) t
  | gaveUp {code : String} {status : Option WorkflowState} {final : WorkflowExecutionRecord}
      {stored : DeadLetterRecord} {e' : E} {t : CoordinatorWorld E}
      (hcourse : Course engine event record change e (.giveUp code) status e')
      (hleft : Left event final status e' t) (hstatus : final.status = .DEAD_LETTERED)
      (hchecked : nonEmptyStr code = .ok (stripWhitespace code))
      (hcode : final.lastErrorCode = some (stripWhitespace code))
      (hletter : t.letter? event = some stored)
      (hold : letter = some stored ∨ letter = none ∧ stored.errorCode = stripWhitespace code)
      (hhash : stored.inputHash = sha256Digest record.event.modelDump) :
      DeliveryEnd H engine event record change letter e (.ok final) t
  | conflict {code : String} {status : Option WorkflowState} {final : WorkflowExecutionRecord}
      {stored : DeadLetterRecord} {e' : E} {t : CoordinatorWorld E}
      (hcourse : Course engine event record change e (.giveUp code) status e')
      (hleft : Left event final status e' t) (hstatus : final.status = .DEAD_LETTERED)
      (hletter : t.letter? event = letter) (hold : letter = some stored)
      (hhash : stored.inputHash ≠ sha256Digest record.event.modelDump) :
      DeliveryEnd H engine event record change letter e
        (.error (.workflowConflict "Dead-letter identifier collision.")) t
  | unstorable {code : String} {status : Option WorkflowState} {final : WorkflowExecutionRecord}
      {e' : E} {error : Exn} {t : CoordinatorWorld E}
      (hcourse : Course engine event record change e (.giveUp code) status e')
      (hcode : nonEmptyStr code = .error error) (hleft : Left event final status e' t)
      (hactive : returnsEarly final.status = false) (hletter : t.letter? event = letter) :
      DeliveryEnd H engine event record change letter e (.error error) t
  | failed {status : Option WorkflowState} {final : WorkflowExecutionRecord} {e' : E} {error : Exn}
      {t : CoordinatorWorld E} (hcourse : Course engine event record change e (.fail error) status e')
      (hleft : Left event final status e' t) (hactive : returnsEarly final.status = false)
      (hletter : t.letter? event = letter) :
      DeliveryEnd H engine event record change letter e (.error error) t
  | foreign {t : CoordinatorWorld E} (hnone : change = none) (hleft : Left event record none e t)
      (hletter : t.letter? event = letter)
      (howned : (t.changes.tenantsByChangeId.getD (deriveChangeId event) []).isEmpty = false) :
      DeliveryEnd H engine event record change letter e
        (.error (.tenantScopeViolation event.tenantId (deriveChangeId event))) t
  | refused {final : WorkflowExecutionRecord} {error : Exn} {t : CoordinatorWorld E} (hH : ¬ H)
      (hstored : t.workflow? (workflowKey event) = some final)
      (hactive : returnsEarly final.status = false) (hletter : t.letter? event = letter) :
      DeliveryEnd H engine event record change letter e (.error error) t

/-! ## The rules -/

/-- A run of `p` that goes on with a delivery and ends it. -/
abbrev Delivers (H : Prop) (engine : WorkflowEngine E) (event : ChangeEvent)
    (record : WorkflowExecutionRecord) (change : Option WorkflowState)
    (letter : Option DeadLetterRecord) (e : E) (p : WorkflowEngine.Run E WorkflowExecutionRecord)
    (s : CoordinatorWorld E) : Prop :=
  Prog.RG .alone (DeliveryStep engine event) (DeliveryEnd H engine event record change letter e) p s

namespace Stands

variable {H : Prop} {rt : LawfulRuntime} {record first : WorkflowExecutionRecord} {scene : Scene E}
  {s : CoordinatorWorld E} {engine : WorkflowEngine E} {event : ChangeEvent}
  {change₀ : Option WorkflowState} {letter₀ : Option DeadLetterRecord} {e₀ : E}

theorem storedWorkflow (h : Stands H rt record scene s) (hkey : record.key = workflowKey event) :
    s.workflow? (workflowKey event) = some record := by
  rw [← hkey]
  exact h.workflow

theorem storedChange (h : Stands H rt record scene s) (hkey : record.key = workflowKey event) :
    s.changes.stored? (changeKey event) = scene.change := by
  obtain ⟨htenant, hchange, -⟩ := Prod.mk.inj hkey |>.imp id Prod.mk.inj
  rw [← h.change, htenant, hchange]
  rfl

theorem acting (h : Stands H rt record scene s) (hkey : record.key = workflowKey event)
    (hactive : returnsEarly record.status = false) : Acting event record s :=
  ⟨h.storedWorkflow hkey, hactive⟩

theorem left (h : Stands H rt record scene s) (hkey : record.key = workflowKey event) :
    Left event record (scene.change.map (·.status)) scene.remote s := by
  refine ⟨h.storedWorkflow hkey, ?_, h.remote⟩
  rw [World.status?, h.storedChange hkey]

theorem storedLetter (h : Stands H rt record scene s) (event : ChangeEvent) :
    s.letter? event = scene.deadLetters.get? (letterKey event) := by
  rw [World.letter?, h.deadLetters]

theorem letterKey_eq (hkey : record.key = workflowKey event) :
    (record.tenantId, "dlq_" ++ record.workflowExecutionId) = letterKey event := by
  obtain ⟨htenant, -, hid⟩ := Prod.mk.inj hkey |>.imp id Prod.mk.inj
  rw [htenant, hid]
  rfl

/-- A code that cannot be stored: the document of the end does not validate. -/
theorem alone_terminal_unstorable {G : CoordinatorWorld E → CoordinatorWorld E → Prop}
    {Q : Except Exn WorkflowExecutionRecord → CoordinatorWorld E → Prop}
    {status : WorkflowRuntimeStatus} {code : String} {error : Exn} (h : Stands H rt record scene s)
    (hcode : nonEmptyStr code = .error error) (hnew : record.status ≠ status)
    (hG : ∀ {t t'}, Quiet t t' → G t t')
    (hQ : ∀ t, Stands H rt record scene t → Q (.error error) t) :
    Prog.RG .alone G Q (engine.terminal record status (some code)) s := by
  unfold WorkflowEngine.terminal WorkflowEngine.updateRecord
  rw [if_neg fun hsame => hnew hsame.1]
  refine (Prog.RG.alone_bind _ _ _).mpr (h.alone_now engine.rt hG fun t ht _ => ?_)
  refine (Prog.RG.alone_bind _ _ _).mpr (ht.alone_now engine.rt hG fun t' ht' _ => ?_)
  refine (Prog.RG.alone_bind _ _ _).mpr ((Prog.RG.alone_ofExcept _ _).mpr ?_)
  rw [WorkflowFields.modelValidate_error (nonEmptyStrOrNone_error hcode)]
  exact hQ t' ht'

/-- `record_dead_letter`: the letter is new, or there is one, for this input or another. -/
theorem alone_recordDeadLetter {G : CoordinatorWorld E → CoordinatorWorld E → Prop}
    {Q : Except Exn DeadLetterRecord → CoordinatorWorld E → Prop} {letter : DeadLetterRecord}
    (h : Stands H rt record scene s) (hkey : (letter.tenantId, letter.deadLetterId) = letterKey event)
    (hG : ∀ {t t'}, Quiet t t' → G t t')
    (hnew : ∀ t, scene.deadLetters.get? (letterKey event) = none →
      t = { s with rest := { s.rest with workflows := { s.rest.workflows with
        deadLetters := s.rest.workflows.deadLetters.set (letterKey event) letter } } } →
      G s t ∧ (Stands H rt record { scene with
        deadLetters := scene.deadLetters.set (letterKey event) letter } t → Q (.ok letter) t))
    (hold : ∀ stored, scene.deadLetters.get? (letterKey event) = some stored →
      stored.inputHash = letter.inputHash → Q (.ok stored) s)
    (hconflict : ∀ stored, scene.deadLetters.get? (letterKey event) = some stored →
      stored.inputHash ≠ letter.inputHash →
      Q (.error (.workflowConflict "Dead-letter identifier collision.")) s) :
    Prog.RG .alone G Q (onWorkflows (InMemoryWorkflowRepository.recordDeadLetter letter)) s := by
  rw [onWorkflows, Prog.RG.alone_atomic]
  unfold InMemoryWorkflowRepository.recordDeadLetter
  dsimp only
  rw [hkey, h.deadLetters]
  cases hstored : scene.deadLetters.get? (letterKey event) with
  | some stored =>
    by_cases hhash : stored.inputHash = letter.inputHash
    · simp only [hhash, ne_eq, not_true_eq_false, if_false]
      exact ⟨hG (Quiet.refl s), hold stored hstored hhash⟩
    · simp only [hhash, ne_eq, not_false_eq_true, if_true]
      exact ⟨hG (Quiet.refl s), hconflict stored hstored hhash⟩
  | none =>
    obtain ⟨hstep, hend⟩ := hnew _ hstored rfl
    rw [h.deadLetters] at hstep hend
    refine ⟨hstep, hend ⟨fun hH => ?_, h.workflow, h.change, h.remote, h.log, rfl⟩⟩
    obtain ⟨⟨hclock, hfresh⟩, hworkflows⟩ := h.healthy hH
    exact ⟨⟨hclock, hfresh⟩, hworkflows⟩

/-- **The rule of `_dead_letter`.** Once the record is dead-lettered, only a letter for another
input under its identifier can be in the way. -/
theorem delivers_deadLetter {code : String} (h : Stands H rt record scene s)
    (hrt : H → engine.rt = rt.toRuntime) (hkey : record.key = workflowKey event)
    (hactive : returnsEarly record.status = false) (hreason : GivesUp engine event record code)
    (hcourse : Course engine event first change₀ e₀ (.giveUp code) (scene.change.map (·.status))
      scene.remote)
    (hletter : scene.deadLetters.get? (letterKey event) = letter₀)
    (hevent : record.event = first.event) :
    Delivers H engine event first change₀ letter₀ e₀ (engine.deadLetter record code) s := by
  have hnew : record.status ≠ .DEAD_LETTERED := by
    intro hdead
    rw [hdead] at hactive
    cases hactive
  unfold WorkflowEngine.deadLetter
  refine (Prog.RG.alone_bind _ _ _).mpr ?_
  cases hchecked : nonEmptyStr code with
  | error error =>
    refine h.alone_terminal_unstorable hchecked hnew (fun hq => .quiet hq) fun t ht => ?_
    exact .unstorable hcourse hchecked (ht.left hkey) hactive ((ht.storedLetter event).trans hletter)
  | ok checked =>
    obtain rfl := (nonEmptyStr_of_ok hchecked).1
    refine h.alone_terminal hrt (fun _ => ⟨_, nonEmptyStrOrNone_ok hchecked⟩) rfl hnew
      (fun hq => .quiet hq) ?_ ?_ ?_
    · intro final t hfinal ht
      exact .gaveUp record final code (ht.acting hkey hactive) hreason hfinal rfl
    · intro final t hfinal ht
      have hfinalKey : final.key = workflowKey event := hfinal.key.trans hkey
      refine (Prog.RG.alone_bind _ _ _).mpr (ht.alone_now engine.rt (fun hq => .quiet hq) ?_)
      intro t ht _
      refine (Prog.RG.alone_bind _ _ _).mpr ((Prog.RG.alone_ofExcept _ _).mpr ?_)
      refine (Prog.RG.alone_bind _ _ _).mpr (ht.alone_recordDeadLetter (letterKey_eq hkey)
        (fun hq => .quiet hq) ?_ ?_ ?_)
      · rintro t' hnone rfl
        refine ⟨?_, fun ht' => (Prog.RG.alone_ret _ _).mpr ?_⟩
        · refine .lettered final _ (ht.storedWorkflow hfinalKey) hfinal.status ?_
            ((ht.storedLetter event).trans hnone) ?_ rfl
          · exact hfinal.lastErrorCode
          · exact letterKey_eq hkey
        · refine .gaveUp hcourse (ht'.left hfinalKey) hfinal.status hchecked hfinal.lastErrorCode
            ((ht'.storedLetter event).trans (Dict.get?_set_self _ _ _))
            (.inr ⟨hletter ▸ hnone, rfl⟩) ?_
          rw [← hevent]
      · intro stored hstored hhash
        refine (Prog.RG.alone_ret _ _).mpr ?_
        exact .gaveUp hcourse (ht.left hfinalKey) hfinal.status hchecked hfinal.lastErrorCode
          ((ht.storedLetter event).trans hstored) (.inl (hletter ▸ hstored)) (hevent ▸ hhash)
      · intro stored hstored hhash
        exact .conflict hcourse (ht.left hfinalKey) hfinal.status
          ((ht.storedLetter event).trans hletter) (hletter ▸ hstored) (hevent ▸ hhash)
    · intro hH error t ht
      exact .refused hH (ht.storedWorkflow hkey) hactive ((ht.storedLetter event).trans hletter)

/-! ### The change -/

omit [Sha256] in
/-- A change that is not stored is added, unless the identifier of the audit event is in use. -/
theorem addWithAudit_of_none {repo : InMemoryChangeStateRepository} {change : ChangeRecord}
    {auditEvent : AuditEvent} (hnone : repo.stored? (change.tenantId, change.changeId) = none)
    (htenant : auditEvent.tenantId = change.tenantId)
    (hchange : auditEvent.changeId = change.changeId) :
    (repo.audit.get? (auditEvent.tenantId, auditEvent.auditEventId) = none ∧
        addWithAudit change auditEvent repo =
          (.ok (), ((repo.put change).claimId change).appendAudit auditEvent)) ∨
      (repo.audit.get? (auditEvent.tenantId, auditEvent.auditEventId) ≠ none ∧
        addWithAudit change auditEvent repo = (.error (.auditEventAlreadyExists auditEvent.tenantId
          auditEvent.auditEventId), repo)) := by
  have hscope : validateAuditScope change auditEvent = .ok () := by
    rw [validateAuditScope, if_neg (by simp [htenant, hchange])]
  unfold addWithAudit
  rw [hnone, hscope]
  unfold ensureNewAuditId
  cases hused : repo.audit.get? (auditEvent.tenantId, auditEvent.auditEventId) with
  | none => exact .inl ⟨rfl, rfl⟩
  | some other => exact .inr ⟨Option.some_ne_none _, rfl⟩

/-- The change of the record is added. -/
theorem addChange (h : Stands H rt record scene s) {change : ChangeRecord} {auditEvent : AuditEvent}
    (hkey : (change.tenantId, change.changeId) = (record.tenantId, record.changeId))
    (hclock : H → change.updatedAt ≤ rt.clock s.tick)
    (hid : H → ∃ n < s.uuid, auditEvent.auditEventId = "audit_" ++ rt.uuid4 n) :
    Stands H rt record { scene with change := some change } { s with
      changes := ((s.changes.put change).claimId change).appendAudit auditEvent } := by
  obtain ⟨hhealthy, hworkflow, hchange, hremote, hlog, hdead⟩ := h.commit hkey hclock hid
  exact ⟨fun hH => ⟨⟨(hhealthy hH).clock, (hhealthy hH).fresh⟩, (hhealthy hH).workflows⟩, hworkflow,
    hchange, hremote, hlog, hdead⟩

/-- `_audit`: the event is about the change of the record, and its identifier is new. -/
theorem alone_audit {G : CoordinatorWorld E → CoordinatorWorld E → Prop}
    {Q : Except Exn AuditEvent → CoordinatorWorld E → Prop} {entry : WorkflowEngine.AuditNote}
    (h : Stands H rt record scene s) (hrt : H → engine.rt = rt.toRuntime)
    (hG : ∀ {t t'}, Quiet t t' → G t t')
    (hQ : ∀ (auditEvent : AuditEvent) t, auditEvent.tenantId = record.tenantId →
      auditEvent.changeId = record.changeId →
      (H → t.changes.audit.get? (auditEvent.tenantId, auditEvent.auditEventId) = none) →
      (H → ∃ n < t.uuid, auditEvent.auditEventId = "audit_" ++ rt.uuid4 n) → s.tick ≤ t.tick →
      Stands H rt record scene t → Q (.ok auditEvent) t) :
    Prog.RG .alone G Q (engine.audit record entry) s := by
  simp only [WorkflowEngine.audit, uuid4Hex, now, Prog.bind_eq_bind, Prog.RG.alone_bind,
    Prog.RG.alone_atomic, Prog.pure_eq_ret, Prog.RG.alone_ret]
  refine ⟨hG ⟨rfl, rfl⟩, hG ⟨rfl, rfl⟩, hQ _ _ rfl rfl ?_ ?_ (Nat.le_succ _) h.draw.tick⟩
  · intro hH
    rw [hrt hH]
    exact (h.healthy hH).fresh s.uuid (Nat.le_refl _) record.tenantId
  · intro hH
    exact ⟨s.uuid, Nat.lt_succ_self _, by rw [hrt hH]⟩

/-- `add_with_audit` for a change that is not stored. -/
theorem alone_addWithAudit {G : CoordinatorWorld E → CoordinatorWorld E → Prop}
    {Q : Except Exn Unit → CoordinatorWorld E → Prop} {change : ChangeRecord}
    {auditEvent : AuditEvent} (h : Stands H rt record scene s) (hnone : scene.change = none)
    (hkey : (change.tenantId, change.changeId) = (record.tenantId, record.changeId))
    (htenant : auditEvent.tenantId = change.tenantId)
    (hchange : auditEvent.changeId = change.changeId)
    (hnew : H → s.changes.audit.get? (auditEvent.tenantId, auditEvent.auditEventId) = none)
    (hid : H → ∃ n < s.uuid, auditEvent.auditEventId = "audit_" ++ rt.uuid4 n)
    (hclock : H → change.updatedAt ≤ rt.clock s.tick) (hG : ∀ {t t'}, Quiet t t' → G t t')
    (hadd : ∀ t, t = { s with
        changes := ((s.changes.put change).claimId change).appendAudit auditEvent } →
      G s t ∧ (Stands H rt record { scene with change := some change } t → Q (.ok ()) t))
    (herr : ¬ H → Q (.error (.auditEventAlreadyExists auditEvent.tenantId auditEvent.auditEventId)) s) :
    Prog.RG .alone G Q (onChanges (addWithAudit change auditEvent)) s := by
  have hstored : s.changes.stored? (change.tenantId, change.changeId) = none := by
    rw [hkey, h.change, hnone]
  rw [onChanges, Prog.RG.alone_atomic]
  rcases addWithAudit_of_none hstored htenant hchange with ⟨-, heq⟩ | ⟨hused, heq⟩
  · rw [heq]
    obtain ⟨hstep, hend⟩ := hadd _ rfl
    exact ⟨hstep, hend (h.addChange hkey hclock hid)⟩
  · rw [heq]
    exact ⟨hG (Quiet.refl s), herr fun hH => hused (hnew hH)⟩

/-- The change is created, and nobody else creates it. -/
theorem alone_createChange {Q : Except Exn ChangeRecord → CoordinatorWorld E → Prop}
    (h : Stands H rt record scene s) (hrt : H → engine.rt = rt.toRuntime)
    (hkey : record.key = workflowKey event) (hactive : returnsEarly record.status = false)
    (hnone : scene.change = none)
    (hcreated : ∀ change t, change.status = .RECEIVED →
      Stands H rt record { scene with change := some change } t → Q (.ok change) t)
    (herr : ¬ H → ∀ e t, Stands H rt record scene t → Q (.error e) t) :
    Prog.RG .alone (DeliveryStep engine event) Q (engine.createChange record) s := by
  unfold WorkflowEngine.createChange
  refine (Prog.RG.alone_bind _ _ _).mpr (h.alone_now engine.rt (fun hq => .quiet hq) ?_)
  intro t ht htick
  refine (Prog.RG.alone_bind _ _ _).mpr (ht.alone_audit hrt (fun hq => .quiet hq) ?_)
  intro auditEvent t' htenant hchange hnew hid htick' ht'
  refine (Prog.RG.alone_tryCatch _ _ _).mpr ((Prog.RG.alone_bind _ _ _).mpr ?_)
  refine ht'.alone_addWithAudit hnone rfl htenant hchange hnew hid ?_ (fun hq => .quiet hq) ?_ ?_
  · intro hH
    rw [hrt hH]
    exact rt.clock_mono (htick.trans htick')
  · intro t'' hadded
    refine ⟨?_, fun ht'' => (Prog.RG.alone_ret _ _).mpr (hcreated _ t'' rfl ht'')⟩
    refine .created record (WorkflowEngine.receivedChange record (engine.rt.clock s.tick)) auditEvent
      (ht'.acting hkey hactive) ((ht'.storedChange hkey).trans hnone) ?_ rfl rfl hadded
    obtain ⟨htenant, hchange, -⟩ := Prod.mk.inj hkey |>.imp id Prod.mk.inj
    exact Prod.ext htenant hchange
  · exact fun hH => (Prog.RG.alone_raise _ _).mpr (herr hH _ t' ht')

/-- **The rule of `_ensure_change`.** -/
theorem alone_ensureChange {Q : Except Exn ChangeRecord → CoordinatorWorld E → Prop}
    (h : Stands H rt record scene s) (hrt : H → engine.rt = rt.toRuntime)
    (hkey : record.key = workflowKey event) (hactive : returnsEarly record.status = false)
    (hstored : ∀ change, scene.change = some change → Q (.ok change) s)
    (hcreated : ∀ change t, scene.change = none → change.status = .RECEIVED →
      Stands H rt record { scene with change := some change } t → Q (.ok change) t)
    (hforeign : scene.change = none →
      (s.changes.tenantsByChangeId.getD record.changeId []).isEmpty = false →
      Q (.error (.tenantScopeViolation record.tenantId record.changeId)) s)
    (herr : ¬ H → ∀ e t, Stands H rt record scene t → Q (.error e) t) :
    Prog.RG .alone (DeliveryStep engine event) Q (engine.ensureChange record) s := by
  unfold WorkflowEngine.ensureChange
  refine (Prog.RG.alone_tryCatch _ _ _).mpr ?_
  rw [getChange, Prog.RG.alone_atomic]
  refine ⟨.quiet (Quiet.refl s), ?_⟩
  cases hchange : scene.change with
  | some change =>
    rw [get_eq_ok.mpr (h.change.trans hchange)]
    exact hstored change hchange
  | none =>
    rw [InMemoryChangeStateRepository.get, h.change, hchange]
    dsimp only
    split_ifs with howned
    · exact h.alone_createChange hrt hkey hactive hchange (fun change t => hcreated change t hchange) herr
    · exact (Prog.RG.alone_raise _ _).mpr (hforeign hchange (Bool.eq_false_of_not_eq_true howned))

omit [Sha256] in
theorem promptInjectionBlocked_checked : nonEmptyStrOrNone (some "PROMPT_INJECTION_BLOCKED") =
    .ok (some "PROMPT_INJECTION_BLOCKED") := by
  unfold nonEmptyStrOrNone nonEmptyStr stripWhitespace
  decide +kernel

omit [Sha256] in
theorem promptInjectionBlocked_stripped :
    stripWhitespace "PROMPT_INJECTION_BLOCKED" = "PROMPT_INJECTION_BLOCKED" := by
  unfold stripWhitespace
  decide +kernel

/-- One conditional transition of a delivery. -/
theorem alone_advance {Q : Except Exn ChangeRecord → CoordinatorWorld E → Prop}
    {source target : WorkflowState} {updates : RecordUpdates} {change : ChangeRecord}
    (h : Stands H rt record scene s) (hrt : H → engine.rt = rt.toRuntime)
    (hkey : record.key = workflowKey event) (hstatus : record.status = .ANALYZING)
    (hchange : scene.change = some change) (hedge : canTransition source target = true)
    (hupdates : updates.unsupported = []) (hmove : DeliveryMove record source target updates)
    (hQ : ∀ change' t, change'.status = moveFrom source target change.status →
      Stands H rt record { scene with change := some change' } t → Q (.ok change') t)
    (herr : ¬ H → ∀ e t, Stands H rt record scene t → Q (.error e) t) :
    Prog.RG .alone (DeliveryStep engine event) Q
      (engine.transitionFrom [source] record change target updates) s := by
  have hactive : returnsEarly record.status = false := by rw [hstatus]; rfl
  refine h.alone_transitionFrom hrt (fun _ => hupdates) hchange ?_ (fun hq => .quiet hq) ?_ ?_ ?_ herr
  · intro source' hmem
    rw [List.mem_singleton.mp hmem]
    exact hedge
  · intro hmem updated auditEvent t hmoved ht
    rw [← List.mem_singleton.mp hmem] at hmove
    exact .moved record change updated target updates auditEvent (ht.acting hkey hactive) hstatus
      ((ht.storedChange hkey).trans hchange) hmove hmoved rfl
  · intro hmem updated t hmoved ht
    refine hQ updated t ?_ ht
    rw [moveFrom, if_pos (List.mem_singleton.mp hmem), hmoved.status]
  · intro hmem
    refine hQ change s ?_ ?_
    · rw [moveFrom, if_neg fun heq => hmem (List.mem_singleton.mpr heq)]
    · rw [← hchange]
      exact h

/-! ### From the plan to the approval pause -/

/-- The request for an approval, and what its answer leads to. -/
theorem delivers_requestApproval {plan : RemediationPlan} {approvalId : String} {expiresAt : Time}
    {change : ChangeRecord} (h : Stands H rt record scene s) (hrt : H → engine.rt = rt.toRuntime)
    (hkey : record.key = workflowKey event) (hstatus : record.status = .ANALYZING)
    (hplan : record.plan = some plan) (hid : record.approvalId = some approvalId)
    (hchange : scene.change = some change) (hawaiting : change.status = .AWAITING_APPROVAL)
    (hcourse : ∀ answer e', GatewayAnswers engine plan scene.remote answer e' →
      Course engine event first change₀ e₀ (approvalUpshot answer) (some .AWAITING_APPROVAL) e')
    (hletter : scene.deadLetters.get? (letterKey event) = letter₀)
    (hevent : record.event = first.event) :
    Delivers H engine event first change₀ letter₀ e₀ ((do
      let requestId ← engine.requestId
      exchange (engine.services.createApproval approvalId plan expiresAt requestId)
        fun _ => [.approvalRequested approvalId]).andThen fun
      | .ok () => engine.setRuntimeStatus record .WAITING_APPROVAL none
      | .error (.dependencyCall code transient) =>
          if transient then .raise (.workflowTransient code)
          else engine.deadLetter record code
      | .error e => .raise e) s := by
  have hactive : returnsEarly record.status = false := by rw [hstatus]; rfl
  refine (Prog.RG.alone_andThen _ _ _).mpr ((Prog.RG.alone_bind _ _ _).mpr ?_)
  refine h.alone_requestId (fun hq => .quiet hq) fun requestId t ht => ?_
  refine ht.alone_exchange ?_ ?_
  · intro t' hnoted hworkflows
    exact .requested record plan approvalId change (ht.acting hkey hactive) hplan hid
      ((ht.storedChange hkey).trans hchange) hawaiting hnoted.changes hworkflows hnoted.log
  · intro t' ht'
    cases heq : engine.services.createApproval approvalId plan expiresAt requestId t.changes
      scene.remote with
    | mk answer e' =>
    rw [heq] at ht'
    have hcourse := hcourse answer e' ⟨approvalId, expiresAt, requestId, t.changes, heq⟩
    have hstored := (ht'.storedLetter event).trans hletter
    have hleft : Left event record (some .AWAITING_APPROVAL) e' t' := by
      have hleft := ht'.left hkey
      rw [hchange, Option.map_some, hawaiting] at hleft
      exact hleft
    cases answer with
    | ok u =>
      have hterminal : WorkflowRuntimeStatus.WAITING_APPROVAL.isTerminal = record.completedAt.isSome := by
        rw [← record.terminal_iff, hstatus]
        rfl
      refine ht'.alone_setRuntimeStatus hrt (fun _ => ⟨none, nonEmptyStrOrNone_none⟩)
        (fun _ => hterminal) (fun hq => .quiet hq) ?_ ?_ ?_
      · intro final t'' hfinal ht''
        have hasked : .approvalRequested approvalId ∈ t''.rest.log := by
          rw [ht''.log]
          exact List.mem_append_right _ (List.mem_singleton.mpr rfl)
        exact .waiting record final change (ht''.acting hkey hactive) (by rw [hplan]; rfl)
          ⟨approvalId, hid, hasked⟩ ((ht''.storedChange hkey).trans hchange) hawaiting hfinal rfl
      · intro final t'' hfinal ht''
        have hfinalLeft := ht''.left (hfinal.key.trans hkey)
        rw [hchange, Option.map_some, hawaiting] at hfinalLeft
        exact .waiting hcourse hfinalLeft hfinal.status ((ht''.storedLetter event).trans hletter)
      · intro hH error t'' ht''
        exact .refused hH (ht''.storedWorkflow hkey) hactive ((ht''.storedLetter event).trans hletter)
    | error error =>
      cases error with
      | unmapped text => exact (Prog.RG.alone_raise _ _).mpr (.failed hcourse hleft hactive hstored)
      | dependencyCall code transient =>
        cases transient with
        | true => exact (Prog.RG.alone_raise _ _).mpr (.failed hcourse hleft hactive hstored)
        | false =>
          refine ht'.delivers_deadLetter hrt hkey hactive (.approval hplan ⟨_, _, _, _, heq⟩) ?_
            hletter hevent
          rw [hchange, Option.map_some, hawaiting]
          exact hcourse

/-- **The rule of the second half of `process_event`**, from a record with a plan on. -/
theorem delivers_awaitApproval {plan : RemediationPlan} {change : ChangeRecord}
    (h : Stands H rt record scene s) (hrt : H → engine.rt = rt.toRuntime)
    (hkey : record.key = workflowKey event) (hstatus : record.status = .ANALYZING)
    (hplan : record.plan = some plan) (hchange : scene.change = some change)
    (hsupported : event.eventType = "api.contract.changed")
    (hplanned : Planned engine event first change₀ e₀ plan change.status scene.remote)
    (hmissing : record.approvalId = none ∨ record.approvalExpiresAt = none →
      first.plan = some plan ∧ (first.approvalId = none ∨ first.approvalExpiresAt = none))
    (hletter : scene.deadLetters.get? (letterKey event) = letter₀)
    (hevent : record.event = first.event) :
    Delivers H engine event first change₀ letter₀ e₀ (engine.awaitApproval record) s := by
  have hactive : returnsEarly record.status = false := by rw [hstatus]; rfl
  have hsome : record.plan.isSome := by rw [hplan]; rfl
  have hrefused : ∀ {scene' : Scene E}, scene'.deadLetters = scene.deadLetters → ¬ H → ∀ error t,
      Stands H rt record scene' t →
      DeliveryEnd H engine event first change₀ letter₀ e₀ (.error error) t := by
    intro scene' hsame hH error t ht
    refine .refused hH (ht.storedWorkflow hkey) hactive ((ht.storedLetter event).trans ?_)
    rw [hsame]
    exact hletter
  unfold WorkflowEngine.awaitApproval WorkflowEngine.requirePlan
  rw [hplan]
  refine (Prog.RG.alone_bind _ _ _).mpr ((Prog.RG.alone_ret _ _).mpr ?_)
  refine (Prog.RG.alone_bind _ _ _).mpr (h.alone_getChange hchange (fun hq => .quiet hq) ?_)
  refine (Prog.RG.alone_bind _ _ _).mpr (h.alone_advance hrt hkey hstatus hchange rfl rfl
    (.analyzing rfl) (fun change₁ t hanalyzed ht => ?_) (hrefused rfl))
  refine (Prog.RG.alone_bind _ _ _).mpr (ht.alone_advance hrt hkey hstatus rfl rfl rfl
    (.planReady hplan rfl) (fun change₂ t hready ht => ?_) (hrefused rfl))
  refine (Prog.RG.alone_bind _ _ _).mpr (ht.alone_advance hrt hkey hstatus rfl rfl rfl
    (.awaiting hsome rfl) (fun change₃ t hprepared ht => ?_) (hrefused rfl))
  -- the three transitions together
  replace hprepared : change₃.status = prepared change.status := by
    rw [hprepared, hready, hanalyzed]
    rfl
  have hleft := ht.left hkey
  have hstored := (ht.storedLetter event).trans hletter
  dsimp only at hleft ⊢
  split_ifs with hawaiting
  · refine (Prog.RG.alone_raise _ _).mpr (.failed (.notAwaiting hsupported hplanned ?_) ?_ hactive hstored)
    · rw [← hprepared]
      exact hawaiting
    · rw [← hprepared]
      exact hleft
  · rw [not_not] at hawaiting
    rw [hawaiting] at hprepared
    split
    · next approvalId expiresAt hid hexpires =>
      refine ht.delivers_requestApproval hrt hkey hstatus hplan hid rfl hawaiting ?_ hletter hevent
      intro answer e' hanswer
      exact .approval hsupported hplanned hprepared.symm hanswer
    · next hnone =>
      have hmetadata : record.approvalId = none ∨ record.approvalExpiresAt = none := by
        cases hid : record.approvalId with
        | none => exact .inl rfl
        | some approvalId =>
          cases hexpires : record.approvalExpiresAt with
          | none => exact .inr rfl
          | some expiresAt => exact (hnone approvalId expiresAt hid hexpires).elim
      obtain ⟨hfirst, hmetadata⟩ := hmissing hmetadata
      obtain ⟨hscreened, hremote⟩ := hplanned.of_stored (by rw [hfirst]; rfl)
      rw [Option.map_some, hawaiting, hremote] at hleft
      rw [hscreened] at hprepared
      exact (Prog.RG.alone_raise _ _).mpr
        (.failed (.noMetadata hsupported hfirst hprepared.symm hmetadata) hleft hactive hstored)

/-! ### From the fleet's answer to the plan -/

/-- The end of a blocked change. -/
theorem delivers_blocked {change : ChangeRecord} (h : Stands H rt record scene s)
    (hrt : H → engine.rt = rt.toRuntime) (hkey : record.key = workflowKey event)
    (hstatus : record.status = .ANALYZING) (hplan : record.plan = none)
    (hchange : scene.change = some change) (hblocked : change.status = .BLOCKED)
    (hcourse : Course engine event first change₀ e₀ .block (some .BLOCKED) scene.remote)
    (hletter : scene.deadLetters.get? (letterKey event) = letter₀) :
    Delivers H engine event first change₀ letter₀ e₀
      (engine.terminal record .FAILED (some "PROMPT_INJECTION_BLOCKED")) s := by
  have hactive : returnsEarly record.status = false := by rw [hstatus]; rfl
  have hnew : record.status ≠ .FAILED := by
    rw [hstatus]
    decide
  refine h.alone_terminal hrt (fun _ => ⟨_, promptInjectionBlocked_checked⟩) rfl hnew
    (fun hq => .quiet hq) ?_ ?_ ?_
  · intro final t hfinal ht
    exact .blocked record final change "PROMPT_INJECTION_BLOCKED" (ht.acting hkey hactive) hplan
      ((ht.storedChange hkey).trans hchange) hblocked hfinal rfl
  · intro final t hfinal ht
    have hleft := ht.left (hfinal.key.trans hkey)
    rw [hchange, Option.map_some, hblocked] at hleft
    refine .blocked hcourse hleft hfinal.status ?_ ((ht.storedLetter event).trans hletter)
    rw [hfinal.lastErrorCode, Option.map_some, promptInjectionBlocked_stripped]
  · exact fun hH error t ht => .refused hH (ht.storedWorkflow hkey) hactive
      ((ht.storedLetter event).trans hletter)

/-- The rule of a failed analysis. -/
theorem delivers_analysisFailed {change : ChangeRecord} {error : RemoteError} {e : E}
    (h : Stands H rt record scene s) (hrt : H → engine.rt = rt.toRuntime)
    (hkey : record.key = workflowKey event) (hstatus : record.status = .ANALYZING)
    (hplan : record.plan = none) (hchange : scene.change = some change)
    (hanswer : FleetAnswers engine event e (.error error) scene.remote)
    (hcourse : ∀ upshot status, AnalysisFails change.status error upshot status →
      Course engine event first change₀ e₀ upshot (some status) scene.remote)
    (hletter : scene.deadLetters.get? (letterKey event) = letter₀)
    (hevent : record.event = first.event) :
    Delivers H engine event first change₀ letter₀ e₀
      (engine.analysisFailed record event error.toExn) s := by
  have hactive : returnsEarly record.status = false := by rw [hstatus]; rfl
  have hleft := h.left hkey
  rw [hchange, Option.map_some] at hleft
  have hstored := (h.storedLetter event).trans hletter
  cases error with
  | unmapped text =>
    exact (Prog.RG.alone_raise _ _).mpr (.failed (hcourse _ _ .unmapped) hleft hactive hstored)
  | dependencyCall code transient =>
    unfold RemoteError.toExn WorkflowEngine.analysisFailed
    dsimp only
    by_cases hcode : code = "PROMPT_INJECTION_BLOCKED"
    · subst hcode
      rw [if_pos rfl]
      refine (Prog.RG.alone_bind _ _ _).mpr (h.alone_recordAudit hrt ?_ (fun hq => .quiet hq) ?_ ?_)
      · exact fun _ => by rw [hchange]; exact Option.some_ne_none change
      · intro t ht
        refine (Prog.RG.alone_bind _ _ _).mpr (ht.alone_transition hrt (fun _ => rfl) hchange
          (fun hq => .quiet hq) ?_ ?_ ?_ ?_)
        · intro updated auditEvent t' hmoved ht'
          exact .moved record change updated .BLOCKED {} auditEvent (ht'.acting hkey hactive) hstatus
            ((ht'.storedChange hkey).trans hchange) (.blocked hplan) hmoved rfl
        · intro hedge updated t' hmoved ht'
          exact ht'.delivers_blocked hrt hkey hstatus hplan rfl hmoved.status
            (hcourse _ _ (.blocked hedge)) hletter
        · intro _ hedge id t' ht'
          have hleft := ht'.left hkey
          rw [hchange, Option.map_some] at hleft
          exact .failed (hcourse _ _ (.notBlocked hedge)) hleft hactive
            ((ht'.storedLetter event).trans hletter)
        · exact fun hH error t' ht' => .refused hH (ht'.storedWorkflow hkey) hactive
            ((ht'.storedLetter event).trans hletter)
      · exact fun hH error t ht => .refused hH (ht.storedWorkflow hkey) hactive
          ((ht.storedLetter event).trans hletter)
    · rw [if_neg hcode]
      cases transient with
      | true =>
        exact (Prog.RG.alone_raise _ _).mpr
          (.failed (hcourse _ _ (.transient hcode)) hleft hactive hstored)
      | false =>
        refine h.delivers_deadLetter hrt hkey hactive (.analysis hplan hcode hanswer) ?_ hletter hevent
        rw [hchange]
        exact hcourse _ _ (.permanent hcode)

omit [Sha256] in
/-- The first step with an unknown tool decides. -/
theorem pendingTasks_eq_error {timestamp : Time} {steps : List RemediationStep} {error : Exn}
    (h : WorkflowEngine.pendingTasks timestamp steps = .error error) :
    error = .dependencyCall "UNSUPPORTED_PLAN_TOOL" false ∧
      ∃ step ∈ steps, ∀ system, systemForStep step ≠ .ok system := by
  unfold WorkflowEngine.pendingTasks at h
  induction steps with
  | nil => cases h
  | cons step steps ih =>
    rw [List.mapM_cons] at h
    cases hsystem : systemForStep step with
    | error e =>
      rw [hsystem] at h
      cases h
      refine ⟨?_, step, List.mem_cons_self, fun system hok => ?_⟩
      · unfold systemForStep at hsystem
        split_ifs at hsystem
        cases hsystem
        rfl
      · rw [hsystem] at hok
        cases hok
    | ok system =>
      rw [hsystem] at h
      cases hrest : steps.mapM (fun step => do
          let system ← systemForStep step
          return WorkflowEngine.pendingTask timestamp step system) with
      | error e =>
        rw [hrest] at h
        cases h
        obtain ⟨herror, step', hmem, hnone⟩ := ih hrest
        exact ⟨herror, step', List.mem_cons_of_mem _ hmem, hnone⟩
      | ok rest =>
        rw [hrest] at h
        cases h

omit [Sha256] in
theorem supportedPlan_of_pendingTasks {timestamp : Time} {plan : RemediationPlan}
    {tasks : List WorkflowTaskRecord}
    (h : WorkflowEngine.pendingTasks timestamp plan.steps = .ok tasks) : SupportedPlan plan := by
  intro step hmem
  obtain ⟨task, -, system, hsystem, -⟩ :=
    exists_of_forall₂_mem (pendingTasks_of_ok h) hmem
  exact ⟨system, hsystem⟩

/-- What binding a plan makes of a record. -/
structure Bound (record : WorkflowExecutionRecord) (plan : RemediationPlan)
    (bound : WorkflowExecutionRecord) : Prop where
  key : bound.key = record.key
  event : bound.event = record.event
  status : bound.status = record.status
  plan : bound.plan = some plan
  approvalId : bound.approvalId = some ("approval_" ++ record.workflowExecutionId)
  approvalExpiresAt : bound.approvalExpiresAt ≠ none

theorem bound_of_updatedBy {plan : RemediationPlan} {tasks : List WorkflowTaskRecord}
    {expiresAt : Time} {bound : WorkflowExecutionRecord}
    (h : UpdatedBy (fun fields => { fields with
      plan := some plan
      planHash := some (calculatePlanHash plan)
      tasks := tasks
      approvalId := some ("approval_" ++ record.workflowExecutionId)
      approvalExpiresAt := some expiresAt }) record bound) : Bound record plan bound := by
  obtain ⟨updatedAt, hfields⟩ := h.fields
  refine ⟨h.key, ?_, ?_, ?_, ?_, ?_⟩ <;> rw [hfields]
  exact Option.some_ne_none _

/-- The document of a bound plan validates: its tasks are those of its steps. -/
theorem exists_bound {plan : RemediationPlan} {tasks : List WorkflowTaskRecord} {timestamp : Time}
    (expiresAt updatedAt : Time) (htenant : plan.tenantId = record.tenantId)
    (hchange : plan.changeId = record.changeId)
    (htasks : WorkflowEngine.pendingTasks timestamp plan.steps = .ok tasks)
    (hupdated : record.startedAt ≤ updatedAt) :
    ∃ bound, (WorkflowEngine.revise record (fun fields => { fields with
      plan := some plan
      planHash := some (calculatePlanHash plan)
      tasks := tasks
      approvalId := some ("approval_" ++ record.workflowExecutionId)
      approvalExpiresAt := some expiresAt }) updatedAt).modelValidate = .ok bound := by
  refine WorkflowFields.modelValidate_ok record.error_code_checked record.event_scope hupdated rfl
    ?_ record.terminal_iff
  have hids := stepIds_pendingTasks htasks
  refine ⟨htenant, hchange, rfl, ?_, ?_⟩ <;>
    simp only [WorkflowEngine.revise, WorkflowFields.stepIds, hids, List.Subset.refl]

/-- The rule of a plan that the fleet has answered with. -/
theorem delivers_bindPlan {change : ChangeRecord} {analysis : FleetAnalysisResult}
    (h : Stands H rt record scene s) (hrt : H → engine.rt = rt.toRuntime)
    (hkey : record.key = workflowKey event) (hstatus : record.status = .ANALYZING)
    (hplan : record.plan = none) (hfirst : first.plan = none) (hchange : scene.change = some change)
    (hscreened : change.status = screened change₀)
    (hsupported : event.eventType = "api.contract.changed")
    (hanswer : FleetAnswers engine event e₀ (.ok analysis) scene.remote)
    (hletter : scene.deadLetters.get? (letterKey event) = letter₀)
    (hevent : record.event = first.event) :
    Delivers H engine event first change₀ letter₀ e₀
      ((engine.bindPlan record analysis).bind fun
        | .inr finished => .ret finished
        | .inl bound => engine.awaitApproval bound) s := by
  have hactive : returnsEarly record.status = false := by rw [hstatus]; rfl
  obtain ⟨htenant, hchangeId, -⟩ := Prod.mk.inj hkey |>.imp id Prod.mk.inj
  unfold WorkflowEngine.bindPlan
  refine (Prog.RG.alone_bind _ _ _).mpr ?_
  refine (Prog.RG.alone_bind _ _ _).mpr (h.alone_getChange hchange (fun hq => .quiet hq) ?_)
  refine (Prog.RG.alone_bind _ _ _).mpr (h.alone_advance hrt hkey hstatus hchange rfl rfl
    (.analyzing rfl) (fun change₁ t hanalyzed ht => ?_) ?_)
  · replace hanalyzed : change₁.status = analyzed (screened change₀) := by
      rw [hanalyzed, hscreened]
      rfl
    have hleft := ht.left hkey
    rw [Option.map_some, hanalyzed] at hleft
    dsimp only
    split_ifs with hinvalid
    · rw [htenant, hchangeId] at hinvalid
      have hcourse : Course engine event first change₀ e₀ (.giveUp "INVALID_FLEET_PLAN")
          (some (analyzed (screened change₀))) scene.remote :=
        .invalid hsupported hfirst hanswer hinvalid
      have hends : Delivers H engine event first change₀ letter₀ e₀
          (engine.deadLetter record "INVALID_FLEET_PLAN") t := by
        refine ht.delivers_deadLetter hrt hkey hactive (.plan hplan hanswer hinvalid) ?_ hletter hevent
        rw [Option.map_some, hanalyzed]
        exact hcourse
      refine (Prog.RG.alone_bind _ _ _).mpr (hends.mono fun r t' hend => ?_)
      cases r with
      | ok finished => exact (Prog.RG.alone_ret _ _).mpr ((Prog.RG.alone_ret _ _).mpr hend)
      | error error => exact hend
    · have hvalid : ¬ InvalidPlan event analysis := by
        rw [InvalidPlan, ← htenant, ← hchangeId]
        exact hinvalid
      refine (Prog.RG.alone_bind _ _ _).mpr (ht.alone_now engine.rt (fun hq => .quiet hq) ?_)
      intro t ht _
      refine (Prog.RG.alone_bind _ _ _).mpr ((Prog.RG.alone_ofExcept _ _).mpr ?_)
      cases htasks : WorkflowEngine.pendingTasks (engine.rt.clock _) analysis.draftPlan.steps with
      | error error =>
        obtain ⟨rfl, step, hmem, hnone⟩ := pendingTasks_eq_error htasks
        have htools : ¬ SupportedPlan analysis.draftPlan := by
          intro hall
          obtain ⟨system, hsystem⟩ := hall step hmem
          exact hnone system hsystem
        have hleft := ht.left hkey
        rw [Option.map_some, hanalyzed] at hleft
        exact .failed (.tools hsupported hfirst hanswer hvalid htools) hleft hactive
          ((ht.storedLetter event).trans hletter)
      | ok tasks =>
        have htools := supportedPlan_of_pendingTasks htasks
        push Not at hinvalid
        refine (Prog.RG.alone_bind _ _ _).mpr (ht.alone_now engine.rt (fun hq => .quiet hq) ?_)
        intro t ht _
        refine (Prog.RG.alone_bind _ _ _).mpr (ht.alone_updateRecord hrt rfl ?_ (fun hq => .quiet hq)
          ?_ ?_ ?_)
        · exact fun _ updatedAt hupdated => exists_bound _ updatedAt hinvalid.1 hinvalid.2.1 htasks
            hupdated
        · intro bound t' hbound ht'
          obtain ⟨hboundKey, -, hboundStatus, hboundPlan, hid, hexpires⟩ := bound_of_updatedBy hbound
          exact .planned record bound analysis.draftPlan (ht'.acting hkey hactive) hplan hboundKey
            hboundStatus hboundPlan hid hexpires rfl
        · intro bound t' hbound ht'
          obtain ⟨hboundKey, hboundEvent, hboundStatus, hboundPlan, hid, hexpires⟩ :=
            bound_of_updatedBy hbound
          refine (Prog.RG.alone_ret _ _).mpr ?_
          refine ht'.delivers_awaitApproval hrt (hboundKey.trans hkey) (hboundStatus.trans hstatus)
            hboundPlan rfl hsupported ?_ ?_ hletter (hboundEvent.trans hevent)
          · rw [hanalyzed]
            exact .analysed hfirst hanswer hvalid htools
          · intro hmissing
            rw [hid] at hmissing
            rcases hmissing with hnone | hnone
            · cases hnone
            · exact absurd hnone hexpires
        · exact fun hH error t' ht' => .refused hH (ht'.storedWorkflow hkey) hactive
            ((ht'.storedLetter event).trans hletter)
  · exact fun hH error t ht => .refused hH (ht.storedWorkflow hkey) hactive
      ((ht.storedLetter event).trans hletter)

/-! ### The whole delivery -/

/-- The rule of the part of a delivery that asks the fleet, if the workflow has no plan. -/
theorem delivers_analyze {change : ChangeRecord} (h : Stands H rt record scene s)
    (hrt : H → engine.rt = rt.toRuntime) (hkey : record.key = workflowKey event)
    (hstatus : record.status = .ANALYZING) (hplan : record.plan = none) (hfirst : first.plan = none)
    (hchange : scene.change = some change) (hscreened : change.status = screened change₀)
    (hremote : scene.remote = e₀) (hsupported : event.eventType = "api.contract.changed")
    (hletter : scene.deadLetters.get? (letterKey event) = letter₀)
    (hevent : record.event = first.event) :
    Delivers H engine event first change₀ letter₀ e₀ ((do
      let requestId ← engine.requestId
      exchange (engine.services.analyze record.changeId event requestId) fun _ => []).andThen fun
      | .error e => engine.analysisFailed record event e
      | .ok analysis => do
          match ← engine.bindPlan record analysis with
          | .inr finished => return finished
          | .inl bound => engine.awaitApproval bound) s := by
  obtain ⟨-, hchangeId, -⟩ := Prod.mk.inj hkey |>.imp id Prod.mk.inj
  have hid : record.changeId = deriveChangeId event := hchangeId
  refine (Prog.RG.alone_andThen _ _ _).mpr ((Prog.RG.alone_bind _ _ _).mpr ?_)
  refine h.alone_requestId (fun hq => .quiet hq) fun requestId t ht => ?_
  refine ht.alone_exchange ?_ ?_
  · intro t' hnoted hworkflows
    exact .asked hnoted.changes hworkflows (hnoted.log.trans (List.append_nil _))
  · intro t' ht'
    rw [hid, hremote] at ht' ⊢
    cases heq : engine.services.analyze (deriveChangeId event) event requestId t.changes e₀ with
    | mk answer e' =>
    rw [heq] at ht'
    have hanswer : FleetAnswers engine event e₀ answer e' := ⟨requestId, t.changes, heq⟩
    cases answer with
    | error error =>
      refine ht'.delivers_analysisFailed hrt hkey hstatus hplan hchange hanswer ?_ hletter hevent
      intro upshot status hfails
      rw [hscreened] at hfails
      exact .analysis hsupported hfirst hanswer hfails
    | ok analysis =>
      exact ht'.delivers_bindPlan hrt hkey hstatus hplan hfirst hchange hscreened hsupported hanswer
        hletter hevent

/-- The rule of a delivery from its change on. -/
theorem delivers_ensured {change : ChangeRecord} (h : Stands H rt record scene s)
    (hrt : H → engine.rt = rt.toRuntime) (hkey : record.key = workflowKey event)
    (hactive : returnsEarly record.status = false) (hchange : scene.change = some change)
    (hstatus : change.status = change₀.getD .RECEIVED) (hremote : scene.remote = e₀)
    (hsupported : event.eventType = "api.contract.changed")
    (hletter : scene.deadLetters.get? (letterKey event) = letter₀) :
    Delivers H engine event record change₀ letter₀ e₀ (do
      let record ← engine.setRuntimeStatus record .ANALYZING none
      let change ← getChange record.tenantId record.changeId
      let _ ← engine.transitionFrom [.RECEIVED] record change .SCREENING
        { workflowExecutionId := some (some record.workflowExecutionId) }
      match record.plan with
      | some _ => engine.awaitApproval record
      | none =>
          (do
            let requestId ← engine.requestId
            exchange (engine.services.analyze record.changeId event requestId)
              fun _ => []).andThen fun
            | .error e => engine.analysisFailed record event e
            | .ok analysis => do
                match ← engine.bindPlan record analysis with
                | .inr finished => return finished
                | .inl bound => engine.awaitApproval bound) s := by
  have hterminal : WorkflowRuntimeStatus.ANALYZING.isTerminal = record.completedAt.isSome := by
    rw [← record.terminal_iff]
    cases hrecord : record.status <;> rw [hrecord] at hactive <;> first | rfl | cases hactive
  refine (Prog.RG.alone_bind _ _ _).mpr (h.alone_setRuntimeStatus hrt
    (fun _ => ⟨none, nonEmptyStrOrNone_none⟩) (fun _ => hterminal) (fun hq => .quiet hq) ?_ ?_ ?_)
  · intro record' t hnext ht
    exact .continued record record' (ht.acting hkey hactive) .ANALYZING none (.inr rfl) hnext rfl
  · intro record' t hnext ht
    have hkey' : record'.key = workflowKey event := hnext.key.trans hkey
    have hactive' : returnsEarly record'.status = false := by rw [hnext.status]; rfl
    refine (Prog.RG.alone_bind _ _ _).mpr (ht.alone_getChange hchange (fun hq => .quiet hq) ?_)
    refine (Prog.RG.alone_bind _ _ _).mpr (ht.alone_advance hrt hkey' hnext.status hchange rfl rfl
      (.screening rfl) (fun change' t hscreened ht => ?_) ?_)
    · replace hscreened : change'.status = screened change₀ := by
        rw [hscreened, hstatus]
        rfl
      dsimp only
      split
      · next plan hplan =>
        refine ht.delivers_awaitApproval hrt hkey' hnext.status hplan rfl hsupported ?_ ?_ hletter
          hnext.event
        · rw [hscreened, hremote]
          exact .stored (hnext.plan ▸ hplan)
        · intro hmissing
          rw [hnext.approvalId, hnext.approvalExpiresAt] at hmissing
          exact ⟨hnext.plan ▸ hplan, hmissing⟩
      · next hplan =>
        exact ht.delivers_analyze hrt hkey' hnext.status hplan (hnext.plan ▸ hplan) rfl hscreened
          hremote hsupported hletter hnext.event
    · exact fun hH error t ht => .refused hH (ht.storedWorkflow hkey') hactive'
        ((ht.storedLetter event).trans hletter)
  · exact fun hH error t ht => .refused hH (ht.storedWorkflow hkey) hactive
      ((ht.storedLetter event).trans hletter)

/-- **The rule of a delivery that goes on.** -/
theorem delivers_processRecord (h : Stands H rt record scene s) (hrt : H → engine.rt = rt.toRuntime)
    (hkey : record.key = workflowKey event) (hactive : returnsEarly record.status = false) :
    Delivers H engine event record (scene.change.map (·.status))
      (scene.deadLetters.get? (letterKey event)) scene.remote (engine.processRecord event record) s := by
  unfold WorkflowEngine.processRecord
  split_ifs with hunsupported
  · exact h.delivers_deadLetter hrt hkey hactive (.unsupported hunsupported) (.unsupported hunsupported)
      rfl rfl
  · rw [not_not] at hunsupported
    obtain ⟨htenant, hchangeId, -⟩ := Prod.mk.inj hkey |>.imp id Prod.mk.inj
    refine (Prog.RG.alone_bind _ _ _).mpr (h.alone_ensureChange hrt hkey hactive ?_ ?_ ?_ ?_)
    · intro change hchange
      refine h.delivers_ensured hrt hkey hactive hchange ?_ rfl hunsupported rfl
      rw [hchange]
      rfl
    · intro change t hnone hreceived ht
      refine ht.delivers_ensured hrt hkey hactive rfl ?_ rfl hunsupported rfl
      rw [hnone, hreceived]
      rfl
    · intro hnone howned
      have hleft := h.left hkey
      have hid : record.changeId = deriveChangeId event := hchangeId
      have howner : record.tenantId = event.tenantId := htenant
      rw [hnone, Option.map_none] at hleft ⊢
      rw [hid] at howned
      rw [howner, hid]
      exact .foreign rfl hleft (h.storedLetter event) howned
    · exact fun hH error t ht => .refused hH (ht.storedWorkflow hkey) hactive (ht.storedLetter event)

/-! ### The beginning -/

/-- What one more attempt makes of a record. -/
theorem restated_of_attempt {attempts : Nat} {updated : WorkflowExecutionRecord}
    (h : UpdatedBy (fun fields => { fields with deliveryAttempts := attempts }) record updated) :
    Restated record record.status record.lastErrorCode updated := by
  obtain ⟨updatedAt, hfields⟩ := h.fields
  constructor
  · constructor <;> simp only [WorkflowExecutionRecord.key, hfields]
    rfl
  · rw [hfields]
  · rw [hfields]

/-- The document of one more attempt validates. -/
theorem exists_attempt {attempts : Nat} (updatedAt : Time) (hupdated : record.startedAt ≤ updatedAt) :
    ∃ updated, (WorkflowEngine.revise record
      (fun fields => { fields with deliveryAttempts := attempts }) updatedAt).modelValidate =
        .ok updated :=
  WorkflowFields.modelValidate_ok record.error_code_checked record.event_scope hupdated
    record.plan_paired record.plan_matches record.terminal_iff

/-- The document of a first delivery validates. -/
theorem exists_received (event : ChangeEvent) (timestamp : Time) :
    ∃ record, (WorkflowEngine.receivedFields event timestamp).modelValidate = .ok record :=
  WorkflowFields.modelValidate_ok nonEmptyStrOrNone_none ⟨rfl, rfl⟩ (Nat.le_refl timestamp) rfl rfl rfl

end Stands

/-- The record that a delivery goes on with: the stored one, or a new one. -/
structure Begins (event : ChangeEvent) (w : CoordinatorWorld E) (record : WorkflowExecutionRecord) :
    Prop where
  key : record.key = workflowKey event
  active : returnsEarly record.status = false
  prior : (w.workflow? (workflowKey event) = none ∧ record.plan = none ∧ record.event = event) ∨
    ∃ stored, w.workflow? (workflowKey event) = some stored ∧
      Restated stored stored.status stored.lastErrorCode record

/-- How a delivery ends. -/
inductive Delivered (H : Prop) (engine : WorkflowEngine E) (event : ChangeEvent)
    (w : CoordinatorWorld E) : Except Exn WorkflowExecutionRecord → CoordinatorWorld E → Prop where
  | early {record : WorkflowExecutionRecord} {t : CoordinatorWorld E}
      (hstored : w.workflow? (workflowKey event) = some record)
      (hearly : returnsEarly record.status = true) (hsame : Unchanged w t) :
      Delivered H engine event w (.ok record) t
  | went {record : WorkflowExecutionRecord} {r : Except Exn WorkflowExecutionRecord}
      {t : CoordinatorWorld E} (hbegins : Begins event w record)
      (hend : DeliveryEnd H engine event record (w.status? event) (w.letter? event) w.rest.remote r t) :
      Delivered H engine event w r t

namespace WorkflowEngine

variable {H : Prop} {rt : LawfulRuntime} {engine : WorkflowEngine E} {event : ChangeEvent}
  {s : CoordinatorWorld E}

/-- What a delivery sees when it begins. -/
def sceneOf (event : ChangeEvent) (w : CoordinatorWorld E) : Scene E :=
  ⟨w.changes.stored? (changeKey event), w.rest.remote, w.rest.log, w.rest.workflows.deadLetters⟩

/-- The rule of a delivery, once it has its record. -/
theorem delivered_processRecord {record : WorkflowExecutionRecord} {t : CoordinatorWorld E}
    (h : Stands H rt record (sceneOf event s) t) (hrt : H → engine.rt = rt.toRuntime)
    (hbegins : Begins event s record) :
    Prog.RG .alone (DeliveryStep engine event) (Delivered H engine event s)
      (engine.processRecord event record) t := by
  refine (h.delivers_processRecord hrt hbegins.key hbegins.active).mono fun r t' hend => ?_
  exact .went hbegins hend

/-- A stored workflow, once the clock has been read. -/
theorem stands_stored {record : WorkflowExecutionRecord} (hhealthy : H → Healthy rt s)
    (hstored : s.workflow? (workflowKey event) = some record) :
    Stands H rt record (sceneOf event s) { s with tick := s.tick + 1 } := by
  have hkey : record.key = workflowKey event := InMemoryWorkflowRepository.key_of_stored hstored
  obtain ⟨htenant, hchangeId, -⟩ := Prod.mk.inj hkey |>.imp id Prod.mk.inj
  refine ⟨fun hH => (hhealthy hH).later rfl rfl (Nat.le_succ _) (Nat.le_refl _), ?_, ?_, rfl, rfl, rfl⟩
  · rw [hkey]
    exact hstored
  · rw [htenant, hchangeId]
    rfl

/-- A new workflow, once it is stored. -/
theorem stands_created {created : WorkflowExecutionRecord} (hhealthy : H → Healthy rt s)
    (hrt : H → engine.rt = rt.toRuntime) (hkey : created.key = workflowKey event)
    (hupdated : created.updatedAt = engine.rt.clock s.tick) :
    Stands H rt created (sceneOf event s)
      (World.putWorkflow { s with tick := s.tick + 1 } created) := by
  obtain ⟨htenant, hchangeId, -⟩ := Prod.mk.inj hkey |>.imp id Prod.mk.inj
  refine ⟨fun hH => ?_, World.workflow?_putWorkflow_self _ created, ?_, rfl, rfl, rfl⟩
  · have hlater : Healthy rt { s with tick := s.tick + 1 } :=
      (hhealthy hH).later rfl rfl (Nat.le_succ _) (Nat.le_refl _)
    refine hlater.putWorkflow ?_
    rw [hupdated, hrt hH]
    exact rt.clock_mono (Nat.le_succ _)
  · rw [htenant, hchangeId]
    rfl

/-- **The rule of `process_event`**, for a run that nobody disturbs. -/
theorem delivers_processEvent (hrt : H → engine.rt = rt.toRuntime) (hhealthy : H → Healthy rt s) :
    Prog.RG .alone (DeliveryStep engine event) (Delivered H engine event s)
      (engine.processEvent event) s := by
  unfold processEvent openWorkflow
  refine (Prog.RG.alone_bind _ _ _).mpr ?_
  rw [now, Prog.RG.alone_atomic]
  refine ⟨.quiet ⟨rfl, rfl⟩, ?_⟩
  refine (Prog.RG.alone_bind _ _ _).mpr ((Prog.RG.alone_tryCatch _ _ _).mpr ?_)
  refine (Prog.RG.alone_bind _ _ _).mpr ?_
  rw [getWorkflow, Prog.RG.alone_atomic]
  refine ⟨.quiet (Quiet.refl _), ?_⟩
  obtain ⟨created, hcreated⟩ := Stands.exists_received event (engine.rt.clock s.tick)
  have hcreatedFields := WorkflowFields.modelValidate_of_ok hcreated
  have hcreatedKey : created.key = workflowKey event := by
    rw [WorkflowExecutionRecord.key, hcreatedFields]
    rfl
  cases hstored : s.workflow? (workflowKey event) with
  | some record =>
    rw [InMemoryWorkflowRepository.get_eq_ok.mpr hstored]
    dsimp only
    split_ifs with hearly
    · refine (Prog.RG.alone_ret _ _).mpr ((Prog.RG.alone_ret _ _).mpr ?_)
      exact .early hstored hearly ⟨rfl, rfl⟩
    · have hkey := InMemoryWorkflowRepository.key_of_stored hstored
      have hactive : returnsEarly record.status = false := Bool.eq_false_of_not_eq_true hearly
      have hs := stands_stored hhealthy hstored
      refine (Prog.RG.alone_bind _ _ _).mpr (hs.alone_updateRecord hrt rfl
        (fun _ updatedAt => Stands.exists_attempt updatedAt) (fun hq => .quiet hq) ?_ ?_ ?_)
      · intro updated t hupdated ht
        exact .continued record updated (ht.acting hkey hactive) record.status record.lastErrorCode
          (.inl rfl) (Stands.restated_of_attempt hupdated) rfl
      · intro updated t hupdated ht
        have hnext := Stands.restated_of_attempt hupdated
        refine (Prog.RG.alone_ret _ _).mpr (delivered_processRecord ht hrt ?_)
        exact ⟨hnext.key.trans hkey, by rw [hnext.status]; exact hactive,
          .inr ⟨record, hstored, hnext⟩⟩
      · intro hH error t ht
        have hbegins : Begins event s record :=
          ⟨hkey, hactive, .inr ⟨record, hstored, .refl record, rfl, checked_lastErrorCode record⟩⟩
        have hrefused : ∀ error, Delivered H engine event s (.error error) t := by
          intro error
          exact .went hbegins (.refused hH (ht.storedWorkflow hkey) hactive (ht.storedLetter event))
        dsimp only
        split
        · -- the record is there, so it is got again, unless it is of another event
          refine (Prog.RG.alone_bind _ _ _).mpr ((Prog.RG.alone_ofExcept _ _).mpr ?_)
          rw [hcreated]
          refine (Prog.RG.alone_bind _ _ _).mpr ?_
          rw [onWorkflows, Prog.RG.alone_atomic]
          rcases InMemoryWorkflowRepository.createOrGet_cases created t.rest.workflows with
            ⟨e, heq⟩ | ⟨existing, hexisting, heq⟩ | ⟨hnone, -⟩
          · rw [heq]
            exact ⟨.quiet (Quiet.refl t), hrefused e⟩
          · rw [heq]
            rw [hcreatedKey, ← hkey] at hexisting
            obtain rfl := Option.some.inj (hexisting.symm.trans ht.workflow)
            refine ⟨.quiet (Quiet.refl t), (Prog.RG.alone_ret _ _).mpr ?_⟩
            exact delivered_processRecord ht hrt hbegins
          · rw [hcreatedKey, ← hkey] at hnone
            cases hnone.symm.trans ht.workflow
        · exact (Prog.RG.alone_raise _ _).mpr (hrefused _)
  | none =>
    have hget : s.rest.workflows.get event.tenantId (deriveChangeId event) (deriveWorkflowId event) =
        .error .workflowNotFound := by
      have hnone : s.rest.workflows.stored? (event.tenantId, deriveChangeId event,
          deriveWorkflowId event) = none := hstored
      unfold InMemoryWorkflowRepository.get
      rw [hnone]
    rw [hget]
    dsimp only
    refine (Prog.RG.alone_bind _ _ _).mpr ((Prog.RG.alone_ofExcept _ _).mpr ?_)
    rw [hcreated]
    refine (Prog.RG.alone_bind _ _ _).mpr ?_
    have hput : InMemoryWorkflowRepository.createOrGet created s.rest.workflows =
        (.ok created, s.rest.workflows.put created) := by
      have hnone : s.rest.workflows.stored? created.key = none := by
        rw [hcreatedKey]
        exact hstored
      unfold InMemoryWorkflowRepository.createOrGet
      rw [hnone]
    have hplan : created.plan = none := by rw [hcreatedFields]; rfl
    have hstatus : created.status = .RECEIVED := by rw [hcreatedFields]; rfl
    rw [onWorkflows, Prog.RG.alone_atomic, hput]
    refine ⟨.opened created hstored hcreatedKey hstatus hplan rfl, (Prog.RG.alone_ret _ _).mpr ?_⟩
    refine delivered_processRecord (stands_created hhealthy hrt hcreatedKey ?_) hrt ?_
    · rw [hcreatedFields]
      rfl
    · refine ⟨hcreatedKey, by rw [hstatus]; rfl, .inl ⟨hstored, hplan, ?_⟩⟩
      rw [hcreatedFields]
      rfl

end WorkflowEngine

end ChangeOps
