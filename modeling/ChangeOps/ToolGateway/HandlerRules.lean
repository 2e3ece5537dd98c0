import ChangeOps.Lib.RelyGuarantee
import ChangeOps.ToolGateway.ApprovalHandlers
import ChangeOps.ToolGateway.Handler

/-!
# ChangeOps.ToolGateway — the parts of the handlers that only look on

Most actions of a handler read the clock, draw an identifier, take a quota or append to the audit
trail. `Idles` says once what such an action leaves alone, and `Bystands` that a part of a handler
consists of such actions: then it keeps whatever `Idles` keeps, under any rely and any guarantee
that allows it.
-/

namespace ChangeOps

/-- An action that leaves everything alone but the clock, the identifiers, the quotas and the end
of the audit trail. -/
structure Idles (w w' : GatewayWorld) : Prop where
  plans : w'.governance.plans = w.governance.plans
  approvals : w'.governance.approvals = w.governance.approvals
  executions : w'.governance.executions = w.governance.executions
  executionIds : w'.governance.executionIds = w.governance.executionIds
  audit : ∀ {key event}, w.governance.audit.get? key = some event →
    w'.governance.audit.get? key = some event
  changes : w'.changes = w.changes
  patches : w'.patches = w.patches
  log : w'.log = w.log
  reservations : w'.reservations = w.reservations
  reading : w'.reading = w.reading
  deciders : w'.deciders = w.deciders
  gone : w'.gone = w.gone

/-- An action that does not touch governance or journal. -/
theorem Idles.of_eq {w w' : GatewayWorld} (hgovernance : w'.governance = w.governance)
    (hchanges : w'.changes = w.changes) (hpatches : w'.patches = w.patches) (hlog : w'.log = w.log)
    (hreservations : w'.reservations = w.reservations)
    (hreading : w'.reading = w.reading) (hdeciders : w'.deciders = w.deciders)
    (hgone : w'.gone = w.gone) : Idles w w' where
  plans := by rw [hgovernance]
  approvals := by rw [hgovernance]
  executions := by rw [hgovernance]
  executionIds := by rw [hgovernance]
  audit h := by
    rw [hgovernance]
    exact h
  changes := hchanges
  patches := hpatches
  log := hlog
  reservations := hreservations
  reading := hreading
  deciders := hdeciders
  gone := hgone

theorem Idles.refl (w : GatewayWorld) : Idles w w := .of_eq rfl rfl rfl rfl rfl rfl rfl rfl

/-- The audit trail only grows: a key that is in use is not written. -/
theorem idles_recordAudit (event : AuditEvent) (w : GatewayWorld) :
    Idles w { w with governance := (w.governance.recordAudit event).2 } := by
  have hkept : ∀ {key event'}, w.governance.audit.get? key = some event' →
      (w.governance.recordAudit event).2.audit.get? key = some event' := by
    intro key event' hget
    unfold GovernanceRepository.recordAudit
    split_ifs with hsome
    · exact hget
    · have hne : key ≠ (event.tenantId, event.auditEventId) := by
        rintro rfl
        rw [hget] at hsome
        exact hsome rfl
      rw [Dict.get?_set_ne _ _ hne]
      exact hget
  rcases GovernanceRepository.recordAudit_cases event w.governance with ⟨e, heq⟩ | heq
  · rw [heq]
    exact .refl w
  · rw [heq] at hkept ⊢
    exact ⟨rfl, rfl, rfl, rfl, hkept, rfl, rfl, rfl, rfl, rfl, rfl, rfl⟩

/-- A part of a handler all of whose actions are idle. -/
structure Bystands {α : Type} (p : GatewayAction α) : Prop where
  keeps : ∀ {R : Rely GatewayWorld} {G : GatewayWorld → GatewayWorld → Prop}
    {P : GatewayWorld → Prop} {w : GatewayWorld}, (∀ {w w'}, Idles w w' → G w w') →
    (∀ {w w'}, P w → R w w' → P w') → (∀ {w w'}, P w → Idles w w' → P w') → P w →
    p.RG R G (fun _ t => P t) w

namespace Bystands

variable {α β : Type}

theorem atomic {f : GatewayWorld → Except GatewayExn α × GatewayWorld}
    (h : ∀ w, Idles w (f w).2) : Bystands (Prog.atomic f) := by
  constructor
  intro R G P w hG hR hI hw
  refine Prog.RG.atomic fun t ht => ⟨hG (h t), fun t' ht' => ?_⟩
  exact hR (hI (hR hw ht) (h t)) ht'

theorem bind {p : GatewayAction α} {f : α → GatewayAction β} (hp : Bystands p)
    (hf : ∀ a, Bystands (f a)) : Bystands (p.bind f) := by
  constructor
  intro R G P w hG hR hI hw
  exact (hp.keeps hG hR hI hw).bind (fun a t ht => (hf a).keeps hG hR hI ht) (fun _ _ ht => ht)

theorem ret (a : α) : Bystands (.ret a) := ⟨fun _ hR _ hw _ ht => hR hw ht⟩

theorem raise (e : GatewayExn) : Bystands (.raise e : GatewayAction α) :=
  ⟨fun _ hR _ hw _ ht => hR hw ht⟩

theorem ofExcept (outcome : Except GatewayExn α) : Bystands (.ofExcept outcome) := by
  cases outcome with
  | ok a => exact ret a
  | error e => exact raise e

/-! ## Primitive actions -/

theorem gatewayNow (gateway : ToolGateway) : Bystands (gatewayNow gateway) :=
  atomic fun _ => .of_eq rfl rfl rfl rfl rfl rfl rfl rfl

theorem gatewayUuid (gateway : ToolGateway) : Bystands (gatewayUuid gateway) :=
  atomic fun _ => .of_eq rfl rfl rfl rfl rfl rfl rfl rfl

theorem read (f : GatewayWorld → Except GatewayExn α) : Bystands (Prog.atomic fun w => (f w, w)) :=
  atomic fun w => .refl w

theorem auditAction (event : AuditEvent) : Bystands (auditAction event) :=
  atomic (idles_recordAudit event)

theorem acquireQuota (gateway : ToolGateway) (quota : String × String) :
    Bystands (acquireQuota gateway quota) := by
  refine atomic fun w => ?_
  dsimp only
  split_ifs
  · exact .refl w
  · exact .of_eq rfl rfl rfl rfl rfl rfl rfl rfl

theorem releaseQuota (quota : String × String) : Bystands (releaseQuota quota) :=
  atomic fun _ => .of_eq rfl rfl rfl rfl rfl rfl rfl rfl

theorem notifyCallback (gateway : ToolGateway) (record : ApprovalRequestRecord) :
    Bystands (notifyCallback gateway record) :=
  atomic fun _ => .of_eq rfl rfl rfl rfl rfl rfl rfl rfl

/-! ## Parts of the handlers -/

variable [Sha256]

theorem auditTool (gateway : ToolGateway) (request : ExecutionRequest) (eventType : String)
    (decision : PolicyDecision) (output : Json) (status : AuditStatus) (summary : String)
    (now : Time) :
    Bystands (auditTool gateway request eventType decision output status summary now) :=
  bind (gatewayUuid gateway) fun _ => auditAction _

theorem auditApproval (gateway : ToolGateway) (identity : VerifiedIdentity)
    (record : ApprovalRequestRecord) (eventType summary : String) (now : Time) :
    Bystands (auditApproval gateway identity record eventType summary now) :=
  bind (gatewayUuid gateway) fun _ => auditAction _

theorem refuse (gateway : ToolGateway) (request : ExecutionRequest) (eventType summary : String)
    (error : GatewayError) (decision : String → Time → PolicyDecision) :
    Bystands (refuse gateway request eventType summary error decision) :=
  bind (gatewayUuid gateway) fun _ => bind (gatewayNow gateway) fun _ =>
    bind (auditTool _ _ _ _ _ _ _ _) fun _ => raise _

omit [Sha256] in
theorem enforce (decision : PolicyDecision) (result : α) : Bystands (enforce decision result) := by
  unfold ChangeOps.enforce
  split_ifs
  · exact raise _
  · exact raise _
  · exact ret _

theorem evaluatePolicy (gateway : ToolGateway) (request : ExecutionRequest)
    (registration : ToolRegistration) (change : ChangeRecord) :
    Bystands (evaluatePolicy gateway request registration change) := by
  unfold ChangeOps.evaluatePolicy
  refine bind (read _) fun plan => bind ?_ fun approval =>
    bind (gatewayNow gateway) fun evaluatedAt => bind (gatewayUuid gateway) fun hex =>
    bind (auditTool _ _ _ _ _ _ _ _) fun _ => ?_
  · cases request.approvalId with
    | none => exact ret none
    | some approvalId => exact bind (read _) fun record => ofExcept _
  · exact enforce _ _

theorem replay (gateway : ToolGateway) (request : ExecutionRequest) (decision : PolicyDecision)
    (record : ToolExecutionRecord) : Bystands (replay gateway request decision record) := by
  unfold ChangeOps.replay
  split
  · exact bind (gatewayNow gateway) fun _ => bind (auditTool _ _ _ _ _ _ _ _) fun _ => ret _
  · exact raise _

end Bystands

end ChangeOps
