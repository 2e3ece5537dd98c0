import ChangeOps.Contracts.Documents
import ChangeOps.EventGateway.Repository

/-!
# ChangeOps.EventGateway — the identifiers derived from an event

The inbox tells events apart by tenant, source type and event id (`event_key`); so does
`derive_change_id`. `derive_workflow_id` reads the correlation id instead of the source type,
and the approval and dead-letter ids are built from it, so two events that differ in their
source type only share all three (`ids_differ_iff`).
-/

namespace ChangeOps

section Identifiers

variable [Sha256]

/-- The document whose digest names a workflow. -/
def workflowIdDocument (event : ChangeEvent) : Json :=
  .obj [("correlation_id", .str event.correlationId), ("event_id", .str event.eventId),
    ("tenant_id", .str event.tenantId)]

/-- The approval that `process_event` asks for. -/
def deriveApprovalId (event : ChangeEvent) : String := "approval_" ++ deriveWorkflowId event

/-- The dead letter that `_dead_letter` records. -/
def deriveDeadLetterId (event : ChangeEvent) : String := "dlq_" ++ deriveWorkflowId event

/-- No identifier of the one event is an identifier of the other. -/
structure IdsDiffer (e e' : ChangeEvent) : Prop where
  change : deriveChangeId e ≠ deriveChangeId e'
  workflow : deriveWorkflowId e ≠ deriveWorkflowId e'
  approval : deriveApprovalId e ≠ deriveApprovalId e'
  deadLetter : deriveDeadLetterId e ≠ deriveDeadLetterId e'

/-- The truncated digest has no collision among the documents that name the two events. -/
def TruncationInjective (e e' : ChangeEvent) : Prop :=
  ∀ document ∈ [eventKeyDocument e, eventKeyDocument e', workflowIdDocument e, workflowIdDocument e'],
    ∀ document' ∈ [eventKeyDocument e, eventKeyDocument e', workflowIdDocument e,
      workflowIdDocument e'],
      shortDigest document = shortDigest document' →
        canonicalJson document = canonicalJson document'

theorem deriveChangeId_eq (event : ChangeEvent) :
    deriveChangeId event = "chg_" ++ shortDigest (eventKeyDocument event) := rfl

theorem deriveWorkflowId_eq (event : ChangeEvent) :
    deriveWorkflowId event = "wf_" ++ shortDigest (workflowIdDocument event) := rfl

omit [Sha256] in
theorem canonicalJson_workflowIdDocument_iff (e e' : ChangeEvent) :
    canonicalJson (workflowIdDocument e) = canonicalJson (workflowIdDocument e') ↔
      e.correlationId = e'.correlationId ∧ e.eventId = e'.eventId ∧ e.tenantId = e'.tenantId := by
  constructor
  · intro h
    have hfields := Json.sortKeysFields_eq (by simp) (by simp) (canonicalJson_eq_iff.mp h)
    simpa [Json.sortKeysFields, Json.sortKeys] using hfields
  · rintro ⟨hcorrelation, hevent, htenant⟩
    rw [workflowIdDocument, workflowIdDocument, hcorrelation, hevent, htenant]

theorem deriveChangeId_ne {e e' : ChangeEvent} (hkey : eventKey e ≠ eventKey e')
    (hinj : TruncationInjective e e') : deriveChangeId e ≠ deriveChangeId e' := by
  intro h
  rw [deriveChangeId_eq, deriveChangeId_eq, String.append_right_inj] at h
  -- equal texts would have equal digests, truncated or not
  have htext := hinj _ (by simp) _ (by simp) h
  exact hkey (by rw [eventKey, eventKey, sha256Digest, sha256Digest, htext])

theorem deriveWorkflowId_eq_iff {e e' : ChangeEvent} (hinj : TruncationInjective e e') :
    deriveWorkflowId e = deriveWorkflowId e' ↔
      e.correlationId = e'.correlationId ∧ e.eventId = e'.eventId ∧ e.tenantId = e'.tenantId := by
  rw [deriveWorkflowId_eq, deriveWorkflowId_eq, String.append_right_inj,
    ← canonicalJson_workflowIdDocument_iff]
  constructor
  · exact hinj _ (by simp) _ (by simp)
  · intro h
    rw [shortDigest, shortDigest, sha256Digest, sha256Digest, h]

/-- Of two events that the inbox keeps apart, the derived identifiers differ if and only if the
events differ in tenant, event id or correlation id. -/
theorem ids_differ_iff {e e' : ChangeEvent} (hkey : eventKey e ≠ eventKey e')
    (hinj : TruncationInjective e e') :
    IdsDiffer e e' ↔
      e.tenantId ≠ e'.tenantId ∨ e.eventId ≠ e'.eventId ∨ e.correlationId ≠ e'.correlationId := by
  have hworkflow := deriveWorkflowId_eq_iff hinj
  constructor
  · intro h
    by_contra hsame
    push Not at hsame
    exact h.workflow (hworkflow.mpr ⟨hsame.2.2, hsame.2.1, hsame.1⟩)
  · intro h
    have hne : deriveWorkflowId e ≠ deriveWorkflowId e' := by
      intro heq
      obtain ⟨hcorrelation, hevent, htenant⟩ := hworkflow.mp heq
      rcases h with htenant' | hevent' | hcorrelation'
      · exact htenant' htenant
      · exact hevent' hevent
      · exact hcorrelation' hcorrelation
    refine ⟨deriveChangeId_ne hkey hinj, hne, ?_, ?_⟩
    · intro heq
      exact hne ((String.append_right_inj _).mp heq)
    · intro heq
      exact hne ((String.append_right_inj _).mp heq)

end Identifiers

/-! ## One event id, two sources -/

namespace Demo

/-- Event `e` of tenant `t`, by source type and correlation id. -/
def eventFrom (sourceType correlationId : String) : ChangeEvent where
  schemaVersion := "1.0"
  eventId := "e"
  tenantId := "t"
  eventType := "api.contract.changed"
  source := ⟨sourceType, "ext_001", "https://example.test"⟩
  occurredAt := 0
  receivedAt := 0
  subject := ⟨"crm", "field", "customer"⟩
  change := ⟨"Customer field renamed", "1", "2", ["artifact_001"]⟩
  correlationId := correlationId
  traceId := "trace_001"

end Demo

open Demo in
/-- Two events with the same id from different sources share their workflow id. -/
theorem not_ids_differ_sources :
    ¬ ∀ [Sha256] (e e' : ChangeEvent), eventKey e ≠ eventKey e' → TruncationInjective e e' →
      IdsDiffer e e' := by
  intro h
  have hids := @h .hashlib (eventFrom "github" "c") (eventFrom "gitlab" "c")
    (by decide +kernel) (by unfold TruncationInjective; decide +kernel)
  exact @IdsDiffer.workflow .hashlib _ _ hids rfl

open Demo in
theorem ids_differ_iff_correlations :
    @IdsDiffer .hashlib (eventFrom "github" "c") (eventFrom "gitlab" "d") := by
  have hiff := @ids_differ_iff .hashlib (eventFrom "github" "c") (eventFrom "gitlab" "d")
    (by decide +kernel) (by unfold TruncationInjective; decide +kernel)
  exact hiff.mpr (.inr (.inr (by decide)))

end ChangeOps
