import ChangeOps.ToolGateway.Governed

/-!
# ChangeOps.ToolGateway — what the audit trail says about approvals

`create_approval` and `decide_approval` store first, audit afterwards and, for a decision, call the
coordinator back last. Each of these steps may fail, and the client sends the request again. The
creation audits what it gets back from the store if that carries the time of this request; a
decision audits whatever it gets back.
-/

namespace ChangeOps

open GovernanceRepository

/-! ## Requests that may fail -/

inductive ApprovalCall where
  | create (request : CreationRequest)
  | decide (request : DecisionRequest)

/-- The storage key of the approval that a call is about. -/
def ApprovalCall.key : ApprovalCall → String × String
  | .create request => request.body.key
  | .decide request => (request.identity.tenantId, request.approvalId)

/-- A request that stops after a number of its actions, if it has not ended by then: the next
action fails, or the process does. It finds the changes as they are at that time. -/
structure Attempt where
  call : ApprovalCall
  actions : Nat
  changes : InMemoryChangeStateRepository

section

variable [Sha256]

def ApprovalCall.handler (gateway : ToolGateway) : ApprovalCall → GatewayAction ApprovalRequestRecord
  | .create request => createApproval gateway request
  | .decide request => decideApprovalRequest gateway request

def Attempt.run (gateway : ToolGateway) (attempt : Attempt) (w : GatewayWorld) :
    GatewayAction ApprovalRequestRecord × GatewayWorld :=
  (attempt.call.handler gateway).runFor attempt.actions { w with changes := attempt.changes }

/-- A sequence of attempts, each of which is `ok` in the state it starts in. The calls in `failed`
have failed after they had changed the repository, and have not been repeated with success. -/
inductive Attempts (gateway : ToolGateway) (ok : Attempt → GatewayWorld → Prop)
    (start : GatewayWorld) : (failed : ApprovalCall → Prop) → GatewayWorld → Prop where
  | nil : Attempts gateway ok start (fun _ => False) start
  | succeed {failed : ApprovalCall → Prop} {w : GatewayWorld}
      (before : Attempts gateway ok start failed w) (attempt : Attempt) (hok : ok attempt w)
      (hreturned : (attempt.run gateway w).1.returned = true) :
      Attempts gateway ok start (fun call => failed call ∧ call ≠ attempt.call)
        (attempt.run gateway w).2
  | fail {failed : ApprovalCall → Prop} {w : GatewayWorld}
      (before : Attempts gateway ok start failed w) (attempt : Attempt) (hok : ok attempt w)
      (hreturned : (attempt.run gateway w).1.returned = false) :
      Attempts gateway ok start
        (fun call => failed call ∨
          call = attempt.call ∧ (attempt.run gateway w).2.governance ≠ w.governance)
        (attempt.run gateway w).2

end

/-! ## The events of an approval -/

/-- The types of the audit events of decisions. -/
def decisionEventTypes : List String :=
  [ApprovalRequestStatus.APPROVED, .REJECTED, .CHANGES_REQUESTED].map
    ApprovalRequestStatus.eventType

def GatewayWorld.events (w : GatewayWorld) : List AuditEvent :=
  w.governance.audit.entries.map Prod.snd

/-- The event is about the approval, and of one of the types. -/
def AuditEvent.isAbout (key : String × String) (types : List String) (event : AuditEvent) : Bool :=
  event.tenantId = key.1 && event.resource = "approvals/" ++ key.2 && types.contains event.eventType

def GatewayWorld.requestEvents (w : GatewayWorld) (key : String × String) : List AuditEvent :=
  w.events.filter (AuditEvent.isAbout key ["APPROVAL_REQUESTED"])

def GatewayWorld.decisionEvents (w : GatewayWorld) (key : String × String) : List AuditEvent :=
  w.events.filter (AuditEvent.isAbout key decisionEventTypes)

/-- Each stored approval has exactly one event of its request, and each decided one exactly one
event of a decision, of the type of its decision. -/
def ApprovalsAudited (w : GatewayWorld) : Prop :=
  ∀ key stored, w.governance.approvals.get? key = some stored →
    (w.requestEvents key).length = 1 ∧
      (stored.status ≠ .PENDING →
        (w.decisionEvents key).map AuditEvent.eventType = [stored.status.eventType])

/-- The call of the repository that a decision makes. -/
def DecisionRequest.call (request : DecisionRequest) (decidedAt : Time) : DecideCall where
  tenantId := request.identity.tenantId
  approvalId := request.approvalId
  target := request.target
  expectedVersion := request.body.expectedVersion
  decidedBy := request.identity.subject
  decidedByRoles := request.identity.roles
  comment := request.body.comment
  decidedAt := decidedAt

/-- An attempt that leaves the trail in order. A creation that stores its request does not stop
before the audit, which takes two actions; one that finds its request stored is not sent at the
very time of that request, or stops before it audits again. A decision whose event is there is not
repeated up to the audit. -/
def Attempt.Careful [Sha256] (gateway : ToolGateway) (attempt : Attempt) (w : GatewayWorld) : Prop :=
  match attempt.call with
  | .create request =>
      (w.governance.approvals.get? request.body.key = none →
        attempt.actions < 3 ∨ 5 ≤ attempt.actions) ∧
      ∀ stored hexpires, w.governance.approvals.get? request.body.key = some stored →
        sameApprovalRequest stored (request.body.record request.identity.subject
          (gateway.runtime.clock w.tick) hexpires) = true →
        stored.requestedAt = gateway.runtime.clock w.tick → attempt.actions < 5
  | .decide request =>
      ∀ stored, w.governance.approvals.get? (request.identity.tenantId, request.approvalId) =
          some stored →
        sameApprovalDecision stored (request.call (gateway.runtime.clock w.tick)) = true →
        w.decisionEvents (request.identity.tenantId, request.approvalId) ≠ [] → attempt.actions < 4

/-! ## What one attempt does -/

/-- The identifiers in the trail have been drawn already. -/
def FreshTrail (gateway : ToolGateway) (w : GatewayWorld) : Prop :=
  ∀ entry ∈ w.governance.audit.entries,
    ∃ n < w.uuid, entry.1.2 = "audit_" ++ gateway.runtime.uuid4 n

structure EventOf (key : String × String) (eventType : String) (event : AuditEvent) : Prop where
  tenant : event.tenantId = key.1
  resource : event.resource = "approvals/" ++ key.2
  type : event.eventType = eventType

/-- A record may have been stored under the key, and an event appended. -/
structure Trails (gateway : ToolGateway) (key : String × String)
    (stored : Option ApprovalRequestRecord) (event : Option AuditEvent) (w w' : GatewayWorld) :
    Prop where
  approvals : w'.governance.approvals =
    stored.elim w.governance.approvals (w.governance.approvals.set key)
  events : w'.events = w.events ++ event.toList
  fresh : FreshTrail gateway w'

section

variable {gateway : ToolGateway} {key : String × String} {w : GatewayWorld}

theorem FreshTrail.mono {w' : GatewayWorld} (h : FreshTrail gateway w)
    (haudit : w'.governance.audit = w.governance.audit) (huuid : w.uuid ≤ w'.uuid) :
    FreshTrail gateway w' := by
  intro entry hmem
  rw [haudit] at hmem
  obtain ⟨n, hn, hid⟩ := h entry hmem
  exact ⟨n, hn.trans_le huuid, hid⟩

/-- The next identifier is not in the trail. -/
theorem FreshTrail.get?_eq_none (h : FreshTrail gateway w) (tenantId : String) :
    w.governance.audit.get? (tenantId, "audit_" ++ gateway.runtime.uuid4 w.uuid) = none := by
  cases hget : w.governance.audit.get? (tenantId, "audit_" ++ gateway.runtime.uuid4 w.uuid) with
  | none => rfl
  | some event =>
    obtain ⟨n, hn, hid⟩ := h _ (Dict.mem_of_get? hget)
    have heq := gateway.runtime.uuid4_injective (String.append_right_inj _ |>.mp hid)
    omega

/-- An event with the next identifier is appended. -/
theorem FreshTrail.trails_append (h : FreshTrail gateway w) (key : String × String)
    {event : AuditEvent} (hid : event.auditEventId = "audit_" ++ gateway.runtime.uuid4 w.uuid) :
    Trails gateway key none (some event) w { w with
      uuid := w.uuid + 1
      governance := { w.governance with
        audit := w.governance.audit.set (event.tenantId, event.auditEventId) event } } := by
  have hnone := h.get?_eq_none event.tenantId
  rw [← hid] at hnone
  have hentries := Dict.entries_set_of_none event hnone
  refine ⟨rfl, ?_, ?_⟩
  · show (w.governance.audit.set (event.tenantId, event.auditEventId) event).entries.map _ = _
    rw [hentries, List.map_append]
    rfl
  · intro entry hmem
    rw [hentries, List.mem_append, List.mem_singleton] at hmem
    rcases hmem with hmem | rfl
    · obtain ⟨m, hm, hold⟩ := h entry hmem
      exact ⟨m, hm.trans (Nat.lt_succ_self _), hold⟩
    · exact ⟨w.uuid, Nat.lt_succ_self _, hid⟩

theorem FreshTrail.trails_idle (h : FreshTrail gateway w) (key : String × String)
    {w' : GatewayWorld} (hgovernance : w'.governance = w.governance) (huuid : w.uuid ≤ w'.uuid) :
    Trails gateway key none none w w' := by
  refine ⟨by rw [hgovernance]; rfl, ?_, h.mono (by rw [hgovernance]) huuid⟩
  rw [GatewayWorld.events, GatewayWorld.events, hgovernance]
  exact (List.append_nil _).symm

variable [Sha256]

/-- The audit of an approval either has not been reached, or has appended its event. -/
theorem runFor_auditApproval {α : Type} (key : String × String) (hfresh : FreshTrail gateway w)
    (identity : VerifiedIdentity) (record : ApprovalRequestRecord) (eventType summary : String)
    (now : Time) (k : Unit → GatewayAction α) (n : Nat) :
    (n < 2 ∧ ∃ p w', p.returned = false ∧ Trails gateway key none none w w' ∧
      ((auditApproval gateway identity record eventType summary now).bind k).runFor n w =
        (p, w')) ∨
    ∃ event w', 2 ≤ n ∧ EventOf (record.tenantId, record.approvalId) eventType event ∧
      Trails gateway key none (some event) w w' ∧
      ((auditApproval gateway identity record eventType summary now).bind k).runFor n w =
        (k ()).runFor (n - 2) w' := by
  match n with
  | 0 => exact Or.inl ⟨by omega, _, w, rfl, hfresh.trails_idle key rfl le_rfl, rfl⟩
  | 1 =>
    exact Or.inl ⟨by omega, _, { w with uuid := w.uuid + 1 }, rfl,
      hfresh.trails_idle key rfl (Nat.le_succ _), rfl⟩
  | n + 2 =>
    right
    obtain ⟨event, hevent, hid, hrun⟩ : ∃ event : AuditEvent,
        EventOf (record.tenantId, record.approvalId) eventType event ∧
        event.auditEventId = "audit_" ++ gateway.runtime.uuid4 w.uuid ∧
        ((auditApproval gateway identity record eventType summary now).bind k).runFor (n + 2) w =
          ((Prog.ofExcept (w.governance.recordAudit event).1).bind k).runFor n
            { w with uuid := w.uuid + 1, governance := (w.governance.recordAudit event).2 } := by
      refine ⟨_, ?_, ?_, rfl⟩
      · exact ⟨rfl, rfl, rfl⟩
      · rfl
    have hnone := hfresh.get?_eq_none event.tenantId
    rw [← hid] at hnone
    have hrecord : w.governance.recordAudit event = (.ok (), { w.governance with
        audit := w.governance.audit.set (event.tenantId, event.auditEventId) event }) := by
      unfold recordAudit
      rw [if_neg (by simp [hnone])]
    rw [hrecord] at hrun
    exact ⟨event, _, by omega, hevent, hfresh.trails_append key hid, hrun⟩

omit [Sha256] in
/-- What is stored before the audit and what the audit appends. -/
theorem Trails.after {stored : Option ApprovalRequestRecord} {event : Option AuditEvent}
    {w' w'' : GatewayWorld} (h : Trails gateway key none event w' w'')
    (happrovals : w'.governance.approvals =
      stored.elim w.governance.approvals (w.governance.approvals.set key))
    (haudit : w'.governance.audit = w.governance.audit) : Trails gateway key stored event w w'' where
  approvals := h.approvals.trans happrovals
  events := by
    rw [h.events, GatewayWorld.events, GatewayWorld.events, haudit]
  fresh := h.fresh

/-- A creation is refused or stops before the repository is asked, or it asks with its third
action. -/
theorem runFor_createApproval (gateway : ToolGateway) (w : GatewayWorld) (request : CreationRequest)
    (n : Nat) :
    (∃ p w', w'.governance = w.governance ∧ w'.uuid = w.uuid ∧
      (createApproval gateway request).runFor n w = (p, w')) ∨
    ∃ m hexpires tick, n = m + 3 ∧
      (createApproval gateway request).runFor n w =
        ((createAction (request.body.record request.identity.subject (gateway.runtime.clock w.tick)
          hexpires) request.body.plan).bind fun stored =>
        if stored.requestedAt = gateway.runtime.clock w.tick then
          (auditApproval gateway request.identity stored "APPROVAL_REQUESTED"
            "Exact-plan sandbox approval requested." (gateway.runtime.clock w.tick)).bind
              fun _ => .ret stored
        else .ret stored).runFor (m + 1) { w with tick := tick } := by
  have hraise : ∀ {m : Nat} {e : GatewayExn} {w' : GatewayWorld}, w'.governance = w.governance →
      w'.uuid = w.uuid → ∃ p w'', w''.governance = w.governance ∧ w''.uuid = w.uuid ∧
        Prog.runFor m (.raise e : GatewayAction ApprovalRequestRecord) w' = (p, w'') :=
    fun hgovernance huuid => ⟨_, _, hgovernance, huuid, Prog.runFor_raise _ _ _⟩
  unfold createApproval
  dsimp only
  split_ifs with huser htenant
  · exact Or.inl (hraise rfl rfl)
  · exact Or.inl (hraise rfl rfl)
  cases n with
  | zero => exact Or.inl ⟨_, w, rfl, rfl, rfl⟩
  | succ n =>
  rw [gatewayNow, Prog.runFor_atomic_ok rfl]
  dsimp only
  by_cases hexpires : gateway.runtime.clock w.tick < request.body.expiresAt
  swap
  · rw [dif_neg hexpires]
    exact Or.inl (hraise rfl rfl)
  rw [dif_pos hexpires]
  split_ifs with hlate
  · exact Or.inl (hraise rfl rfl)
  · cases n with
    | zero => exact Or.inl ⟨_, { w with tick := w.tick + 1 }, rfl, rfl, rfl⟩
    | succ n =>
    rw [readChange]
    cases hchange : w.changes.get request.identity.tenantId request.body.plan.changeId with
    | error e =>
      rw [Prog.runFor_atomic_error (by rw [hchange]; rfl)]
      exact Or.inl ⟨_, { w with tick := w.tick + 1 }, rfl, rfl, rfl⟩
    | ok change =>
      rw [Prog.runFor_atomic_ok (by rw [hchange]; rfl)]
      split_ifs with hstatus hplan
      · exact Or.inl (hraise rfl rfl)
      · exact Or.inl (hraise rfl rfl)
      · cases n with
        | zero => exact Or.inl ⟨_, { w with tick := w.tick + 1 }, rfl, rfl, rfl⟩
        | succ n => exact Or.inr ⟨n, hexpires, w.tick + 1, rfl, rfl⟩

omit [Sha256] in
/-- A request that has the scope of another has its key. -/
theorem key_of_sameApprovalRequest {current candidate : ApprovalRequestRecord}
    (h : sameApprovalRequest current candidate = true) :
    (current.tenantId, current.approvalId) = (candidate.tenantId, candidate.approvalId) := by
  have hfields := of_decide_eq_true h
  have htenant := congrArg ApprovalRequestFields.tenantId hfields
  have hid := congrArg ApprovalRequestFields.approvalId hfields
  exact Prod.ext htenant hid

/-- A creation leaves the trail alone; or it audits the request that it finds stored; or it stores a
new one, and audits it unless it stops before. -/
theorem create_trails (hfresh : FreshTrail gateway w) (request : CreationRequest) (n : Nat) :
    Trails gateway request.body.key none none w ((createApproval gateway request).runFor n w).2 ∨
    (∃ stored event hexpires, 5 ≤ n ∧
      w.governance.approvals.get? request.body.key = some stored ∧
      sameApprovalRequest stored (request.body.record request.identity.subject
        (gateway.runtime.clock w.tick) hexpires) = true ∧
      stored.requestedAt = gateway.runtime.clock w.tick ∧
      EventOf request.body.key "APPROVAL_REQUESTED" event ∧
      Trails gateway request.body.key none (some event) w
        ((createApproval gateway request).runFor n w).2) ∨
    ∃ record, w.governance.approvals.get? request.body.key = none ∧
      (record.tenantId, record.approvalId) = request.body.key ∧ record.status = .PENDING ∧
      (3 ≤ n ∧ n < 5 ∨ ∃ event, EventOf request.body.key "APPROVAL_REQUESTED" event ∧
        Trails gateway request.body.key (some record) (some event) w
          ((createApproval gateway request).runFor n w).2) := by
  rcases runFor_createApproval gateway w request n with
    ⟨p, w', hgovernance, huuid, hrun⟩ | ⟨m, hexpires, tick, rfl, hrun⟩
  · rw [hrun]
    exact Or.inl (hfresh.trails_idle _ hgovernance huuid.ge)
  have hkey : ((request.body.record request.identity.subject (gateway.runtime.clock w.tick)
      hexpires).tenantId, (request.body.record request.identity.subject
      (gateway.runtime.clock w.tick) hexpires).approvalId) = request.body.key := rfl
  have hpending : (request.body.record request.identity.subject (gateway.runtime.clock w.tick)
      hexpires).status = .PENDING := rfl
  have htime : (request.body.record request.identity.subject (gateway.runtime.clock w.tick)
      hexpires).requestedAt = gateway.runtime.clock w.tick := rfl
  rw [hrun, createAction]
  generalize hrecord : request.body.record request.identity.subject (gateway.runtime.clock w.tick)
    hexpires = record at hkey hpending htime
  have haudit : (w.governance.createApprovalRequest record request.body.plan).2.audit =
      w.governance.audit := by
    rcases createApprovalRequest_cases record request.body.plan w.governance with
      ⟨e, heq⟩ | ⟨_, _, -, -, -, -, -, -, heq⟩ | ⟨_, -, -, -, heq⟩ <;> rw [heq]
  have hfresh' : FreshTrail gateway { w with
      tick := tick
      governance := (w.governance.createApprovalRequest record request.body.plan).2 } :=
    hfresh.mono haudit le_rfl
  rcases createApprovalRequest_cases record request.body.plan w.governance with
    ⟨e, heq⟩ | ⟨existingPlan, stored, -, -, -, -, hget, hsame, heq⟩ | ⟨tenants, -, -, hnone, heq⟩
  · rw [Prog.runFor_atomic_error (by rw [heq])]
    exact Or.inl (hfresh.trails_idle _ (by rw [heq]) le_rfl)
  · rw [Prog.runFor_atomic_ok (by rw [heq])]
    rw [hkey] at hget
    have hkept : (w.governance.createApprovalRequest record request.body.plan).2 = w.governance := by
      rw [heq]
    split_ifs with hagain
    · rcases runFor_auditApproval request.body.key hfresh' request.identity stored
          "APPROVAL_REQUESTED" "Exact-plan sandbox approval requested."
          (gateway.runtime.clock w.tick) (fun _ => .ret stored) m with
        ⟨-, p, w', -, htrails, hrun⟩ | ⟨event, w', hm, hevent, htrails, hrun⟩
      · rw [hrun]
        exact Or.inl (htrails.after (congrArg GovernanceRepository.approvals hkept) haudit)
      · rw [key_of_sameApprovalRequest hsame, hkey] at hevent
        rw [hrun, Prog.runFor_ret]
        refine Or.inr (Or.inl ⟨stored, event, hexpires, by omega, hget, ?_, hagain, hevent, ?_⟩)
        · rw [hrecord]
          exact hsame
        · exact htrails.after (congrArg GovernanceRepository.approvals hkept) haudit
    · rw [Prog.runFor_ret]
      exact Or.inl (hfresh.trails_idle _ hkept le_rfl)
  · rw [Prog.runFor_atomic_ok (by rw [heq]), if_pos htime]
    rw [hkey] at hnone
    refine Or.inr (Or.inr ⟨record, hnone, hkey, hpending, ?_⟩)
    rcases runFor_auditApproval request.body.key hfresh' request.identity record
        "APPROVAL_REQUESTED" "Exact-plan sandbox approval requested."
        (gateway.runtime.clock w.tick) (fun _ => .ret record) m with
      ⟨hm, -⟩ | ⟨event, w', hm, hevent, htrails, hrun⟩
    · exact Or.inl ⟨by omega, by omega⟩
    · rw [hkey] at hevent
      rw [hrun, Prog.runFor_ret]
      refine Or.inr ⟨event, hevent, htrails.after ?_ haudit⟩
      rw [heq, hkey]
      rfl

omit [Sha256] in
theorem Trails.callbacks {stored : Option ApprovalRequestRecord} {event : Option AuditEvent}
    {w' : GatewayWorld} (h : Trails gateway key stored event w w') (callbacks : Nat) :
    Trails gateway key stored event w { w' with callbacks := callbacks } :=
  ⟨h.approvals, h.events, h.fresh⟩

omit [Sha256] in
theorem runFor_notifyCallback (gateway : ToolGateway) (w : GatewayWorld)
    (record : ApprovalRequestRecord) (n : Nat) :
    ∃ p callbacks, ((notifyCallback gateway record).bind fun _ => .ret record).runFor n w =
      (p, { w with callbacks := callbacks }) := by
  cases n with
  | zero => exact ⟨_, w.callbacks, rfl⟩
  | succ n =>
    rw [notifyCallback]
    cases hnotify : gateway.notify w.callbacks record with
    | error e => exact ⟨_, w.callbacks + 1, Prog.runFor_atomic_error hnotify _ n⟩
    | ok u =>
      rw [Prog.runFor_atomic_ok hnotify, Prog.runFor_ret]
      exact ⟨_, _, rfl⟩

/-- The decision and what follows it, from the reading of the clock on. -/
theorem runFor_decideApprovalRequest (gateway : ToolGateway) (w : GatewayWorld)
    (request : DecisionRequest) (n : Nat) :
    (∃ p w', w'.governance = w.governance ∧ w'.uuid = w.uuid ∧ p.returned = false ∧
      (decideApprovalRequest gateway request).runFor n w = (p, w')) ∨
    ∃ m tick, n = m + 2 ∧ (decideApprovalRequest gateway request).runFor n w =
      ((decideAction request.identity (request.call (gateway.runtime.clock w.tick))).bind fun record =>
        (auditApproval gateway request.identity record request.target.eventType
          ("Exact-plan sandbox approval decision: " ++ request.target.value ++ ".")
          (gateway.runtime.clock w.tick)).bind fun _ =>
        (notifyCallback gateway record).bind fun _ => .ret record).runFor (m + 1)
          { w with tick := tick } := by
  unfold decideApprovalRequest
  dsimp only
  cases requireRoles request.identity [.APPROVER, .PLATFORM_ADMIN] with
  | error e => exact Or.inl ⟨.raise e, w, rfl, rfl, rfl, Prog.runFor_raise n e w⟩
  | ok u =>
    match n with
    | 0 => exact Or.inl ⟨_, w, rfl, rfl, rfl, rfl⟩
    | 1 => exact Or.inl ⟨_, { w with tick := w.tick + 1 }, rfl, rfl, rfl, rfl⟩
    | n + 2 => exact Or.inr ⟨n, w.tick + 1, rfl, rfl⟩

omit [Sha256] in
/-- The repository refuses a decision, or its answer is handed on. -/
theorem runFor_decideAction {α : Type} (identity : VerifiedIdentity) (call : DecideCall)
    (k : ApprovalRequestRecord → GatewayAction α) (n : Nat) :
    (∃ p, p.returned = false ∧
      ((decideAction identity call).bind k).runFor (n + 1) w = (p, { w with
        governance := (w.governance.decideApproval call).2 }) ∧
      (w.governance.decideApproval call).2 = w.governance) ∨
    ∃ record deciders, (w.governance.decideApproval call).1 = .ok record ∧
      ((decideAction identity call).bind k).runFor (n + 1) w =
        (k record).runFor n { w with
          governance := (w.governance.decideApproval call).2
          deciders := deciders } := by
  cases hdecide : (w.governance.decideApproval call).1 with
  | error e =>
    refine Or.inl ⟨.raise e, rfl, ?_, decideApproval_of_error hdecide⟩
    unfold decideAction
    rw [Prog.runFor_atomic_error (e := e) (by simp only [hdecide])]
    simp only [hdecide]
  | ok record =>
    refine Or.inr ⟨record, ((call.tenantId, call.approvalId), identity) :: w.deciders, rfl, ?_⟩
    unfold decideAction
    rw [Prog.runFor_atomic_ok (b := record) (by simp only [hdecide])]
    simp only [hdecide]

/-- A decision that does not return leaves the trail alone; or it audits the decision that it
repeats; or it stores the first decision, and audits it unless it stops before. -/
theorem decide_trails (hfresh : FreshTrail gateway w) (request : DecisionRequest)
    (hkey : key = (request.identity.tenantId, request.approvalId))
    (hkeyed : ∀ stored, w.governance.approvals.get? key = some stored →
      (stored.tenantId, stored.approvalId) = key) (n : Nat) :
    (((decideApprovalRequest gateway request).runFor n w).1.returned = false ∧
      Trails gateway key none none w ((decideApprovalRequest gateway request).runFor n w).2) ∨
    (∃ current event, w.governance.approvals.get? key = some current ∧ current.status ≠ .PENDING ∧
      sameApprovalDecision current (request.call (gateway.runtime.clock w.tick)) = true ∧ 4 ≤ n ∧
      EventOf key request.target.eventType event ∧
      Trails gateway key none (some event) w
        ((decideApprovalRequest gateway request).runFor n w).2) ∨
    ∃ current updated, w.governance.approvals.get? key = some current ∧ current.status = .PENDING ∧
      (updated.tenantId, updated.approvalId) = key ∧ updated.status = request.target ∧
      request.target ≠ .PENDING ∧
      ((((decideApprovalRequest gateway request).runFor n w).1.returned = false ∧
        Trails gateway key (some updated) none w
          ((decideApprovalRequest gateway request).runFor n w).2) ∨
      ∃ event, EventOf key request.target.eventType event ∧
        Trails gateway key (some updated) (some event) w
          ((decideApprovalRequest gateway request).runFor n w).2) := by
  rcases runFor_decideApprovalRequest gateway w request n with
    ⟨p, w', hgovernance, huuid, hreturned, hrun⟩ | ⟨m, tick, rfl, hrun⟩
  · rw [hrun]
    exact Or.inl ⟨hreturned, hfresh.trails_idle _ hgovernance huuid.ge⟩
  have hcall : ((request.call (gateway.runtime.clock w.tick)).tenantId,
      (request.call (gateway.runtime.clock w.tick)).approvalId) = key := hkey.symm
  have htarget : (request.call (gateway.runtime.clock w.tick)).target = request.target := rfl
  rw [hrun]
  generalize request.call (gateway.runtime.clock w.tick) = call at hcall htarget
  have haudit : (w.governance.decideApproval call).2.audit = w.governance.audit := by
    rcases decideApproval_cases call w.governance with
      ⟨e, heq⟩ | ⟨_, -, -, -, heq⟩ | ⟨_, _, -, -, -, -, -, -, heq⟩ <;> rw [heq]
  rcases runFor_decideAction (w := { w with tick := tick }) request.identity call (fun record =>
      (auditApproval gateway request.identity record request.target.eventType
        ("Exact-plan sandbox approval decision: " ++ request.target.value ++ ".")
        (gateway.runtime.clock w.tick)).bind fun _ =>
      (notifyCallback gateway record).bind fun _ => .ret record) m with
    ⟨p, hreturned, hrun, hkept⟩ | ⟨record, deciders, hdecide, hrun⟩
  · rw [hrun]
    exact Or.inl ⟨hreturned, hfresh.trails_idle _ hkept le_rfl⟩
  rw [hrun]
  have hfresh' : FreshTrail gateway { w with
      tick := tick
      governance := (w.governance.decideApproval call).2
      deciders := deciders } := hfresh.mono haudit le_rfl
  have haudited := runFor_auditApproval key hfresh' request.identity record request.target.eventType
    ("Exact-plan sandbox approval decision: " ++ request.target.value ++ ".")
    (gateway.runtime.clock w.tick)
    (fun _ => (notifyCallback gateway record).bind fun _ => .ret record) m
  rcases decideApproval_cases call w.governance with
    ⟨e, heq⟩ | ⟨current, hget, hdecided, hsame, heq⟩ |
    ⟨current, updated, hget, hpending, -, -, -, hvalid, heq⟩
  · rw [heq] at hdecide
    cases hdecide
  · rw [heq] at hdecide
    obtain rfl : current = record := Except.ok.inj hdecide
    rw [hcall] at hget
    have happrovals : (w.governance.decideApproval call).2.approvals = w.governance.approvals := by
      rw [heq]
    rcases haudited with ⟨-, p, w', hreturned, htrails, hrun⟩ | ⟨event, w', hm, hevent, htrails, hrun⟩
    · rw [hrun]
      exact Or.inl ⟨hreturned, htrails.after happrovals haudit⟩
    · obtain ⟨p, callbacks, hnotified⟩ :=
        runFor_notifyCallback gateway w' current (m - 2)
      rw [hkeyed _ hget] at hevent
      rw [hrun, hnotified]
      refine Or.inr (Or.inl ⟨current, event, hget, hdecided, hsame, by omega, hevent, ?_⟩)
      exact (htrails.callbacks callbacks).after happrovals haudit
  · rw [heq] at hdecide
    obtain rfl : updated = record := Except.ok.inj hdecide
    rw [hcall] at hget
    obtain ⟨-, -, hfields⟩ := modelValidate_decidedDocument.mp hvalid
    have hlife := updated.lifecycle
    rw [hfields] at hlife
    have hdecides := (lifecycleError_decidedFields.mp hlife).1
    have hupdated : (updated.tenantId, updated.approvalId) = key := by
      rw [hfields]
      exact hkeyed _ hget
    have hstatus : updated.status = call.target := by rw [hfields]; rfl
    rw [htarget] at hdecides hstatus
    have happrovals : (w.governance.decideApproval call).2.approvals =
        w.governance.approvals.set key updated := by rw [heq, hcall]
    refine Or.inr (Or.inr ⟨current, updated, hget, hpending, hupdated, hstatus, hdecides, ?_⟩)
    rcases haudited with ⟨-, p, w', hreturned, htrails, hrun⟩ | ⟨event, w', -, hevent, htrails, hrun⟩
    · rw [hrun]
      exact Or.inl ⟨hreturned, htrails.after happrovals haudit⟩
    · obtain ⟨p, callbacks, hnotified⟩ :=
        runFor_notifyCallback gateway w' updated (m - 2)
      rw [hupdated] at hevent
      rw [hrun, hnotified]
      exact Or.inr ⟨event, hevent, (htrails.callbacks callbacks).after happrovals haudit⟩

end

/-! ## The trail of every approval -/

/-- How the trail stands with an approval: none is stored; it is pending; it is decided; or it is
decided and the event of its decision is owed. -/
inductive KeyTrail (owed : Prop) : Option ApprovalRequestRecord → List AuditEvent →
    List AuditEvent → Prop where
  | absent : KeyTrail owed none [] []
  | pending {stored : ApprovalRequestRecord} {requested : AuditEvent}
      (hpending : stored.status = .PENDING) : KeyTrail owed (some stored) [requested] []
  | decided {stored : ApprovalRequestRecord} {requested decision : AuditEvent}
      (hdecided : stored.status ≠ .PENDING) (htype : decision.eventType = stored.status.eventType) :
      KeyTrail owed (some stored) [requested] [decision]
  | owed {stored : ApprovalRequestRecord} {requested : AuditEvent}
      (hdecided : stored.status ≠ .PENDING) (howed : owed) : KeyTrail owed (some stored) [requested] []

theorem KeyTrail.mono {owed owed' : Prop} {stored : Option ApprovalRequestRecord}
    {requests decisions : List AuditEvent} (h : KeyTrail owed stored requests decisions)
    (himp : owed → owed') : KeyTrail owed' stored requests decisions := by
  cases h with
  | absent => exact .absent
  | pending hpending => exact .pending hpending
  | decided hdecided htype => exact .decided hdecided htype
  | owed hdecided howed => exact .owed hdecided (himp howed)

/-- A decision for the key has failed and not been repeated with success. -/
def OwesDecision (failed : ApprovalCall → Prop) (key : String × String) : Prop :=
  ∃ request : DecisionRequest, failed (.decide request) ∧ (ApprovalCall.decide request).key = key

structure TrailInv (gateway : ToolGateway) (failed : ApprovalCall → Prop) (w : GatewayWorld) :
    Prop where
  fresh : FreshTrail gateway w
  keyed : ∀ {key stored}, w.governance.approvals.get? key = some stored →
    (stored.tenantId, stored.approvalId) = key
  trail : ∀ key, KeyTrail (OwesDecision failed key) (w.governance.approvals.get? key)
    (w.requestEvents key) (w.decisionEvents key)

theorem EventOf.isAbout_iff {key key' : String × String} {type : String} {types : List String}
    {event : AuditEvent} (h : EventOf key type event) :
    event.isAbout key' types = true ↔ key' = key ∧ type ∈ types := by
  unfold AuditEvent.isAbout
  rw [h.tenant, h.resource, h.type]
  simp only [Bool.and_eq_true, decide_eq_true_eq, List.contains_iff_mem, String.append_right_inj]
  constructor
  · rintro ⟨⟨htenant, hid⟩, htype⟩
    exact ⟨Prod.ext htenant.symm hid.symm, htype⟩
  · rintro ⟨rfl, htype⟩
    exact ⟨⟨rfl, rfl⟩, htype⟩

theorem eventType_mem_decisionEventTypes {status : ApprovalRequestStatus} (h : status ≠ .PENDING) :
    status.eventType ∈ decisionEventTypes := by
  cases status with
  | PENDING => exact absurd rfl h
  | APPROVED | REJECTED | CHANGES_REQUESTED => decide

theorem eventType_ne_requested (status : ApprovalRequestStatus) :
    status.eventType ∉ ["APPROVAL_REQUESTED"] := by
  cases status <;> decide

section

variable {gateway : ToolGateway} {key : String × String} {w w' : GatewayWorld}
  {stored : Option ApprovalRequestRecord} {event : Option AuditEvent}

theorem Trails.requestEvents (h : Trails gateway key stored event w w') (key' : String × String) :
    w'.requestEvents key' = w.requestEvents key' ++
      event.toList.filter (AuditEvent.isAbout key' ["APPROVAL_REQUESTED"]) := by
  rw [GatewayWorld.requestEvents, h.events, List.filter_append]
  rfl

theorem Trails.decisionEvents (h : Trails gateway key stored event w w') (key' : String × String) :
    w'.decisionEvents key' = w.decisionEvents key' ++
      event.toList.filter (AuditEvent.isAbout key' decisionEventTypes) := by
  rw [GatewayWorld.decisionEvents, h.events, List.filter_append]
  rfl

theorem Trails.get? (h : Trails gateway key stored event w w') (key' : String × String) :
    w'.governance.approvals.get? key' =
      if key' = key then stored.orElse fun _ => w.governance.approvals.get? key
      else w.governance.approvals.get? key' := by
  rw [h.approvals]
  cases stored with
  | none =>
    split_ifs with hkey
    · rw [hkey]
      rfl
    · rfl
  | some record => exact Dict.get?_set _ _ _ _

/-- An event of one type is entered once, in its own place. -/
theorem EventOf.filter {type : String} {types : List String} {event : AuditEvent}
    (h : EventOf key type event) (htype : type ∈ types) :
    [event].filter (AuditEvent.isAbout key types) = [event] := by
  rw [List.filter_cons, if_pos (h.isAbout_iff.mpr ⟨rfl, htype⟩), List.filter_nil]

theorem EventOf.filter_ne {key' : String × String} {type : String} {types : List String}
    {event : AuditEvent} (h : EventOf key type event) (hne : key' ≠ key ∨ type ∉ types) :
    [event].filter (AuditEvent.isAbout key' types) = [] := by
  rw [List.filter_cons, if_neg, List.filter_nil]
  intro habout
  obtain ⟨hkey, htype⟩ := h.isAbout_iff.mp habout
  exact hne.elim (fun hne => hne hkey) (fun hne => hne htype)

variable {failed failed' : ApprovalCall → Prop}

/-- The trails of the other approvals stay as they are. -/
theorem TrailInv.of_trails (h : TrailInv gateway failed w)
    (htrails : Trails gateway key stored event w w')
    (hkeyed : ∀ record ∈ stored, (record.tenantId, record.approvalId) = key)
    (hevent : ∀ e ∈ event, ∃ type, EventOf key type e)
    (howes : ∀ key' ≠ key, OwesDecision failed key' → OwesDecision failed' key')
    (hown : KeyTrail (OwesDecision failed' key)
      (stored.orElse fun _ => w.governance.approvals.get? key) (w'.requestEvents key)
      (w'.decisionEvents key)) : TrailInv gateway failed' w' := by
  refine ⟨htrails.fresh, ?_, ?_⟩
  · intro key' record hget
    rw [htrails.get? key'] at hget
    split_ifs at hget with hkey
    · cases stored with
      | none => exact h.keyed (hkey ▸ hget)
      | some record' =>
        cases hget
        rw [hkey]
        exact hkeyed record rfl
    · exact h.keyed hget
  · intro key'
    rw [htrails.get? key']
    split_ifs with hkey
    · rw [hkey]
      exact hown
    · have hfilter : ∀ types, event.toList.filter (AuditEvent.isAbout key' types) = [] := by
        intro types
        cases event with
        | none => rfl
        | some e =>
          obtain ⟨type, he⟩ := hevent e rfl
          exact he.filter_ne (Or.inl hkey)
      rw [htrails.requestEvents, htrails.decisionEvents, hfilter, hfilter, List.append_nil,
        List.append_nil]
      exact (h.trail key').mono (howes key' hkey)

theorem TrailInv.mono (h : TrailInv gateway failed w)
    (howes : ∀ key, OwesDecision failed key → OwesDecision failed' key) :
    TrailInv gateway failed' w :=
  ⟨h.fresh, h.keyed, fun key => (h.trail key).mono (howes key)⟩

/-- An attempt that only idles keeps the trails. -/
theorem TrailInv.idle (h : TrailInv gateway failed w) (htrails : Trails gateway key none none w w')
    (howes : ∀ key, OwesDecision failed key → OwesDecision failed' key) :
    TrailInv gateway failed' w' := by
  refine h.of_trails htrails (fun _ hmem => by cases hmem) (fun _ hmem => by cases hmem)
    (fun key' _ => howes key') ?_
  rw [htrails.requestEvents, htrails.decisionEvents]
  simp only [Option.toList_none, List.filter_nil, List.append_nil]
  exact (h.trail key).mono (howes key)

variable [Sha256]

/-- A careful creation keeps the trails in order. -/
theorem TrailInv.create (h : TrailInv gateway failed w) (request : CreationRequest) (n : Nat)
    (hnew : w.governance.approvals.get? request.body.key = none → n < 3 ∨ 5 ≤ n)
    (hagain : ∀ stored hexpires, w.governance.approvals.get? request.body.key = some stored →
      sameApprovalRequest stored (request.body.record request.identity.subject
        (gateway.runtime.clock w.tick) hexpires) = true →
      stored.requestedAt = gateway.runtime.clock w.tick → n < 5) :
    TrailInv gateway failed ((createApproval gateway request).runFor n w).2 := by
  rcases create_trails h.fresh request n with htrails |
    ⟨stored, event, hexpires, hn, hget, hsame, htime, -, -⟩ |
    ⟨record, hnone, hkey, hpending, ⟨hn, hn'⟩ | ⟨event, hevent, htrails⟩⟩
  · exact h.idle htrails fun _ => id
  · have := hagain stored hexpires hget hsame htime
    omega
  · have := hnew hnone
    omega
  · refine h.of_trails htrails ?_ ?_ (fun _ _ => id) ?_
    · rintro _ ⟨⟩
      exact hkey
    · rintro _ ⟨⟩
      exact ⟨_, hevent⟩
    · have htrail := h.trail request.body.key
      rw [hnone] at htrail
      rw [htrails.requestEvents, htrails.decisionEvents, Option.toList_some,
        hevent.filter (by decide), hevent.filter_ne (Or.inr (by decide))]
      generalize w.requestEvents request.body.key = requests at htrail
      generalize w.decisionEvents request.body.key = decisions at htrail
      cases htrail
      exact .pending hpending

/-- A careful decision keeps the trails in order, if it counts as failed whenever it stores its
decision and does not return. -/
theorem TrailInv.decide (h : TrailInv gateway failed w) (request : DecisionRequest) (n : Nat)
    (hkey : key = (request.identity.tenantId, request.approvalId))
    (honce : ∀ stored, w.governance.approvals.get? key = some stored →
      sameApprovalDecision stored (request.call (gateway.runtime.clock w.tick)) = true →
      w.decisionEvents key ≠ [] → n < 4)
    (hkeep : ∀ call, failed call → (call = .decide request →
      ((decideApprovalRequest gateway request).runFor n w).1.returned = false) → failed' call)
    (hnew : ((decideApprovalRequest gateway request).runFor n w).1.returned = false →
      ((decideApprovalRequest gateway request).runFor n w).2.governance ≠ w.governance →
      failed' (.decide request)) :
    TrailInv gateway failed' ((decideApprovalRequest gateway request).runFor n w).2 := by
  have hothers : ∀ key' ≠ key, OwesDecision failed key' → OwesDecision failed' key' := by
    rintro key' hne ⟨other, hother, rfl⟩
    refine ⟨other, hkeep _ hother ?_, rfl⟩
    rintro ⟨⟩
    exact absurd hkey.symm hne
  have htrail := h.trail key
  rcases decide_trails h.fresh request hkey (fun _ => h.keyed) n with
    ⟨hreturned, htrails⟩ | ⟨current, event, hget, hdecided, hsame, hn, hevent, htrails⟩ |
    ⟨current, updated, hget, hpending, hupdated, hstatus, hdecides,
      ⟨hreturned, htrails⟩ | ⟨event, hevent, htrails⟩⟩
  · refine h.idle htrails fun key' howes => ?_
    obtain ⟨other, hother, rfl⟩ := howes
    exact ⟨other, hkeep _ hother fun _ => hreturned, rfl⟩
  · have hnone : w.decisionEvents key = [] := by
      by_contra hsome
      have := honce current hget hsame hsome
      omega
    have htarget : current.status = request.target := by
      unfold sameApprovalDecision at hsame
      simp only [Bool.and_eq_true, decide_eq_true_eq] at hsame
      exact hsame.1.1.1.1
    rw [hget] at htrail
    refine h.of_trails htrails (fun _ hmem => by cases hmem) ?_ hothers ?_
    · rintro _ ⟨⟩
      exact ⟨_, hevent⟩
    · rw [htrails.requestEvents, htrails.decisionEvents, Option.toList_some,
        hevent.filter (eventType_mem_decisionEventTypes (htarget ▸ hdecided)),
        hevent.filter_ne (Or.inr (eventType_ne_requested _)), hnone, hget, List.append_nil]
      rw [hnone] at htrail
      generalize w.requestEvents key = requests at htrail
      cases htrail with
      | pending hpending => exact absurd hpending hdecided
      | owed _ _ => exact .decided hdecided (by rw [hevent.type, htarget])
  · -- the decision is stored and not audited: from now on its event is owed
    rw [hget] at htrail
    refine h.of_trails htrails ?_ (fun _ hmem => by cases hmem) hothers ?_
    · rintro _ ⟨⟩
      exact hupdated
    · have howed : OwesDecision failed' key := by
        refine ⟨request, hnew hreturned fun heq => ?_, hkey.symm⟩
        have hstored := htrails.get? key
        rw [heq, if_pos rfl, hget] at hstored
        have : current = updated := Option.some.inj hstored
        rw [← this, hpending] at hstatus
        exact hdecides hstatus.symm
      rw [htrails.requestEvents, htrails.decisionEvents]
      simp only [Option.toList_none, List.filter_nil, List.append_nil]
      generalize w.requestEvents key = requests at htrail
      generalize w.decisionEvents key = decisions at htrail
      cases htrail with
      | pending _ => exact .owed (hstatus ▸ hdecides) howed
      | decided hdecided _ => exact absurd hpending hdecided
      | owed hdecided _ => exact absurd hpending hdecided
  · rw [hget] at htrail
    refine h.of_trails htrails ?_ ?_ hothers ?_
    · rintro _ ⟨⟩
      exact hupdated
    · rintro _ ⟨⟩
      exact ⟨_, hevent⟩
    · rw [htrails.requestEvents, htrails.decisionEvents, Option.toList_some,
        hevent.filter (eventType_mem_decisionEventTypes hdecides),
        hevent.filter_ne (Or.inr (eventType_ne_requested _)), List.append_nil]
      generalize w.requestEvents key = requests at htrail
      generalize w.decisionEvents key = decisions at htrail
      cases htrail with
      | pending _ => exact .decided (hstatus ▸ hdecides) (by rw [hevent.type, hstatus])
      | decided hdecided _ => exact absurd hpending hdecided
      | owed hdecided _ => exact absurd hpending hdecided

/-- A careful attempt keeps the trails in order. -/
theorem TrailInv.attempt (h : TrailInv gateway failed w) {attempt : Attempt}
    (hok : attempt.Careful gateway w)
    (hkeep : ∀ call, failed call → (call = attempt.call →
      (attempt.run gateway w).1.returned = false) → failed' call)
    (hnew : (attempt.run gateway w).1.returned = false →
      (attempt.run gateway w).2.governance ≠ w.governance → failed' attempt.call) :
    TrailInv gateway failed' (attempt.run gateway w).2 := by
  obtain ⟨call, actions, changes⟩ := attempt
  have h' : TrailInv gateway failed { w with changes := changes } := ⟨h.fresh, h.keyed, h.trail⟩
  cases call with
  | create request =>
    refine (h'.create request actions hok.1 hok.2).mono ?_
    rintro key ⟨other, hother, hkey⟩
    refine ⟨other, hkeep _ hother ?_, hkey⟩
    rintro ⟨⟩
  | decide request => exact h'.decide request actions rfl hok hkeep hnew

/-- Over every sequence of careful attempts the trails are in order, up to the decisions that have
failed. -/
theorem Attempts.trailInv {start : GatewayWorld} (hstart : start.governance = .empty)
    (h : Attempts gateway (Attempt.Careful gateway) start failed w) : TrailInv gateway failed w := by
  induction h with
  | nil =>
    refine ⟨?_, ?_, fun key => ?_⟩
    · intro entry hmem
      rw [hstart] at hmem
      cases hmem
    · intro key stored hget
      rw [hstart] at hget
      cases hget
    · simp only [GatewayWorld.requestEvents, GatewayWorld.decisionEvents, GatewayWorld.events, hstart]
      exact .absent
  | succeed before attempt hok hreturned ih =>
    refine ih.attempt hok (fun call hfailed hcall => ⟨hfailed, fun heq => ?_⟩) fun hnot => ?_
    · rw [hcall heq] at hreturned
      cases hreturned
    · rw [hnot] at hreturned
      cases hreturned
  | fail before attempt hok hreturned ih =>
    exact ih.attempt hok (fun call hfailed _ => Or.inl hfailed) fun _ hchanged =>
      Or.inr ⟨rfl, hchanged⟩

end

/-- After every sequence of careful attempts in which each request that failed after a write has
been repeated with success, each approval has one event of its request, and one of its decision, if
it has been decided. -/
theorem approvals_audited_once [Sha256] (gateway : ToolGateway) {start w : GatewayWorld}
    {failed : ApprovalCall → Prop} (hstart : start.governance = .empty)
    (h : Attempts gateway (Attempt.Careful gateway) start failed w)
    (hretried : ∀ call, ¬ failed call) : ApprovalsAudited w := by
  intro key stored hget
  have htrail := (h.trailInv hstart).trail key
  rw [hget] at htrail
  generalize w.requestEvents key = requests at htrail ⊢
  generalize w.decisionEvents key = decisions at htrail ⊢
  cases htrail with
  | pending hpending => exact ⟨rfl, fun hdecided => absurd hpending hdecided⟩
  | decided _ htype =>
    refine ⟨rfl, fun _ => ?_⟩
    rw [List.map_cons, List.map_nil, htype]
  | owed _ howed =>
    obtain ⟨request, hfailed, -⟩ := howed
    exact absurd hfailed (hretried _)

/-! ## A decision whose callback fails -/

/-- `ApprovalCallbackDeliveryError()`. -/
def callbackDeliveryError : GatewayError :=
  ⟨"APPROVAL_CALLBACK_UNAVAILABLE", "Approval callback unavailable",
    "The decision was stored, but the durable workflow callback could not be delivered. " ++
    "Retry the identical decision request.", 503⟩

namespace Callback

open Overlap

/-- The coordinator does not answer the first callback. -/
def unreachable : ToolGateway :=
  { gateway with
    notify := fun n _ => if n = 0 then .error (.gateway callbackDeliveryError) else .ok () }

def created : Attempt := ⟨.create Evidence.creation, 5, Evidence.world.changes⟩

def decided : Attempt := ⟨.decide Evidence.decision, 5, Evidence.world.changes⟩

def requested (gateway : ToolGateway) : GatewayWorld := (created.run gateway Evidence.world).2

def once (gateway : ToolGateway) : GatewayWorld := (decided.run gateway (requested gateway)).2

def twice : GatewayWorld := (decided.run unreachable (once unreachable)).2

/-- What the attempts come to, with the types of the events of the decision. -/
theorem outcomes :
    (created.run gateway Evidence.world).1.returned = true ∧
      (decided.run gateway (requested gateway)).1.returned = true ∧
      (created.run unreachable Evidence.world).1.returned = true ∧
      (decided.run unreachable (requested unreachable)).1.returned = false ∧
      (decided.run unreachable (once unreachable)).1.returned = true ∧
      (twice.decisionEvents Evidence.creation.body.key).map AuditEvent.eventType =
        ["APPROVAL_GRANTED", "APPROVAL_GRANTED"] ∧
      (twice.governance.approvals.get? Evidence.creation.body.key).map
        (·.status) = some .APPROVED := by
  decide +kernel

/-- The attempts that store and audit are careful. -/
theorem careful : created.Careful gateway Evidence.world ∧
    decided.Careful gateway (requested gateway) := by
  refine ⟨⟨fun _ => Or.inr le_rfl, fun stored hexpires hget => ?_⟩, fun stored hget hsame hevents => ?_⟩
  · cases hget
  · have hnone : (requested gateway).decisionEvents Evidence.creation.body.key = [] := by
      rw [← List.isEmpty_iff]
      decide +kernel
    exact absurd hnone hevents

end Callback

open Callback Overlap in
/-- The approval is requested and given, each at the first attempt. -/
theorem approvals_audited_once_given : ApprovalsAudited (once Overlap.gateway) := by
  obtain ⟨hcreated, hdecided, -⟩ := outcomes
  have hrequested := Attempts.succeed .nil created careful.1 hcreated
  have hgiven := Attempts.succeed hrequested decided careful.2 hdecided
  exact approvals_audited_once Overlap.gateway rfl hgiven fun call hfailed => hfailed.1.1

open Callback Overlap in
/-- The decision is repeated, as its client was told to, after its callback has failed: its event is
there twice. -/
theorem not_approvals_audited_once :
    ¬ ∀ (gateway : ToolGateway) (start w : GatewayWorld) (failed : ApprovalCall → Prop),
      start.governance = .empty → Attempts gateway (fun _ _ => True) start failed w →
      (∀ call, ¬ failed call) → ApprovalsAudited w := by
  intro hclaim
  obtain ⟨-, -, hcreated, hfailed, hrepeated, hevents, hstatus⟩ := outcomes
  have hrequested : Attempts unreachable (fun _ _ => True) Evidence.world _ _ :=
    .succeed .nil created trivial hcreated
  have honce := Attempts.fail hrequested decided trivial hfailed
  have htwice := Attempts.succeed honce decided trivial hrepeated
  have haudited := hclaim unreachable Evidence.world twice _ rfl htwice ?_
  · obtain ⟨stored, hget, happroved⟩ := Option.map_eq_some_iff.mp hstatus
    have hdecision := (haudited _ _ hget).2 (by rw [happroved]; decide)
    rw [hevents] at hdecision
    have hlength := congrArg List.length hdecision
    simp at hlength
  · rintro call ⟨⟨hnone, -⟩ | ⟨hcall, -⟩, hne⟩
    · exact hnone
    · exact hne hcall

end ChangeOps
