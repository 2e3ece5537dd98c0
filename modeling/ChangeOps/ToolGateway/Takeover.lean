import ChangeOps.Lib.Schedule
import ChangeOps.ToolGateway.Approvals
import ChangeOps.ToolGateway.Executions
import ChangeOps.ToolGateway.HandlerRules

/-!
# ChangeOps.ToolGateway — who may report on an execution

Any number of `evaluate_and_execute` requests for one tenant and idempotency key interleave over
the governance repository; each may stop at any point. A reservation that is older than two
minutes is taken over, and `complete_execution` and `fail_execution` ask only whether the
execution is reserved, not by whom. So the request that was taken over still reports on the
attempt of its successor, unless it is gone by then (`reports_held`).
-/

namespace ChangeOps

open GovernanceRepository

/-! ## Runs -/

/-- The tenant and idempotency key of a request. -/
def ExecutionRequest.key (request : ExecutionRequest) : String × String :=
  (request.intent.tenantId, request.intent.idempotencyKey)

/-- Every report took effect on the attempt that the reporting request had been granted. -/
def ReportsHeld (log : List ExecutionNote) : Prop :=
  ∀ {request key attempt stored}, .reported request key attempt stored ∈ log → attempt = stored

section

variable [Sha256]

/-- The storage key of the execution of an idempotency key. -/
def executionKey (key : String × String) : String × String := (key.1, executionId key)

/-- What else happens: requests for other keys, decisions on approvals, transitions of changes;
and requests end or die. -/
structure OthersAct (key : String × String) (w w' : GatewayWorld) : Prop where
  execution : w'.governance.executions.get? (executionKey key) =
    w.governance.executions.get? (executionKey key)
  executionId : w'.governance.executionIds.get? key = w.governance.executionIds.get? key
  log : w'.log = w.log
  gone : w.gone ⊆ w'.gone

/-- Any interleaving. -/
def anyExecution (key : String × String) : Actor Nat → GatewayWorld → GatewayWorld → Prop
  | .start _, _, _ => True
  | .by _, _, _ => True
  | .env, w, w' => OthersAct key w w'

/-- If a reservation is taken over, then from a request that is gone. -/
def TakesOverGone (key : String × String) (w w' : GatewayWorld) : Prop :=
  ∀ {record record' request}, w.governance.executions.get? (executionKey key) = some record →
    record.status = .RESERVED →
    w'.governance.executions.get? (executionKey key) = some record' →
    record.attemptCount < record'.attemptCount →
    .granted request (executionKey key) record.attemptCount ∈ w.log → request ∈ w.gone

/-- Interleavings in which reservations are taken over only from requests that are gone, which do
not act any more. -/
structure GoneTakeovers (key : String × String) (actor : Actor Nat) (w w' : GatewayWorld) : Prop where
  any : anyExecution key actor w w'
  present : ∀ id, Actor.call? actor = some id → id ∉ w.gone
  takeover : TakesOverGone key w w'

/-- The requests, by their numbers. -/
def handleExecution (gateway : ToolGateway) (requests : Nat → ExecutionRequest) (id : Nat) :
    GatewayAction ToolExecutionResult :=
  evaluateAndExecute gateway id (requests id)

/-! ## The invariant -/

/-- A stored record agrees with the journal. -/
structure HoldsRecord (key : String × String) (log : List ExecutionNote) (gone : List Nat)
    (record : ToolExecutionRecord) : Prop where
  executionId : record.executionId = executionId key
  granted_key : ∀ {request key' attempt}, .granted request key' attempt ∈ log →
    key' = executionKey key
  granted_le : ∀ {request key' attempt}, .granted request key' attempt ∈ log →
    attempt ≤ record.attemptCount
  unique : ∀ {request request' key' attempt}, .granted request key' attempt ∈ log →
    .granted request' key' attempt ∈ log → request = request'
  /-- A request that was granted a reservation holds the current one, or is gone, or has
  reported. -/
  settled : ∀ {request key' attempt}, .granted request key' attempt ∈ log →
    (attempt = record.attemptCount ∧ record.status = .RESERVED) ∨ request ∈ gone ∨
      ∃ stored, .reported request key' attempt stored ∈ log
  reports : ReportsHeld log

/-- The invariant: there is no execution and no entry, or the record agrees with the journal. -/
structure ReservationInv (key : String × String) (w : GatewayWorld) : Prop where
  unlogged : w.governance.executionIds.get? key = none → w.log = []
  stored : ∀ {id}, w.governance.executionIds.get? key = some id → id = executionId key ∧
    ∃ record, w.governance.executions.get? (executionKey key) = some record ∧
      HoldsRecord key w.log w.gone record

namespace HoldsRecord

variable {key : String × String} {log : List ExecutionNote} {gone : List Nat}
  {record : ToolExecutionRecord}

theorem mono {gone' : List Nat} (h : HoldsRecord key log gone record) (hgone : gone ⊆ gone') :
    HoldsRecord key log gone' record where
  executionId := h.executionId
  granted_key := h.granted_key
  granted_le := h.granted_le
  unique := h.unique
  settled hmem := by
    rcases h.settled hmem with hcurrent | hold | hreported
    · exact Or.inl hcurrent
    · exact Or.inr (Or.inl (hgone hold))
    · exact Or.inr (Or.inr hreported)
  reports := h.reports

/-- The first reservation. -/
theorem first (request : Nat) (hid : record.executionId = GovernanceRepository.executionId key)
    (hstatus : record.status = .RESERVED) :
    HoldsRecord key [.granted request (executionKey key) record.attemptCount] gone record := by
  have hmem : ∀ {request' key' attempt}, ExecutionNote.granted request' key' attempt ∈
      [ExecutionNote.granted request (executionKey key) record.attemptCount] →
      request' = request ∧ key' = executionKey key ∧ attempt = record.attemptCount := by
    intro request' key' attempt h
    simpa using h
  constructor
  case executionId => exact hid
  case granted_key =>
    intro _ _ _ h
    exact (hmem h).2.1
  case granted_le =>
    intro _ _ _ h
    exact Nat.le_of_eq (hmem h).2.2
  case unique =>
    intro _ _ _ _ h h'
    exact (hmem h).1.trans (hmem h').1.symm
  case settled =>
    intro _ _ _ h
    exact Or.inl ⟨(hmem h).2.2, hstatus⟩
  case reports =>
    intro _ _ _ _ h
    cases List.mem_singleton.mp h

/-- A further reservation: the request that held the current one is gone, or has reported. -/
theorem next (h : HoldsRecord key log gone record) (request : Nat)
    {record' : ToolExecutionRecord} (hid : record'.executionId = record.executionId)
    (hattempt : record'.attemptCount = record.attemptCount + 1) (hstatus : record'.status = .RESERVED)
    (hgone : record.status = .RESERVED → ∀ {request'},
      .granted request' (executionKey key) record.attemptCount ∈ log → request' ∈ gone) :
    HoldsRecord key (.granted request (executionKey key) record'.attemptCount :: log) gone record' := by
  have hlt : ∀ {request' key'},
      ExecutionNote.granted request' key' record'.attemptCount ∉ log := by
    intro request' key' hmem
    have hle := h.granted_le hmem
    omega
  constructor
  case executionId => exact hid.trans h.executionId
  case granted_key =>
    intro request' key' attempt hmem
    rcases List.mem_cons.mp hmem with heq | hmem
    · cases heq
      rfl
    · exact h.granted_key hmem
  case granted_le =>
    intro request' key' attempt hmem
    rcases List.mem_cons.mp hmem with heq | hmem
    · cases heq
      exact Nat.le_refl _
    · have hle := h.granted_le hmem
      omega
  case unique =>
    intro request₁ request₂ key' attempt hmem₁ hmem₂
    rcases List.mem_cons.mp hmem₁ with heq₁ | hmem₁ <;>
      rcases List.mem_cons.mp hmem₂ with heq₂ | hmem₂
    · cases heq₁
      cases heq₂
      rfl
    · cases heq₁
      exact absurd hmem₂ hlt
    · cases heq₂
      exact absurd hmem₁ hlt
    · exact h.unique hmem₁ hmem₂
  case settled =>
    intro request' key' attempt hmem
    rcases List.mem_cons.mp hmem with heq | hmem
    · cases heq
      exact Or.inl ⟨rfl, hstatus⟩
    · refine Or.inr ?_
      rcases h.settled hmem with ⟨rfl, hreserved⟩ | hold | ⟨stored, hreported⟩
      · obtain rfl := h.granted_key hmem
        exact Or.inl (hgone hreserved hmem)
      · exact Or.inl hold
      · exact Or.inr ⟨stored, List.mem_cons_of_mem _ hreported⟩
  case reports =>
    intro request' key' attempt stored hmem
    rcases List.mem_cons.mp hmem with heq | hmem
    · cases heq
    · exact h.reports hmem

/-- A report by a request that is not gone and has not reported before: it holds the current
reservation. -/
theorem report (h : HoldsRecord key log gone record) {request attempt : Nat}
    (hgranted : .granted request (executionKey key) attempt ∈ log) (hpresent : request ∉ gone)
    (hsilent : ∀ {key' attempt' stored}, .reported request key' attempt' stored ∉ log)
    {record' : ToolExecutionRecord} (hid : record'.executionId = record.executionId)
    (hattempt : record'.attemptCount = record.attemptCount) :
    HoldsRecord key (.reported request (executionKey key) attempt record'.attemptCount :: log) gone
      record' := by
  have hcurrent : attempt = record.attemptCount := by
    rcases h.settled hgranted with ⟨heq, -⟩ | hold | ⟨stored, hreported⟩
    · exact heq
    · exact absurd hold hpresent
    · exact absurd hreported hsilent
  have hmem : ∀ {request' key' attempt'},
      ExecutionNote.granted request' key' attempt' ∈
        ExecutionNote.reported request (executionKey key) attempt record'.attemptCount :: log →
      ExecutionNote.granted request' key' attempt' ∈ log := by
    intro request' key' attempt' hmem
    rcases List.mem_cons.mp hmem with heq | hmem
    · cases heq
    · exact hmem
  constructor
  case executionId => exact hid.trans h.executionId
  case granted_key =>
    intro _ _ _ hg
    exact h.granted_key (hmem hg)
  case granted_le =>
    intro _ _ _ hg
    rw [hattempt]
    exact h.granted_le (hmem hg)
  case unique =>
    intro _ _ _ _ hg hg'
    exact h.unique (hmem hg) (hmem hg')
  case settled =>
    intro request' key' attempt' hg
    rcases h.settled (hmem hg) with ⟨rfl, -⟩ | hold | ⟨stored, hreported⟩
    · -- this is the reservation that is reported on
      obtain rfl := h.granted_key (hmem hg)
      rw [hcurrent] at hgranted ⊢
      obtain rfl := h.unique (hmem hg) hgranted
      exact Or.inr (Or.inr ⟨_, List.mem_cons_self⟩)
    · exact Or.inr (Or.inl hold)
    · exact Or.inr (Or.inr ⟨stored, List.mem_cons_of_mem _ hreported⟩)
  case reports =>
    intro request' key' attempt' stored hr
    rcases List.mem_cons.mp hr with heq | hr
    · cases heq
      exact hcurrent.trans hattempt.symm
    · exact h.reports hr

end HoldsRecord

/-! ## What requests rely on and guarantee -/

/-- Nobody else makes entries about the request. -/
def journalRely (id : Nat) : Rely GatewayWorld where
  rel w w' := ∀ note : ExecutionNote, note.request = id → (note ∈ w'.log ↔ note ∈ w.log)
  refl _ _ _ := Iff.rfl
  trans hab hbc note hnote := (hbc note hnote).trans (hab note hnote)

structure ExecutionGuarantee (key : String × String) (id : Nat) (w w' : GatewayWorld) : Prop where
  inv : id ∉ w.gone → TakesOverGone key w w' → ReservationInv key w → ReservationInv key w'
  others : ∀ note : ExecutionNote, note.request ≠ id → (note ∈ w'.log ↔ note ∈ w.log)

/-- The request has made no entry. -/
def HasNoNote (id : Nat) (w : GatewayWorld) : Prop := ∀ note ∈ w.log, note.request ≠ id

/-- The request was granted the reservation `held` and has not reported on it. -/
structure HoldsReservation (id : Nat) (tenantId : String) (held : ToolExecutionRecord)
    (w : GatewayWorld) : Prop where
  granted : .granted id (tenantId, held.executionId) held.attemptCount ∈ w.log
  silent : ∀ {key attempt stored}, .reported id key attempt stored ∉ w.log

/-- A property of the entries about a request. -/
def OwnNotes (id : Nat) (P : GatewayWorld → Prop) : Prop :=
  ∀ {w w'}, P w → journalRely id w w' → P w'

omit [Sha256] in
theorem hasNoNote_own (id : Nat) : OwnNotes id (HasNoNote id) := by
  intro w w' h hrely note hmem heq
  exact h note ((hrely note heq).mp hmem) heq

omit [Sha256] in
theorem holdsReservation_own (id : Nat) (tenantId : String) (held : ToolExecutionRecord) :
    OwnNotes id (HoldsReservation id tenantId held) := by
  intro w w' h hrely
  exact ⟨(hrely _ rfl).mpr h.granted, fun hmem => h.silent ((hrely _ rfl).mp hmem)⟩

omit [Sha256] in
theorem true_own (id : Nat) : OwnNotes id fun _ => True := fun _ _ => trivial

variable {key : String × String} {id : Nat}

/-- An action that leaves executions and journal alone. -/
theorem guarantee_execution_idle {w w' : GatewayWorld}
    (hexecutions : w'.governance.executions = w.governance.executions)
    (hids : w'.governance.executionIds = w.governance.executionIds) (hlog : w'.log = w.log)
    (hgone : w'.gone = w.gone) : ExecutionGuarantee key id w w' where
  inv _ _ hinv :=
    { unlogged := by
        rw [hids, hlog]
        exact hinv.unlogged
      stored := by
        rw [hids, hlog, hgone, hexecutions]
        exact hinv.stored }
  others _ _ := by rw [hlog]

/-- The triple of a part of the handler. -/
abbrev Executes {α : Type} (key : String × String) (id : Nat)
    (Q : Except GatewayExn α → GatewayWorld → Prop) (p : GatewayAction α) (w : GatewayWorld) : Prop :=
  p.RG (journalRely id) (ExecutionGuarantee key id) Q w

namespace Executes

variable {α : Type} {P : GatewayWorld → Prop} {w : GatewayWorld}

/-- An action that leaves executions and journal alone keeps what the entries say. -/
theorem idle {f : GatewayWorld → Except GatewayExn α × GatewayWorld}
    (hexecutions : ∀ w, (f w).2.governance = w.governance) (hlog : ∀ w, (f w).2.log = w.log)
    (hgone : ∀ w, (f w).2.gone = w.gone) (hP : OwnNotes id P) (hw : P w) :
    Executes key id (fun _ t => P t) (.atomic f) w := by
  refine Prog.RG.atomic fun t ht => ⟨?_, fun t' ht' => ?_⟩
  · exact guarantee_execution_idle (by rw [hexecutions]) (by rw [hexecutions]) (hlog t) (hgone t)
  · exact hP (hP (hP hw ht) fun _ _ => by rw [hlog]) ht'

theorem bystand {p : GatewayAction α} (hp : Bystands p) (hP : OwnNotes id P) (hw : P w) :
    Executes key id (fun _ t => P t) p w :=
  hp.keeps (fun h => guarantee_execution_idle h.executions h.executionIds h.log h.gone) hP
    (fun ht h => hP ht fun _ _ => by rw [h.log]) hw

theorem executeTool (gateway : ToolGateway) (request : ExecutionRequest)
    (registration : ToolRegistration) (arguments : FieldPatchArguments) (hP : OwnNotes id P)
    (hw : P w) :
    Executes key id (fun _ t => P t) (executeTool gateway id request registration arguments) w := by
  unfold ChangeOps.executeTool
  split
  · exact bystand (Bystands.raise _) hP hw
  · refine (idle (fun _ => rfl) (fun _ => rfl) (fun _ => rfl) hP hw).bind ?_ fun _ _ ht => ht
    intro call t ht
    exact bystand (Bystands.read _) hP ht

end Executes

/-! ## The triples of reservations and reports -/

/-- The reservation that calls for a report. -/
def QuotaOutcome.held? : QuotaOutcome → Option ToolExecutionRecord
  | .replayed _ => none
  | .executed held _ => some held
  | .adapterFailed held _ _ _ => some held

/-- A write at the execution's key with the entry that belongs to it. -/
theorem guarantee_execution_write {w w' : GatewayWorld} {note : ExecutionNote}
    (hnote : note.request = id) (hlog : w'.log = note :: w.log) (hgone : w'.gone = w.gone)
    (hwrite : id ∉ w.gone → TakesOverGone key w w' → ReservationInv key w →
      w'.governance.executionIds.get? key = some (executionId key) ∧
        ∃ record, w'.governance.executions.get? (executionKey key) = some record ∧
          HoldsRecord key (note :: w.log) w.gone record) :
    ExecutionGuarantee key id w w' where
  inv hpresent htake hinv := by
    obtain ⟨hids, hrecord⟩ := hwrite hpresent htake hinv
    constructor
    · intro hnone
      rw [hids] at hnone
      cases hnone
    · intro id' hid'
      rw [hids] at hid'
      cases hid'
      rw [hlog, hgone]
      exact ⟨rfl, hrecord⟩
  others note' hne := by
    rw [hlog, List.mem_cons]
    constructor
    · rintro (rfl | hmem)
      · exact absurd hnote hne
      · exact hmem
    · exact Or.inr

namespace Executes

/-- A reservation that is returned is granted to this request, or is a stored result. -/
theorem reserve {call : ReserveCall} (hkey : call.key = key) {w : GatewayWorld}
    (hw : HasNoNote id w) :
    Executes key id
      (fun r t => ∀ reservation, r = .ok reservation →
        (reservation.replayed = false → HoldsReservation id call.intent.tenantId reservation.record t))
      (reserveAction id call) w := by
  subst hkey
  refine Prog.RG.atomic fun t ht => ?_
  have hno := hasNoNote_own id hw ht
  have hidle : ExecutionGuarantee call.key id t t := guarantee_execution_idle rfl rfl rfl rfl
  -- what the request knows once its grant is entered
  have hholds : ∀ {reservation : ToolExecutionRecord} {t₁ t' : GatewayWorld},
      t₁.log = .granted id (call.intent.tenantId, reservation.executionId) reservation.attemptCount
        :: t.log → journalRely id t₁ t' → HoldsReservation id call.intent.tenantId reservation t' := by
    intro reservation t₁ t' hlog ht'
    refine holdsReservation_own id _ _ ⟨?_, ?_⟩ ht'
    · rw [hlog]
      exact List.mem_cons_self
    intro key' attempt stored hmem
    rw [hlog] at hmem
    rcases List.mem_cons.mp hmem with heq | hmem
    · cases heq
    · exact hno _ hmem rfl
  rcases reserveExecution_cases call t.governance with ⟨e, heq⟩ |
    ⟨_, existing, -, -, -, -, -, heq⟩ | ⟨existingId, existing, hid, hget, -, hstatus, -, heq⟩ |
    ⟨inputHash, hid, -, heq⟩
  · simp only [heq]
    exact ⟨hidle, fun _ _ _ h => by cases h⟩
  · simp only [heq]
    refine ⟨guarantee_execution_idle rfl rfl rfl rfl, ?_⟩
    rintro t' - _ ⟨⟩ hreplayed
    cases hreplayed
  · simp only [heq]
    refine ⟨?_, ?_⟩
    · refine guarantee_execution_write rfl rfl rfl fun _ htake hinv => ?_
      obtain ⟨rfl, record, hrecord, hagrees⟩ := hinv.stored hid
      obtain rfl : existing = record := Option.some.inj (hget.symm.trans hrecord)
      have hset : (t.governance.executions.set (executionKey call.key)
          (existing.attemptedAgain call.intent call.decision.decisionId call.approvalId
            call.now)).get? (executionKey call.key) = some (existing.attemptedAgain call.intent
              call.decision.decisionId call.approvalId call.now) := Dict.get?_set_self _ _ _
      have hkey : (call.intent.tenantId, (existing.attemptedAgain call.intent
          call.decision.decisionId call.approvalId call.now).executionId) = executionKey call.key :=
        congrArg (Prod.mk call.intent.tenantId) hagrees.executionId
      refine ⟨hid, _, hset, ?_⟩
      rw [hkey]
      -- the write is the takeover that the condition is about
      exact hagrees.next id rfl rfl rfl fun hreserved =>
        htake hrecord hreserved hset (Nat.lt_succ_self _)
    · rintro t' ht' _ ⟨⟩ -
      exact hholds rfl ht'
  · simp only [heq]
    refine ⟨?_, ?_⟩
    · refine guarantee_execution_write rfl rfl rfl fun _ _ hinv => ?_
      refine ⟨Dict.get?_set_self _ _ _, _, Dict.get?_set_self _ _ _, ?_⟩
      rw [hinv.unlogged hid]
      exact .first id rfl rfl
    · rintro t' ht' _ ⟨⟩ -
      exact hholds rfl ht'

/-- The request that holds a reservation reports on it. -/
theorem report {intent : ToolIntent} {held : ToolExecutionRecord} (outcome : ExecutionReport)
    {w : GatewayWorld} (hw : HoldsReservation id intent.tenantId held w) :
    Executes key id (fun _ _ => True) (reportAction id intent held outcome) w := by
  refine Prog.RG.atomic fun t ht => ⟨?_, fun _ _ => trivial⟩
  have hholds := holdsReservation_own id _ _ hw ht
  rcases reportExecution_cases intent.tenantId intent.changeId held.executionId outcome
    t.governance with ⟨e, heq⟩ | ⟨current, hreserved, updated, hget, -, hreported, heq⟩
  · simp only [heq]
    exact guarantee_execution_idle rfl rfl rfl rfl
  · simp only [heq]
    obtain ⟨hsame, hattempt⟩ := sameExecution_reported hreported
    refine guarantee_execution_write rfl rfl rfl fun hpresent _ hinv => ?_
    -- the journal is not empty, so there is an execution
    cases hid : t.governance.executionIds.get? key with
    | none =>
      have hgranted := hholds.granted
      rw [hinv.unlogged hid] at hgranted
      cases hgranted
    | some executionId' =>
      obtain ⟨rfl, record, hrecord, hagrees⟩ := hinv.stored hid
      have hkey := hagrees.granted_key hholds.granted
      have hgranted := hholds.granted
      rw [hkey] at hget hgranted ⊢
      obtain rfl : current = record := Option.some.inj (hget.symm.trans hrecord)
      refine ⟨rfl, updated, Dict.get?_set_self _ _ _, ?_⟩
      exact hagrees.report hgranted hpresent hholds.silent hsame.executionId hattempt

/-- The block under the quota: an outcome that calls for a report comes with a reservation. -/
theorem reserveAndExecute (gateway : ToolGateway) {request : ExecutionRequest}
    (hkey : request.key = key) (registration : ToolRegistration) (arguments : FieldPatchArguments)
    (decision : PolicyDecision) (approval : Option Approval) {w : GatewayWorld}
    (hw : HasNoNote id w) :
    Executes key id
      (fun r t => ∀ outcome, r = .ok outcome → ∀ held ∈ outcome.held?,
        HoldsReservation id request.intent.tenantId held t)
      (reserveAndExecute gateway id request registration arguments decision approval) w := by
  unfold ChangeOps.reserveAndExecute
  refine (bystand (Bystands.gatewayNow gateway) (hasNoNote_own id) hw).bind ?_ (by simp)
  intro now t ht
  refine (reserve (by exact hkey) ht).bind ?_ (by simp)
  intro reservation t hreserved
  have hreserved := hreserved reservation rfl
  cases hreplayed : reservation.replayed with
  | true =>
    simp only [if_true]
    refine (bystand (Bystands.replay gateway request decision reservation.record) (true_own id)
      trivial).bind ?_ (by simp)
    intro result t _ t' _ outcome houtcome held hheld
    cases houtcome
    cases hheld
  | false =>
    simp only [if_false, Bool.false_eq_true]
    have hholds := hreserved hreplayed
    refine (executeTool gateway request registration arguments (holdsReservation_own id _ _)
      hholds).andThen ?_
    intro result t ht
    have hend : ∀ outcome : QuotaOutcome, outcome.held? = some reservation.record →
        Executes key id (fun r t => ∀ outcome, r = .ok outcome → ∀ held ∈ outcome.held?,
          HoldsReservation id request.intent.tenantId held t) (.ret outcome) t := by
      rintro outcome hheld t' ht' _ ⟨⟩ held hmem
      rw [hheld] at hmem
      cases hmem
      exact holdsReservation_own id _ _ ht ht'
    cases result with
    | ok output => exact hend _ rfl
    | error error =>
      cases error with
      | adapter code detail transient => exact hend _ rfl
      | gateway error => exact fun _ _ _ h => by cases h
      | raised error => exact fun _ _ _ h => by cases h

/-- A part of the handler that needs a reservation only where it reports. -/
theorem withQuota (gateway : ToolGateway) (quota : String × String) {body : GatewayAction QuotaOutcome}
    {Q : Except GatewayExn QuotaOutcome → GatewayWorld → Prop}
    (hQ : ∀ r, OwnNotes id (Q r)) (herror : ∀ e t, Q (.error e) t)
    (hbody : ∀ {t}, HasNoNote id t → Executes key id Q body t) {w : GatewayWorld}
    (hw : HasNoNote id w) : Executes key id Q (withQuota gateway quota body) w := by
  refine (bystand (Bystands.acquireQuota gateway quota) (hasNoNote_own id) hw).bind ?_
    fun e t _ => herror e t
  intro _ t ht
  refine (hbody ht).andThen ?_
  intro r t ht
  refine (bystand (Bystands.releaseQuota quota) (hQ r) ht).bind ?_ fun e t _ => herror e t
  intro _ t ht
  exact Prog.RG.ofExcept fun t' ht' => hQ r ht ht'

theorem reportOutcome (gateway : ToolGateway) (request : ExecutionRequest)
    (decision : PolicyDecision) {outcome : QuotaOutcome} {w : GatewayWorld}
    (hw : ∀ held ∈ outcome.held?, HoldsReservation id request.intent.tenantId held w) :
    Executes key id (fun _ _ => True) (reportOutcome gateway id request decision outcome) w := by
  have hrest : ∀ {α : Type} {p : GatewayAction α} {t}, Bystands p →
      Executes key id (fun _ _ => True) p t := fun hp => bystand hp (true_own id) trivial
  cases outcome with
  | replayed result => exact hrest (Bystands.ret result)
  | executed held output =>
    have hholds := hw held rfl
    refine (bystand (Bystands.gatewayNow gateway) (holdsReservation_own id _ _) hholds).bind ?_
      fun _ _ _ => trivial
    intro completedAt t ht
    refine (report _ ht).bind ?_ fun _ _ _ => trivial
    intro completed t _
    refine hrest (Bystands.bind (Bystands.auditTool _ _ _ _ _ _ _ _) fun _ => ?_)
    split
    · exact Bystands.ret _
    · exact Bystands.raise _
  | adapterFailed held code detail transient =>
    have hholds := hw held rfl
    refine (bystand (Bystands.gatewayNow gateway) (holdsReservation_own id _ _) hholds).bind ?_
      fun _ _ _ => trivial
    intro failedAt t ht
    refine (report _ ht).bind ?_ fun _ _ _ => trivial
    intro _ t _
    exact hrest (Bystands.bind (Bystands.auditTool _ _ _ _ _ _ _ _) fun _ => Bystands.raise _)

/-- **The handler.** A request that has made no entry yet keeps the guarantee throughout. -/
theorem evaluateAndExecute (gateway : ToolGateway) {request : ExecutionRequest}
    (hkey : request.key = key) {w : GatewayWorld} (hw : HasNoNote id w) :
    Executes key id (fun _ _ => True) (evaluateAndExecute gateway id request) w := by
  unfold ChangeOps.evaluateAndExecute
  dsimp only
  split_ifs
  · exact fun _ _ => trivial
  · exact fun _ _ => trivial
  · split
    · exact bystand (Bystands.refuse _ _ _ _ _ _) (true_own id) trivial
    next registration _ =>
      split
      · exact bystand (Bystands.refuse _ _ _ _ _ _) (true_own id) trivial
      next arguments _ =>
        refine (idle (fun _ => rfl) (fun _ => rfl) (fun _ => rfl) (hasNoNote_own id) hw).bind ?_
          fun _ _ _ => trivial
        intro change t ht
        refine (bystand (Bystands.evaluatePolicy gateway request registration change)
          (hasNoNote_own id) ht).bind ?_ fun _ _ _ => trivial
        rintro ⟨decision, approval⟩ t ht
        refine (withQuota gateway _ ?_ (by simp) (fun ht => reserveAndExecute gateway hkey registration
          arguments decision approval ht) ht).bind ?_ fun _ _ _ => trivial
        · intro r w w' h hrely outcome hr held hheld
          exact holdsReservation_own id _ _ (h outcome hr held hheld) hrely
        · intro outcome t ht
          exact reportOutcome gateway request decision (ht outcome rfl)

end Executes

/-! ## Every interleaving -/

theorem apart_handleExecution (gateway : ToolGateway) {requests : Nat → ExecutionRequest}
    (hkey : ∀ id, (requests id).key = key) :
    Pool.Apart (handleExecution gateway requests) (GoneTakeovers key) journalRely
      (ExecutionGuarantee key) (fun _ _ _ => True) (ReservationInv key) HasNoNote where
  guarantee actor id id' w w' _ hne _ hg note hnote := hg.others note fun heq => hne (hnote ▸ heq)
  environment id w w' hok note _ := by rw [OthersAct.log hok.any]
  invariant actor id w w' hcall hok hinv hg := hg.inv (hok.present id hcall) hok.takeover hinv
  invariant_env w w' hok hinv := by
    have hothers : OthersAct key w w' := hok.any
    constructor
    · rw [hothers.executionId, hothers.log]
      exact hinv.unlogged
    · intro id hid
      rw [hothers.executionId] at hid
      obtain ⟨hid, record, hrecord, hagrees⟩ := hinv.stored hid
      rw [hothers.execution, hothers.log]
      exact ⟨hid, record, hrecord, hagrees.mono hothers.gone⟩
  stable id w w' h hrely := hasNoNote_own id h hrely
  triple id w w' h _ := (Executes.evaluateAndExecute gateway (hkey id) h).start

/-- In every interleaving of requests for one key, none of them numbered twice, in which a
reservation is taken over only from a request that is gone, every report took effect on the
attempt that the reporting request had been granted. -/
theorem reportsHeld_of_goneTakeovers (gateway : ToolGateway) (requests : Nat → ExecutionRequest)
    (key : String × String) (hkey : ∀ id, (requests id).key = key) (w : GatewayWorld)
    (hnew : w.governance.executionIds.get? key = none) (hlog : w.log = [])
    {P : Pool Nat GatewayWorld GatewayExn ToolExecutionResult}
    (hrun : Pool.Reach (handleExecution gateway requests) (GoneTakeovers key) (.idle w) P)
    (hnodup : P.calls.Nodup) : ReportsHeld P.state.log := by
  have hinv : ReservationInv key w := by
    refine ⟨fun _ => hlog, fun hid => ?_⟩
    rw [hnew] at hid
    cases hid
  have hothers : ∀ id, HasNoNote id w := by
    intro id note hmem
    rw [hlog] at hmem
    cases hmem
  have hholds := ((apart_handleExecution gateway hkey).holds hinv hothers hrun hnodup).inv
  cases hid : P.state.governance.executionIds.get? key with
  | none =>
    intro _ _ _ _ hmem
    rw [hholds.unlogged hid] at hmem
    cases hmem
  | some id =>
    obtain ⟨-, record, -, hrecord⟩ := hholds.stored hid
    intro _ _ _ _ hmem
    exact hrecord.reports hmem

end

/-! ## Two requests

Request 0 reserves the action and calls the tool. Minutes later request 1 finds the reservation
old and takes it over. Either request 0 is gone by then, or its tool answers after all. -/

namespace Overlap

/-- Digests of the right form. With SHA-256 the schedules below would take minutes to evaluate. -/
scoped instance digests : Sha256 := ⟨fun _ => String.ofList (List.replicate 64 '0')⟩

def intent : ToolIntent :=
  { Demo.toolIntent with
    planHash := calculatePlanHash Demo.gatewayPlan
    arguments := Demo.gatewayStep.arguments }

theorem decision_checked : nonEmptyStrOrNone (some "user_approver") = .ok (some "user_approver") ∧
    nonEmptyStrOrNone (some "Approved.") = .ok (some "Approved.") := by
  unfold nonEmptyStrOrNone nonEmptyStr stripWhitespace
  decide

def approval : ApprovalRequestRecord where
  approvalId := "approval_001"
  tenantId := "tenant_demo"
  changeId := "chg_001"
  planId := "plan_001"
  planHash := calculatePlanHash Demo.gatewayPlan
  planVersion := 1
  environment := .SANDBOX
  scope := ["step_crm"]
  status := .APPROVED
  requestedBy := "workflow-coordinator"
  requestedAt := 0
  expiresAt := Time.minutes 60
  decidedBy := some "user_approver"
  decidedByRoles := [.APPROVER]
  decidedAt := some 0
  comment := some "Approved."
  version := 2
  decided_by_checked := decision_checked.1
  comment_checked := decision_checked.2
  lifecycle := by decide

def change : ChangeRecord :=
  { Demo.change with
    status := .EXECUTING
    currentPhase := .EXECUTING
    planHash := some (calculatePlanHash Demo.gatewayPlan)
    phase_eq := rfl }

theorem agent_kind : IdentityKind.AGENT = .USER ∨ ([] : List UserRole) = [] := .inr rfl

def identity : VerifiedIdentity where
  subject := "crm"
  tenantId := "tenant_demo"
  kind := .AGENT
  roles := []
  issuedAt := 0
  expiresAt := Time.minutes 60
  issued_lt_expires := by decide
  nodup_roles := List.nodup_nil
  roles_of_user := agent_kind

def request : ExecutionRequest := ⟨identity, intent, some "approval_001", "req_001"⟩

def key : String × String := ("tenant_demo", "key_crm")

theorem minutes_mono {m n : Nat} (h : m ≤ n) : Time.minutes m ≤ Time.minutes n :=
  Nat.mul_le_mul_right _ (Nat.mul_le_mul_right _ h)

theorem replicate_injective {m n : Nat} (h : String.ofList (List.replicate m 'a') =
    String.ofList (List.replicate n 'a')) : m = n := by
  simpa using congrArg String.length h

/-- A gateway whose clock ticks in minutes, before a system that applies every patch. -/
def gateway : ToolGateway where
  runtime :=
    { clock := Time.minutes
      uuid4 := fun n => String.ofList (List.replicate n 'a')
      clock_mono := minutes_mono
      uuid4_injective := replicate_injective }
  registry := defaultTools
  maximumConcurrentPerTool := 4
  patch := fun _ call => .response 200 (some
    { systemId := "crm"
      fieldName := "customer_field"
      before := call.oldField
      after := call.newField
      idempotencyKey := call.idempotencyKey
      configurationHash := "sha256:" ++ String.ofList (List.replicate 64 '0')
      replayed := false })
  notify := fun _ _ => .ok ()

/-- The plan is approved and the change is executing. -/
def world : GatewayWorld where
  governance :=
    { GovernanceRepository.empty with
      plans := Dict.empty.set ("tenant_demo", "chg_001", "plan_001") Demo.gatewayPlan
      approvals := Dict.empty.set ("tenant_demo", "approval_001") approval }
  changes := InMemoryChangeStateRepository.empty.put change
  active := .empty
  tick := 0
  uuid := 0
  patches := 0
  callbacks := 0
  log := []
  reading := []
  deciders := []
  reservations := []
  gone := []

abbrev OverlapPool := Pool Nat GatewayWorld GatewayExn ToolExecutionResult

def handle : Nat → GatewayAction ToolExecutionResult := handleExecution gateway fun _ => request

/-- A request up to the call of the tool. -/
def reserves (id : Nat) : List (Turn Nat) := .start id :: List.replicate 9 (.move id false)

/-- Its answer, and the report. -/
def answers (id : Nat) : List (Turn Nat) := List.replicate 5 (.move id false)

def overlapped : OverlapPool :=
  Pool.play handle (.idle world) (reserves 0 ++ reserves 1 ++ answers 0)

/-- The entries without the storage key. -/
def entries (w : GatewayWorld) : List (Nat × Nat × Option Nat) :=
  w.log.map fun
    | .granted request _ attempt => (request, attempt, none)
    | .reported request _ attempt stored => (request, attempt, some stored)

theorem overlapped_eq : (entries overlapped.state, overlapped.calls) =
    ([(0, 1, some 2), (1, 2, none), (0, 1, none)], [0, 1]) := by
  decide +kernel

/-- The conditions of `GoneTakeovers` on an action. -/
def check (id : Nat) (w w' : GatewayWorld) : Bool :=
  !w.gone.contains id &&
    match w.governance.executions.get? (executionKey key),
      w'.governance.executions.get? (executionKey key) with
    | some record, some record' =>
        record.status ≠ .RESERVED || record'.attemptCount ≤ record.attemptCount ||
          w.log.all fun
            | .granted request _ _ => w.gone.contains request
            | .reported _ _ _ _ => true
    | _, _ => true

theorem goneTakeovers_of_check (actor : Actor Nat) (id : Nat) (w w' : GatewayWorld)
    (hcall : Actor.call? actor = some id) (hcheck : check id w w' = true) :
    GoneTakeovers key actor w w' := by
  rw [check, Bool.and_eq_true, Bool.not_eq_true', List.contains_eq_mem, decide_eq_false_iff_not]
    at hcheck
  constructor
  case any =>
    cases actor with
    | start => trivial
    | «by» => trivial
    | env => cases hcall
  case present =>
    intro id' hcall'
    rw [hcall] at hcall'
    cases hcall'
    exact hcheck.1
  case takeover =>
    intro record record' request hrecord hreserved hrecord' hlt hmem
    have hall := hcheck.2
    rw [hrecord, hrecord'] at hall
    simp only [hreserved, ne_eq, not_true_eq_false, decide_false, Bool.false_or,
      Nat.not_le.mpr hlt, List.all_eq_true] at hall
    simpa using hall _ hmem

/-- A request dies. -/
def without (id : Nat) (P : OverlapPool) : OverlapPool :=
  ⟨P.threads, { P.state with gone := id :: P.state.gone }⟩

theorem reach_without (id : Nat) (P : OverlapPool) :
    Pool.Reach handle (GoneTakeovers key) P (without id P) := by
  have hstep : Pool.Step handle P .env (without id P) := .env P.threads P.state _
  refine .tail (.refl P) hstep ⟨⟨rfl, rfl, rfl, List.subset_cons_self _ _⟩, ?_, ?_⟩
  · intro id' hcall
    cases hcall
  · intro record record' request hrecord _ hrecord' hlt
    obtain rfl : record = record' := Option.some.inj (hrecord.symm.trans hrecord')
    exact absurd hlt (Nat.lt_irrefl _)

/-- Request 0 dies after the call of the tool. -/
def abandoned : OverlapPool := without 0 (Pool.play handle (.idle world) (reserves 0))

/-- Then request 1 takes over and reports. -/
def takenOver : OverlapPool := Pool.play handle abandoned (reserves 1 ++ answers 1)

/-- Every turn passes the check. -/
def passes : Bool :=
  Pool.passes handle check (.idle world) (reserves 0) &&
    Pool.passes handle check abandoned (reserves 1 ++ answers 1)

theorem takenOver_eq : (passes, entries takenOver.state, takenOver.calls) =
    (true, [(1, 2, some 2), (1, 2, none), (0, 1, none)], [0, 1]) := by
  decide +kernel

theorem reach_takenOver : Pool.Reach handle (GoneTakeovers key) (.idle world) takenOver := by
  obtain ⟨hpasses, -⟩ := Prod.mk.inj takenOver_eq
  rw [passes, Bool.and_eq_true] at hpasses
  have hbefore := Pool.reach_play_of_passes goneTakeovers_of_check _ _ hpasses.1
  have hafter := Pool.reach_play_of_passes goneTakeovers_of_check _ _ hpasses.2
  exact (hbefore.trans (reach_without 0 _)).trans hafter

end Overlap

open scoped Overlap

open Overlap

/-- The takeover of a request that died: its successor reports on its own attempt. -/
theorem reportsHeld_of_goneTakeovers_demo : ReportsHeld takenOver.state.log :=
  reportsHeld_of_goneTakeovers gateway (fun _ => request) key (fun _ => rfl) world rfl rfl
    reach_takenOver (by rw [(Prod.mk.inj (Prod.mk.inj takenOver_eq).2).2]; decide)

/-- Request 0 completes the second attempt, which is not its own. -/
theorem not_reportsHeld_overlap :
    ¬ ∀ [Sha256] (gateway : ToolGateway) (requests : Nat → ExecutionRequest)
      (key : String × String) (w : GatewayWorld)
      (P : Pool Nat GatewayWorld GatewayExn ToolExecutionResult),
      (∀ id, (requests id).key = key) → w.governance.executionIds.get? key = none → w.log = [] →
      Pool.Reach (handleExecution gateway requests) (anyExecution key) (.idle w) P →
      P.calls.Nodup → ReportsHeld P.state.log := by
  intro h
  obtain ⟨hentries, hcalls⟩ := Prod.mk.inj overlapped_eq
  have hreach : Pool.Reach handle (anyExecution key) (.idle world) overlapped :=
    Pool.reach_play (fun _ _ _ => trivial) _ (fun _ _ _ _ => trivial) _
  have hheld : ReportsHeld overlapped.state.log :=
    h gateway (fun _ => request) key world overlapped (fun _ => rfl) rfl rfl hreach
      (by rw [hcalls]; decide)
  have hmem : (0, 1, some 2) ∈ entries overlapped.state := by
    rw [hentries]
    exact List.mem_cons_self
  obtain ⟨note, hnote, heq⟩ := List.mem_map.mp hmem
  cases note with
  | granted => cases heq
  | reported request key attempt stored =>
    cases heq
    cases hheld hnote

end ChangeOps
