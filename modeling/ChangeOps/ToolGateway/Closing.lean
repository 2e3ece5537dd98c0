import ChangeOps.ToolGateway.Takeover

/-!
# ChangeOps.ToolGateway — what becomes of a reservation

A request that is granted a reservation closes it: `complete_execution` stores the output of the
tool, `fail_execution` the failure of its adapter. Between the grant and the report stands one
call of a sandbox system, and the executor maps what comes of it to an output or to a
`ToolAdapterError`, unless the transport raises an exception that the executor does not name.
Other requests may take the reservation over, or report on it, at any time.
-/

namespace ChangeOps

open GovernanceRepository

/-! ## Attempts -/

/-- The attempts of an execution go on: their number does not go back, and a closed attempt is not
opened again. -/
def AttemptOnward (record record' : ToolExecutionRecord) : Prop :=
  record.attemptCount < record'.attemptCount ∨
    (record'.attemptCount = record.attemptCount ∧
      (record.status ≠ .RESERVED → record'.status ≠ .RESERVED))

theorem AttemptOnward.refl (record : ToolExecutionRecord) : AttemptOnward record record :=
  Or.inr ⟨rfl, id⟩

theorem AttemptOnward.trans {a b c : ToolExecutionRecord} (hab : AttemptOnward a b)
    (hbc : AttemptOnward b c) : AttemptOnward a c := by
  rcases hab with hlt | ⟨heq, hclosed⟩
  · rcases hbc with hlt' | ⟨heq', -⟩
    · exact Or.inl (hlt.trans hlt')
    · exact Or.inl (heq' ▸ hlt)
  · rcases hbc with hlt' | ⟨heq', hclosed'⟩
    · exact Or.inl (heq ▸ hlt')
    · exact Or.inr ⟨heq'.trans heq, fun h => hclosed' (hclosed h)⟩

/-- The attempt is closed, or a later one has been granted. -/
def AttemptSettled (attempt : Nat) (record : ToolExecutionRecord) : Prop :=
  attempt < record.attemptCount ∨ attempt = record.attemptCount ∧ record.status ≠ .RESERVED

theorem AttemptSettled.onward {attempt : Nat} {record record' : ToolExecutionRecord}
    (h : AttemptSettled attempt record) (honward : AttemptOnward record record') :
    AttemptSettled attempt record' := by
  rcases h with hlt | ⟨heq, hclosed⟩
  · rcases honward with hlt' | ⟨heq', -⟩
    · exact Or.inl (hlt.trans hlt')
    · exact Or.inl (heq' ▸ hlt)
  · rcases honward with hlt' | ⟨heq', hkept⟩
    · exact Or.inl (heq ▸ hlt')
    · exact Or.inr ⟨heq.trans heq'.symm, hkept hclosed⟩

/-! ## Requests for one key -/

/-- The call of the sandbox system that a request makes, once it is granted a reservation. -/
def ExecutionRequest.patchCall? (request : ExecutionRequest) : Option PatchCall :=
  match serviceByTool.lookup request.intent.toolName, validateArguments request.intent with
  | some service, .ok arguments => some
      { service := service
        tenantId := request.intent.tenantId
        requestId := request.requestId
        oldField := arguments.oldField
        newField := arguments.newField
        idempotencyKey := request.intent.idempotencyKey
        changeId := request.intent.changeId
        planHash := request.intent.planHash }
  | _, _ => none

/-- Arguments that are accepted are for a tool with a system. -/
theorem exists_patchCall {request : ExecutionRequest} {arguments : FieldPatchArguments}
    (h : validateArguments request.intent = .ok arguments) :
    ∃ payload, request.patchCall? = some payload := by
  unfold ExecutionRequest.patchCall?
  rw [h]
  cases hlookup : serviceByTool.lookup request.intent.toolName with
  | some service => exact ⟨_, rfl⟩
  | none =>
    unfold validateArguments at h
    rw [hlookup] at h
    cases h

/-- What comes of the request's call of the sandbox system is an answer, or a failure that the
executor maps. It is asked of a call with the request's payload whichever its number is, since a run
does not record which of its calls a request made. -/
def Mapped (gateway : ToolGateway) (request : ExecutionRequest) : Prop :=
  ∀ call payload error, request.patchCall? = some payload →
    gateway.patch call payload ≠ .failed error

section

variable [Sha256]

/-- The digests of the requests are valid, and requests with one digest are for one change. -/
structure SoundDigests (requests : Nat → ExecutionRequest) : Prop where
  valid : ∀ document, digestStr (sha256Digest document) = .ok (sha256Digest document)
  change : ∀ n n', semanticInputHash (requests n).intent = semanticInputHash (requests n').intent →
    (requests n).intent.changeId = (requests n').intent.changeId

variable {key : String × String} {requests : Nat → ExecutionRequest} {id : Nat}

/-- The execution of the key: there is none, or it is stored in its place and comes from one of the
requests. -/
structure KeyInv (key : String × String) (requests : Nat → ExecutionRequest) (w : GatewayWorld) :
    Prop where
  absent : w.governance.executionIds.get? key = none →
    w.governance.executions.get? (executionKey key) = none
  present : ∀ {id}, w.governance.executionIds.get? key = some id → id = executionId key
  origin : ∀ {record}, w.governance.executions.get? (executionKey key) = some record →
    record.executionId = executionId key ∧ ∃ n,
      record.inputHash = semanticInputHash (requests n).intent ∧
      record.changeId = (requests n).intent.changeId

/-- The record of the key goes on. -/
def Onward (key : String × String) (w w' : GatewayWorld) : Prop :=
  ∀ record, w.governance.executions.get? (executionKey key) = some record →
    ∃ record', w'.governance.executions.get? (executionKey key) = some record' ∧
      record'.changeId = record.changeId ∧ AttemptOnward record record'

theorem Onward.trans {a b c : GatewayWorld} (hab : Onward key a b) (hbc : Onward key b c) :
    Onward key a c := by
  intro record hrecord
  obtain ⟨record', hrecord', hchange, honward⟩ := hab record hrecord
  obtain ⟨record'', hrecord'', hchange', honward'⟩ := hbc record' hrecord'
  exact ⟨record'', hrecord'', hchange'.trans hchange, honward.trans honward'⟩

/-- An action on the execution of the key, by anybody. -/
def KeyStep (key : String × String) (requests : Nat → ExecutionRequest) (w w' : GatewayWorld) :
    Prop :=
  KeyInv key requests w → KeyInv key requests w' ∧ Onward key w w'

/-- The execution of the key is not touched. -/
theorem keyStep_of_eq {w w' : GatewayWorld}
    (hexecution : w'.governance.executions.get? (executionKey key) =
      w.governance.executions.get? (executionKey key))
    (hid : w'.governance.executionIds.get? key = w.governance.executionIds.get? key) :
    KeyStep key requests w w' := by
  intro hinv
  constructor
  · constructor
    · rw [hid, hexecution]
      exact hinv.absent
    · rw [hid]
      exact hinv.present
    · rw [hexecution]
      exact hinv.origin
  · intro record hrecord
    exact ⟨record, hexecution.trans hrecord, rfl, .refl record⟩

/-- The execution of the key is written. -/
theorem keyStep_write {w w' : GatewayWorld} {record' : ToolExecutionRecord}
    (hid : w'.governance.executionIds.get? key = some (executionId key))
    (hset : w'.governance.executions.get? (executionKey key) = some record')
    (hexecutionId : record'.executionId = executionId key)
    (horigin : ∃ n, record'.inputHash = semanticInputHash (requests n).intent ∧
      record'.changeId = (requests n).intent.changeId)
    (honward : ∀ record, w.governance.executions.get? (executionKey key) = some record →
      record'.changeId = record.changeId ∧ AttemptOnward record record') :
    KeyStep key requests w w' := by
  intro _
  constructor
  · constructor
    · intro hnone
      rw [hid] at hnone
      cases hnone
    · intro id hsome
      rw [hid] at hsome
      cases hsome
      rfl
    · intro record hrecord
      rw [hset] at hrecord
      cases hrecord
      exact ⟨hexecutionId, horigin⟩
  · intro record hrecord
    exact ⟨record', hset, honward record hrecord⟩

/-- What a request may rely on: the execution of the key goes on, and nobody else makes entries
about the request. -/
def closingRely (key : String × String) (requests : Nat → ExecutionRequest) (id : Nat) :
    Rely GatewayWorld where
  rel w w' := KeyStep key requests w w' ∧ journalRely id w w'
  refl w := ⟨keyStep_of_eq rfl rfl, (journalRely id).refl w⟩
  trans := by
    rintro a b c ⟨hab, hnotes⟩ ⟨hbc, hnotes'⟩
    refine ⟨fun hinv => ?_, (journalRely id).trans hnotes hnotes'⟩
    obtain ⟨hinvb, honward⟩ := hab hinv
    obtain ⟨hinvc, honward'⟩ := hbc hinvb
    exact ⟨hinvc, honward.trans honward'⟩

structure ClosingGuarantee (key : String × String) (requests : Nat → ExecutionRequest) (id : Nat)
    (w w' : GatewayWorld) : Prop where
  step : KeyStep key requests w w'
  others : ∀ note : ExecutionNote, note.request ≠ id → (note ∈ w'.log ↔ note ∈ w.log)

/-- An action that leaves executions and journal alone. -/
theorem closing_idle {w w' : GatewayWorld}
    (hexecutions : w'.governance.executions = w.governance.executions)
    (hids : w'.governance.executionIds = w.governance.executionIds) (hlog : w'.log = w.log) :
    ClosingGuarantee key requests id w w' where
  step := keyStep_of_eq (by rw [hexecutions]) (by rw [hids])
  others _ _ := by rw [hlog]

/-! ## What a request knows -/

/-- The request has been granted nothing. -/
structure Ungranted (key : String × String) (requests : Nat → ExecutionRequest) (id : Nat)
    (w : GatewayWorld) : Prop where
  inv : KeyInv key requests w
  noNote : HasNoNote id w

/-- The request has been granted the reservation `held`, and no other. -/
structure Granted (key : String × String) (requests : Nat → ExecutionRequest) (id : Nat)
    (held : ToolExecutionRecord) (w : GatewayWorld) : Prop where
  inv : KeyInv key requests w
  place : held.executionId = executionId key
  grants : ∀ {key' attempt}, .granted id key' attempt ∈ w.log →
    key' = executionKey key ∧ attempt = held.attemptCount
  record : ∃ record, w.governance.executions.get? (executionKey key) = some record ∧
    record.changeId = (requests id).intent.changeId ∧ held.attemptCount ≤ record.attemptCount

/-- What the request was granted is settled. -/
def SettledGrants (id : Nat) (w : GatewayWorld) : Prop :=
  ∀ place attempt, .granted id place attempt ∈ w.log →
    ∃ record, w.governance.executions.get? place = some record ∧ AttemptSettled attempt record

/-- The request was granted a reservation for the key only, and it is settled. -/
structure Settled (key : String × String) (requests : Nat → ExecutionRequest) (id : Nat)
    (w : GatewayWorld) : Prop where
  inv : KeyInv key requests w
  place : ∀ {place attempt}, .granted id place attempt ∈ w.log → place = executionKey key
  grants : SettledGrants id w

/-- A property that the others keep. -/
def KeptByOthers (key : String × String) (requests : Nat → ExecutionRequest) (id : Nat)
    (P : GatewayWorld → Prop) : Prop :=
  ∀ {w w'}, P w → closingRely key requests id w w' → P w'

theorem ungranted_kept : KeptByOthers key requests id (Ungranted key requests id) := by
  intro w w' h hrely
  exact ⟨(hrely.1 h.inv).1, hasNoNote_own id h.noNote hrely.2⟩

theorem granted_kept (held : ToolExecutionRecord) :
    KeptByOthers key requests id (Granted key requests id held) := by
  intro w w' h hrely
  obtain ⟨hinv, honward⟩ := hrely.1 h.inv
  refine ⟨hinv, h.place, fun hmem => h.grants ((hrely.2 _ rfl).mp hmem), ?_⟩
  obtain ⟨record, hrecord, hchange, hle⟩ := h.record
  obtain ⟨record', hrecord', hchange', hattempt⟩ := honward record hrecord
  refine ⟨record', hrecord', hchange'.trans hchange, ?_⟩
  rcases hattempt with hlt | ⟨heq, -⟩
  · exact hle.trans (Nat.le_of_lt hlt)
  · exact heq ▸ hle

theorem settled_kept : KeptByOthers key requests id (Settled key requests id) := by
  intro w w' h hrely
  obtain ⟨hinv, honward⟩ := hrely.1 h.inv
  refine ⟨hinv, fun hmem => h.place ((hrely.2 _ rfl).mp hmem), fun place attempt hmem => ?_⟩
  have hold := (hrely.2 _ rfl).mp hmem
  obtain rfl := h.place hold
  obtain ⟨record, hrecord, hsettled⟩ := h.grants _ _ hold
  obtain ⟨record', hrecord', -, hattempt⟩ := honward record hrecord
  exact ⟨record', hrecord', hsettled.onward hattempt⟩

theorem Ungranted.settled {w : GatewayWorld} (h : Ungranted key requests id w) :
    Settled key requests id w :=
  ⟨h.inv, fun hmem => absurd rfl (h.noNote _ hmem), fun _ _ hmem => absurd rfl (h.noNote _ hmem)⟩

/-! ## The triples -/

/-- The triple of a part of the handler. -/
abbrev Closes {α : Type} (key : String × String) (requests : Nat → ExecutionRequest) (id : Nat)
    (Q : Except GatewayExn α → GatewayWorld → Prop) (p : GatewayAction α) (w : GatewayWorld) : Prop :=
  p.RG (closingRely key requests id) (ClosingGuarantee key requests id) Q w

namespace Closes

variable {α : Type} {P : GatewayWorld → Prop} {w : GatewayWorld}

/-- An action that leaves governance and journal alone keeps what others keep. -/
theorem idle {f : GatewayWorld → Except GatewayExn α × GatewayWorld}
    (hgovernance : ∀ w, (f w).2.governance = w.governance) (hlog : ∀ w, (f w).2.log = w.log)
    (hP : KeptByOthers key requests id P) (hw : P w) :
    Closes key requests id (fun _ t => P t) (.atomic f) w := by
  refine Prog.RG.atomic fun t ht => ⟨?_, fun t' ht' => ?_⟩
  · exact closing_idle (by rw [hgovernance]) (by rw [hgovernance]) (hlog t)
  · have hstep : KeyStep key requests t (f t).2 :=
      keyStep_of_eq (by rw [hgovernance]) (by rw [hgovernance])
    exact hP (hP (hP hw ht) ⟨hstep, fun _ _ => by rw [hlog]⟩) ht'

theorem bystand {p : GatewayAction α} (hp : Bystands p) (hP : KeptByOthers key requests id P)
    (hw : P w) : Closes key requests id (fun _ t => P t) p w := by
  refine hp.keeps (fun h => closing_idle h.executions h.executionIds h.log) hP ?_ hw
  intro t t' ht h
  exact hP ht ⟨keyStep_of_eq (by rw [h.executions]) (by rw [h.executionIds]),
    fun _ _ => by rw [h.log]⟩

/-- A write of the execution of the key, with an entry about this request. -/
theorem guarantee_write {w w' : GatewayWorld} {note : ExecutionNote} (hnote : note.request = id)
    (hlog : w'.log = note :: w.log) (hstep : KeyStep key requests w w') :
    ClosingGuarantee key requests id w w' := by
  refine ⟨hstep, fun note' hne => ?_⟩
  rw [hlog, List.mem_cons]
  constructor
  · rintro (rfl | hmem)
    · exact absurd hnote hne
    · exact hmem
  · exact Or.inr

/-- A grant: the execution of the key is written, and the entry is made. -/
theorem grant {t t₁ : GatewayWorld} {held : ToolExecutionRecord}
    (hungranted : Ungranted key requests id t)
    (hlog : t₁.log = .granted id (key.1, held.executionId) held.attemptCount :: t.log)
    (hid : t₁.governance.executionIds.get? key = some (executionId key))
    (hset : t₁.governance.executions.get? (executionKey key) = some held)
    (hplace : held.executionId = executionId key)
    (horigin : ∃ n, held.inputHash = semanticInputHash (requests n).intent ∧
      held.changeId = (requests n).intent.changeId)
    (hchange : held.changeId = (requests id).intent.changeId)
    (honward : ∀ record, t.governance.executions.get? (executionKey key) = some record →
      held.changeId = record.changeId ∧ AttemptOnward record held) :
    ClosingGuarantee key requests id t t₁ ∧
      ∀ t', closingRely key requests id t₁ t' → Granted key requests id held t' := by
  have hstep : KeyStep key requests t t₁ := keyStep_write hid hset hplace horigin honward
  refine ⟨guarantee_write rfl hlog hstep, fun t' ht' => granted_kept held ?_ ht'⟩
  refine ⟨(hstep hungranted.inv).1, hplace, fun hmem => ?_, held, hset, hchange, Nat.le_refl _⟩
  -- the only entry about this request is the grant
  rw [hlog] at hmem
  rcases List.mem_cons.mp hmem with heq | hmem
  · cases heq
    exact ⟨by rw [hplace]; rfl, rfl⟩
  · exact absurd rfl (hungranted.noNote _ hmem)

/-- How `reserve_execution` ends. -/
def Reserved (key : String × String) (requests : Nat → ExecutionRequest) (id : Nat) :
    Except GatewayExn ExecutionReservation → GatewayWorld → Prop
  | .ok reservation, t =>
      if reservation.replayed then Ungranted key requests id t
      else Granted key requests id reservation.record t
  | .error _, t => Ungranted key requests id t

/-- The reservation is granted to this request, or the stored result is returned. -/
theorem reserve (hdigests : SoundDigests requests) {call : ReserveCall} (hkey : call.key = key)
    (hintent : call.intent = (requests id).intent)
    (hhash : call.inputHash = semanticInputHash (requests id).intent)
    (hw : Ungranted key requests id w) :
    Closes key requests id (Reserved key requests id) (reserveAction id call) w := by
  subst hkey
  refine Prog.RG.atomic fun t ht => ?_
  have hungranted := ungranted_kept hw ht
  have hidle : ClosingGuarantee call.key requests id t t := closing_idle rfl rfl rfl
  have hplace : executionKey call.key = (call.intent.tenantId, executionId call.key) := rfl
  rcases reserveExecution_cases call t.governance with ⟨e, heq⟩ |
    ⟨_, existing, -, -, -, -, -, heq⟩ | ⟨existingId, existing, hid, hget, hsame, hstatus, -, heq⟩ |
    ⟨inputHash, hid, hdigest, heq⟩
  · simp only [heq]
    exact ⟨hidle, fun t' ht' => ungranted_kept hungranted ht'⟩
  · simp only [heq, Reserved, if_true]
    exact ⟨hidle, fun t' ht' => ungranted_kept hungranted ht'⟩
  · -- a further attempt on the stored record
    obtain rfl := hungranted.inv.present hid
    rw [← hplace] at hget
    obtain ⟨hexistingId, n, hexistingHash, hexistingChange⟩ := hungranted.inv.origin hget
    have hchange : existing.changeId = (requests id).intent.changeId := by
      rw [hexistingChange]
      refine hdigests.change n id ?_
      rw [← hexistingHash, hsame, hhash]
    simp only [heq, Reserved, Bool.false_eq_true, if_false]
    refine grant hungranted rfl hid (Dict.get?_set_self _ _ _) hexistingId
      ⟨n, hexistingHash, hexistingChange⟩ hchange fun record hrecord => ?_
    rw [hget] at hrecord
    cases hrecord
    exact ⟨rfl, Or.inl (Nat.lt_succ_self _)⟩
  · -- the first attempt
    have hinput : inputHash = semanticInputHash (requests id).intent := by
      rw [hhash, semanticInputHash, hdigests.valid] at hdigest
      exact (Except.ok.inj hdigest).symm
    have hchange : call.intent.changeId = (requests id).intent.changeId := by rw [hintent]
    simp only [heq, Reserved, Bool.false_eq_true, if_false]
    refine grant hungranted rfl (Dict.get?_set_self _ _ _) (Dict.get?_set_self _ _ _) rfl
      ⟨id, hinput, hchange⟩ hchange fun record hrecord => ?_
    rw [hungranted.inv.absent hid] at hrecord
    cases hrecord

/-- A report with an output, or with a code that can be stored. -/
def Reportable : ExecutionReport → Prop
  | .completed output outputHash _ => outputHash = sha256Digest output.toJson
  | .failed errorCode _ => (nonEmptyStr errorCode).isOk = true

theorem reported_ok (hdigests : SoundDigests requests) {current : ToolExecutionRecord}
    (hreserved : current.status = .RESERVED) {report : ExecutionReport} (h : Reportable report) :
    ∃ updated, current.reported hreserved report = .ok updated ∧ updated.status ≠ .RESERVED := by
  cases report with
  | completed output outputHash completedAt =>
    have hhash : outputHash = sha256Digest output.toJson := h
    refine ⟨current.completedWith hreserved output outputHash completedAt, ?_, fun h => by cases h⟩
    rw [ToolExecutionRecord.reported, hhash, hdigests.valid]
    rfl
  | failed errorCode failedAt =>
    cases hcode : nonEmptyStr errorCode with
    | error e =>
      rw [Reportable, hcode] at h
      cases h
    | ok code =>
      refine ⟨current.failedWith code failedAt, ?_, fun h => by cases h⟩
      rw [ToolExecutionRecord.reported, hcode]
      rfl

/-- A report that takes effect: the attempt that is current is closed, and the entry is made. -/
theorem close {t t₁ : GatewayWorld} {held record updated : ToolExecutionRecord}
    {place : String × String} {attempt stored : Nat} (hgranted : Granted key requests id held t)
    (hlog : t₁.log = .reported id place attempt stored :: t.log)
    (hids : t₁.governance.executionIds = t.governance.executionIds)
    (hexecutions : t₁.governance.executions =
      t.governance.executions.set (executionKey key) updated)
    (hrecord : t.governance.executions.get? (executionKey key) = some record)
    (hle : held.attemptCount ≤ record.attemptCount) (hsame : SameExecution record updated)
    (hattempt : updated.attemptCount = record.attemptCount) (hclosed : updated.status ≠ .RESERVED) :
    ClosingGuarantee key requests id t t₁ ∧
      ∀ t', closingRely key requests id t₁ t' → Settled key requests id t' := by
  have hset : t₁.governance.executions.get? (executionKey key) = some updated := by
    rw [hexecutions]
    exact Dict.get?_set_self _ _ _
  have hid : t₁.governance.executionIds.get? key = some (executionId key) := by
    rw [hids]
    cases hid : t.governance.executionIds.get? key with
    | none =>
      rw [hgranted.inv.absent hid] at hrecord
      cases hrecord
    | some id' => rw [hgranted.inv.present hid]
  obtain ⟨hexecutionId, n, hhash, horigin⟩ := hgranted.inv.origin hrecord
  have hstep : KeyStep key requests t t₁ := by
    refine keyStep_write hid hset (hsame.executionId.trans hexecutionId)
      ⟨n, hsame.inputHash.trans hhash, hsame.changeId.trans horigin⟩ fun record' hrecord' => ?_
    rw [hrecord] at hrecord'
    cases hrecord'
    exact ⟨hsame.changeId, Or.inr ⟨hattempt, fun _ => hclosed⟩⟩
  have hgrants : ∀ {place attempt}, .granted id place attempt ∈ t₁.log →
      place = executionKey key ∧ attempt = held.attemptCount := by
    intro place attempt hmem
    rw [hlog] at hmem
    rcases List.mem_cons.mp hmem with heq | hmem
    · cases heq
    · exact hgranted.grants hmem
  refine ⟨guarantee_write rfl hlog hstep, fun t' ht' => settled_kept ?_ ht'⟩
  refine ⟨(hstep hgranted.inv).1, fun hmem => (hgrants hmem).1, fun place attempt hmem => ?_⟩
  obtain ⟨rfl, rfl⟩ := hgrants hmem
  refine ⟨updated, hset, ?_⟩
  rw [AttemptSettled, hattempt]
  rcases Nat.lt_or_eq_of_le hle with hlt | heq
  · exact Or.inl hlt
  · exact Or.inr ⟨heq, hclosed⟩

/-- **The report.** Whatever has become of the reservation meanwhile, it is settled afterwards. -/
theorem report (hdigests : SoundDigests requests) {held : ToolExecutionRecord}
    (hkey : key = (requests id).key) (outcome : ExecutionReport) (hreportable : Reportable outcome)
    (hw : Granted key requests id held w) :
    Closes key requests id (fun _ t => Settled key requests id t)
      (reportAction id (requests id).intent held outcome) w := by
  refine Prog.RG.atomic fun t ht => ?_
  have hgranted := granted_kept held hw ht
  obtain ⟨record, hrecord, hchange, hle⟩ := hgranted.record
  have hplace : ((requests id).intent.tenantId, held.executionId) = executionKey key := by
    rw [hgranted.place, hkey]
    rfl
  have hget : t.governance.executions.get? ((requests id).intent.tenantId, held.executionId) =
      some record := by
    rw [hplace]
    exact hrecord
  by_cases hreserved : record.status = .RESERVED
  · -- the report closes the attempt that is current
    obtain ⟨updated, hreported, hclosed⟩ := reported_ok hdigests hreserved hreportable
    obtain ⟨hsame, hattempt⟩ := sameExecution_reported hreported
    have heq : t.governance.reportExecution (requests id).intent.tenantId
        (requests id).intent.changeId held.executionId outcome = (.ok updated, { t.governance with
          executions := t.governance.executions.set (executionKey key) updated }) := by
      unfold reportExecution
      rw [hget]
      dsimp only
      rw [if_neg (not_not.mpr hchange), dif_pos hreserved, hreported, hplace]
    simp only [heq]
    exact close hgranted rfl rfl rfl hrecord hle hsame hattempt hclosed
  · -- another request has closed the attempt
    have heq : ∃ e, t.governance.reportExecution (requests id).intent.tenantId
        (requests id).intent.changeId held.executionId outcome = (.error e, t.governance) := by
      unfold reportExecution
      rw [hget]
      dsimp only
      rw [if_neg (not_not.mpr hchange), dif_neg hreserved]
      exact ⟨_, rfl⟩
    obtain ⟨e, heq⟩ := heq
    simp only [heq]
    refine ⟨closing_idle rfl rfl rfl, fun t' ht' => settled_kept ?_ ht'⟩
    refine ⟨hgranted.inv, fun hmem => (hgranted.grants hmem).1, fun place attempt hmem => ?_⟩
    obtain ⟨rfl, rfl⟩ := hgranted.grants hmem
    refine ⟨record, hrecord, ?_⟩
    rcases Nat.lt_or_eq_of_le hle with hlt | heq
    · exact Or.inl hlt
    · exact Or.inr ⟨heq, hreserved⟩

/-- The executor: its result is what it makes of some answer to the call. -/
theorem executeTool (gateway : ToolGateway) {request : ExecutionRequest}
    {registration : ToolRegistration} {arguments : FieldPatchArguments} {payload : PatchCall}
    (htool : registration.toolName = request.intent.toolName)
    (harguments : validateArguments request.intent = .ok arguments)
    (hpayload : request.patchCall? = some payload) (hP : KeptByOthers key requests id P) (hw : P w) :
    Closes key requests id
      (fun r t => P t ∧ ∃ call, r = patchResult request.intent arguments (gateway.patch call payload))
      (executeTool gateway id request registration arguments) w := by
  unfold ChangeOps.executeTool
  rw [htool]
  unfold ExecutionRequest.patchCall? at hpayload
  rw [harguments] at hpayload
  cases hlookup : serviceByTool.lookup request.intent.toolName with
  | none =>
    rw [hlookup] at hpayload
    cases hpayload
  | some service =>
    rw [hlookup] at hpayload
    cases hpayload
    -- the call; its answer is read later
    have hcalled : Closes key requests id (fun r t => ∃ call, r = .ok call ∧ P t) (callTool id) w := by
      refine Prog.RG.atomic fun t ht => ⟨closing_idle rfl rfl rfl, fun t' ht' => ⟨_, rfl, ?_⟩⟩
      refine hP (hP (hP hw ht) ?_) ht'
      exact ⟨keyStep_of_eq rfl rfl, fun _ _ => Iff.rfl⟩
    refine hcalled.bind ?_ ?_
    · rintro call t ⟨_, ⟨⟩, ht⟩
      refine Prog.RG.atomic fun t' ht' => ⟨closing_idle rfl rfl rfl, fun t'' ht'' => ⟨?_, call, rfl⟩⟩
      exact hP (hP ht ht') ht''
    · rintro e t ⟨_, ⟨⟩, -⟩

/-- How the block under the quota ends. -/
def BlockEnds (key : String × String) (requests : Nat → ExecutionRequest) (id : Nat)
    (mapped : Prop) : Except GatewayExn QuotaOutcome → GatewayWorld → Prop
  | .ok (.replayed _), t => Settled key requests id t
  | .ok (.executed held _), t => Granted key requests id held t
  | .ok (.adapterFailed held code _ _), t =>
      Granted key requests id held t ∧ (nonEmptyStr code).isOk = true
  | .error _, t => mapped → Settled key requests id t

theorem blockEnds_kept {mapped : Prop} (r : Except GatewayExn QuotaOutcome) :
    KeptByOthers key requests id (BlockEnds key requests id mapped r) := by
  intro w w' h hrely
  match r with
  | .ok (.replayed _) => exact settled_kept h hrely
  | .ok (.executed held _) => exact granted_kept held h hrely
  | .ok (.adapterFailed held _ _ _) => exact ⟨granted_kept held h.1 hrely, h.2⟩
  | .error _ => exact fun hmapped => settled_kept (h hmapped) hrely

omit [Sha256] in
/-- The codes of the executor can be stored, and only an unmapped failure is raised as it is. -/
theorem patchResult_cases (intent : ToolIntent) (arguments : FieldPatchArguments)
    (answer : PatchAnswer) :
    (∃ output, patchResult intent arguments answer = .ok output) ∨
      (∃ code detail transient, patchResult intent arguments answer =
        .error (.adapter code detail transient) ∧ (nonEmptyStr code).isOk = true) ∨
      ∃ error, answer = .failed error ∧ patchResult intent arguments answer = .error (.raised error) := by
  cases answer with
  | response statusCode document =>
    unfold patchResult
    dsimp only
    split_ifs
    · exact Or.inr (Or.inl ⟨_, _, _, rfl, by decide +kernel⟩)
    · exact Or.inr (Or.inl ⟨_, _, _, rfl, by decide +kernel⟩)
    · cases document with
      | none => exact Or.inr (Or.inl ⟨_, _, _, rfl, by decide +kernel⟩)
      | some result =>
        dsimp only
        split_ifs
        · exact Or.inr (Or.inl ⟨_, _, _, rfl, by decide +kernel⟩)
        · exact Or.inl ⟨_, rfl⟩
  | unavailable => exact Or.inr (Or.inl ⟨_, _, _, rfl, by decide +kernel⟩)
  | failed error => exact Or.inr (Or.inr ⟨error, rfl, rfl⟩)

/-- The block under the quota. -/
theorem reserveAndExecute (gateway : ToolGateway) (hdigests : SoundDigests requests)
    (hkey : key = (requests id).key) {registration : ToolRegistration}
    {arguments : FieldPatchArguments} {payload : PatchCall}
    (htool : registration.toolName = (requests id).intent.toolName)
    (harguments : validateArguments (requests id).intent = .ok arguments)
    (hpayload : (requests id).patchCall? = some payload) (decision : PolicyDecision)
    (approval : Option Approval) (hw : Ungranted key requests id w) :
    Closes key requests id (BlockEnds key requests id (Mapped gateway (requests id)))
      (reserveAndExecute gateway id (requests id) registration arguments decision approval) w := by
  unfold ChangeOps.reserveAndExecute
  refine (bystand (Bystands.gatewayNow gateway) ungranted_kept hw).bind ?_
    fun _ _ ht _ => ht.settled
  intro now t ht
  refine (reserve hdigests (by rw [hkey]; rfl) rfl rfl ht).bind ?_ fun _ _ ht _ => ht.settled
  intro reservation t hreserved
  cases hreplayed : reservation.replayed with
  | true =>
    simp only [Reserved, hreplayed, if_true] at hreserved ⊢
    refine (bystand (Bystands.replay gateway _ decision reservation.record) ungranted_kept
      hreserved).bind ?_ fun _ _ ht _ => ht.settled
    exact fun result t ht t' ht' => settled_kept ht.settled ht'
  | false =>
    simp only [Reserved, hreplayed, Bool.false_eq_true, if_false] at hreserved ⊢
    refine (executeTool gateway htool harguments hpayload (granted_kept _) hreserved).andThen ?_
    rintro result t ⟨ht, call, rfl⟩
    rcases patchResult_cases (requests id).intent arguments (gateway.patch call payload) with
      ⟨output, heq⟩ | ⟨code, detail, transient, heq, hcode⟩ | ⟨error, hfailed, heq⟩
    · rw [heq]
      exact fun t' ht' => granted_kept _ ht ht'
    · rw [heq]
      exact fun t' ht' => ⟨granted_kept _ ht ht', hcode⟩
    · rw [heq]
      exact fun t' _ hmapped => absurd hfailed (hmapped call payload error hpayload)

theorem withQuota (gateway : ToolGateway) (quota : String × String)
    {body : GatewayAction QuotaOutcome} {mapped : Prop}
    (hbody : ∀ {t}, Ungranted key requests id t →
      Closes key requests id (BlockEnds key requests id mapped) body t)
    (hw : Ungranted key requests id w) :
    Closes key requests id (BlockEnds key requests id mapped) (withQuota gateway quota body) w := by
  refine (bystand (Bystands.acquireQuota gateway quota) ungranted_kept hw).bind ?_
    fun _ _ ht _ => ht.settled
  intro _ t ht
  refine (hbody ht).andThen ?_
  intro r t ht
  -- releasing the quota raises nothing
  have hreleased : Closes key requests id (fun r' t => (∃ u, r' = .ok u) ∧
      BlockEnds key requests id mapped r t) (releaseQuota quota) t := by
    refine Prog.RG.atomic fun t' ht' => ⟨closing_idle rfl rfl rfl, fun t'' ht'' => ⟨⟨(), rfl⟩, ?_⟩⟩
    refine blockEnds_kept r (blockEnds_kept r (blockEnds_kept r ht ht') ?_) ht''
    exact ⟨keyStep_of_eq rfl rfl, fun _ _ => Iff.rfl⟩
  refine hreleased.bind ?_ ?_
  · rintro _ t ⟨-, ht⟩
    exact Prog.RG.ofExcept fun t' ht' => blockEnds_kept r ht ht'
  · rintro e t ⟨⟨_, ⟨⟩⟩, -⟩

theorem readsClock (gateway : ToolGateway) (hP : KeptByOthers key requests id P) (hw : P w) :
    Closes key requests id (fun r t => (∃ now, r = .ok now) ∧ P t) (gatewayNow gateway) w := by
  refine Prog.RG.atomic fun t ht => ⟨closing_idle rfl rfl rfl, fun t' ht' => ⟨⟨_, rfl⟩, ?_⟩⟩
  refine hP (hP (hP hw ht) ?_) ht'
  exact ⟨keyStep_of_eq rfl rfl, fun _ _ => Iff.rfl⟩

theorem reportOutcome (gateway : ToolGateway) (hdigests : SoundDigests requests)
    (hkey : key = (requests id).key) (decision : PolicyDecision) {outcome : QuotaOutcome}
    {mapped : Prop} (hw : BlockEnds key requests id mapped (.ok outcome) w) :
    Closes key requests id (fun _ t => Settled key requests id t)
      (reportOutcome gateway id (requests id) decision outcome) w := by
  cases outcome with
  | replayed result => exact fun t ht => settled_kept hw ht
  | executed held output =>
    refine (readsClock gateway (granted_kept held) hw).bind ?_ fun e t ht => nomatch ht.1.choose_spec
    intro completedAt t ht
    refine (report hdigests hkey (.completed output (sha256Digest output.toJson) completedAt) rfl
      ht.2).bind ?_ fun _ _ ht => ht
    intro completed t ht
    refine (bystand (Bystands.auditTool _ _ _ _ _ _ _ _) settled_kept ht).bind ?_ fun _ _ ht => ht
    intro _ t ht
    split
    · exact fun t' ht' => settled_kept ht ht'
    · exact fun t' ht' => settled_kept ht ht'
  | adapterFailed held code detail transient =>
    obtain ⟨hheld, hcode⟩ := hw
    refine (readsClock gateway (granted_kept held) hheld).bind ?_ fun e t ht => nomatch ht.1.choose_spec
    intro failedAt t ht
    refine (report hdigests hkey (.failed code failedAt) hcode ht.2).bind ?_ fun _ _ ht => ht
    intro _ t ht
    refine (bystand (Bystands.auditTool _ _ _ _ _ _ _ _) settled_kept ht).bind ?_ fun _ _ ht => ht
    exact fun _ t ht t' ht' => settled_kept ht ht'

/-- **The handler.** When it ends, what it was granted is settled, if the call is mapped. -/
theorem evaluateAndExecute (gateway : ToolGateway) (hdigests : SoundDigests requests)
    (hkey : key = (requests id).key) (hw : Ungranted key requests id w) :
    Closes key requests id (fun _ t => Mapped gateway (requests id) → Settled key requests id t)
      (evaluateAndExecute gateway id (requests id)) w := by
  have hend : ∀ {α : Type} {p : GatewayAction α} {t}, Bystands p → Ungranted key requests id t →
      Closes key requests id (fun _ t => Mapped gateway (requests id) → Settled key requests id t)
        p t := fun hp ht => (bystand hp ungranted_kept ht).mono fun _ _ ht _ => ht.settled
  unfold ChangeOps.evaluateAndExecute
  dsimp only
  split_ifs
  · exact hend (Bystands.raise _) hw
  · exact hend (Bystands.raise _) hw
  · split
    · exact hend (Bystands.refuse _ _ _ _ _ _) hw
    next registration hregistered =>
      have htool : registration.toolName = (requests id).intent.toolName := by
        have hfound := List.find?_some hregistered
        exact of_decide_eq_true hfound
      split
      · exact hend (Bystands.refuse _ _ _ _ _ _) hw
      next arguments harguments =>
        obtain ⟨payload, hpayload⟩ := exists_patchCall harguments
        refine (idle (fun _ => rfl) (fun _ => rfl) ungranted_kept hw).bind ?_
          fun _ _ ht _ => ht.settled
        intro change t ht
        refine (bystand (Bystands.evaluatePolicy gateway _ registration change) ungranted_kept
          ht).bind ?_ fun _ _ ht _ => ht.settled
        rintro ⟨decision, approval⟩ t ht
        refine (withQuota gateway _ (fun ht => reserveAndExecute gateway hdigests hkey htool harguments
          hpayload decision approval ht) ht).bind ?_ fun _ _ ht => ht
        exact fun outcome t ht =>
          (reportOutcome gateway hdigests hkey decision ht).mono fun _ _ ht _ => ht

end Closes

/-! ## Every interleaving -/

theorem apart_closing (gateway : ToolGateway) (hdigests : SoundDigests requests)
    (hkey : ∀ id, (requests id).key = key) :
    Pool.Apart (handleExecution gateway requests) (anyExecution key) (closingRely key requests)
      (ClosingGuarantee key requests)
      (fun id _ w => Mapped gateway (requests id) → Settled key requests id w) (fun _ => True)
      (Ungranted key requests) where
  guarantee actor id id' w w' _ hne _ hg :=
    ⟨hg.step, fun note hnote => hg.others note fun heq => hne (hnote ▸ heq)⟩
  environment id w w' hok := by
    have hothers : OthersAct key w w' := hok
    exact ⟨keyStep_of_eq hothers.execution hothers.executionId, fun _ _ => by rw [hothers.log]⟩
  invariant _ _ _ _ _ _ _ _ := trivial
  invariant_env _ _ _ _ := trivial
  stable id w w' h hrely := ungranted_kept h hrely
  triple id w w' h _ := (Closes.evaluateAndExecute gateway hdigests (hkey id).symm h).start

/-- **A reservation does not stay open.** In every interleaving of requests for one key, when the
handler of a request has ended, every reservation that it was granted is closed, `SUCCEEDED` or
`FAILED`, unless another request has been granted a later attempt; on the condition that the
request's call of the sandbox system is answered, or fails in a way that the executor maps. -/
theorem reservation_closed (gateway : ToolGateway) (requests : Nat → ExecutionRequest)
    (key : String × String) (hkey : ∀ id, (requests id).key = key) (hdigests : SoundDigests requests)
    (w : GatewayWorld) (hnew : w.governance.executionIds.get? key = none)
    (hunused : w.governance.executions.get? (executionKey key) = none) (hlog : w.log = [])
    {P : Pool Nat GatewayWorld GatewayExn ToolExecutionResult}
    (hrun : Pool.Reach (handleExecution gateway requests) (anyExecution key) (.idle w) P)
    (hnodup : P.calls.Nodup) {id : Nat} {outcome : Except GatewayExn ToolExecutionResult}
    (hended : (id, Prog.ofExcept outcome) ∈ P.threads) (hmapped : Mapped gateway (requests id))
    {place : String × String} {attempt : Nat} (hgranted : .granted id place attempt ∈ P.state.log) :
    ∃ record, P.state.governance.executions.get? place = some record ∧
      (attempt < record.attemptCount ∨ attempt = record.attemptCount ∧
        (record.status = .SUCCEEDED ∨ record.status = .FAILED)) := by
  have hungranted : ∀ id, Ungranted key requests id w := by
    intro id
    refine ⟨⟨fun _ => hunused, fun hid => ?_, fun hrecord => ?_⟩, fun note hmem => ?_⟩
    · rw [hnew] at hid
      cases hid
    · rw [hunused] at hrecord
      cases hrecord
    · rw [hlog] at hmem
      cases hmem
  have hholds := (apart_closing gateway hdigests hkey).holds trivial hungranted hrun hnodup
  have hsettled : Mapped gateway (requests id) → Settled key requests id P.state := by
    have htriple := hholds.triples _ hended
    cases outcome with
    | ok result => exact htriple P.state ((closingRely key requests id).refl _)
    | error e => exact htriple P.state ((closingRely key requests id).refl _)
  obtain ⟨record, hrecord, hlater | ⟨hsame, hclosed⟩⟩ := (hsettled hmapped).grants place attempt hgranted
  · exact ⟨record, hrecord, Or.inl hlater⟩
  · refine ⟨record, hrecord, Or.inr ⟨hsame, ?_⟩⟩
    cases hstatus : record.status with
    | RESERVED => exact absurd hstatus hclosed
    | SUCCEEDED => exact Or.inl rfl
    | FAILED => exact Or.inr rfl

end

namespace Closing

open scoped Overlap

open Overlap

/-- A program that has ended. -/
def hasEnded : GatewayAction ToolExecutionResult → Bool
  | .ret _ | .raise _ => true
  | .step _ _ | .choice _ _ => false

theorem exists_outcome {P : OverlapPool} {id : Nat}
    (h : P.threads.map (fun thread => (thread.1, hasEnded thread.2)) = [(id, true)]) :
    ∃ outcome, (id, Prog.ofExcept outcome) ∈ P.threads := by
  obtain ⟨threads, state⟩ := P
  obtain ⟨⟨id', p⟩, rfl, heq⟩ := List.map_eq_singleton_iff.mp h
  obtain ⟨rfl, hended⟩ := Prod.mk.inj heq
  cases p with
  | ret result => exact ⟨.ok result, List.mem_singleton_self _⟩
  | raise e => exact ⟨.error e, List.mem_singleton_self _⟩
  | step u k => cases hended
  | choice l r => cases hended

theorem nodup_calls {P : OverlapPool} {id : Nat}
    (h : P.threads.map (fun thread => (thread.1, hasEnded thread.2)) = [(id, true)]) :
    P.calls.Nodup := by
  have hcalls : P.calls = [id] := by
    have hmap := congrArg (List.map Prod.fst) h
    rw [List.map_map] at hmap
    exact hmap
  rw [hcalls]
  exact List.nodup_singleton id

/-- The gateway before a system that breaks the protocol. -/
def brokenGateway : ToolGateway :=
  { gateway with patch := fun _ _ => .failed (.other "httpx.RemoteProtocolError") }

/-- One request, from its start to its end. -/
def single (gateway : ToolGateway) : OverlapPool :=
  Pool.play (handleExecution gateway fun _ => request) (.idle world)
    (.start 0 :: List.replicate 20 (.move 0 false))

theorem reach_single (gateway : ToolGateway) :
    Pool.Reach (handleExecution gateway fun _ => request) (anyExecution key) (.idle world)
      (single gateway) :=
  Pool.reach_play (fun _ _ _ => trivial) _ (fun _ _ _ _ => trivial) _

theorem soundDigests_overlap : SoundDigests fun _ => request where
  valid document := by
    show digestStr ("sha256:" ++ String.ofList (List.replicate 64 '0')) =
      .ok ("sha256:" ++ String.ofList (List.replicate 64 '0'))
    decide +kernel
  change _ _ _ := rfl

/-- What is left of the single request: whether it has ended, its entries, and the stored record's
attempt and status. -/
def remains (P : OverlapPool) :
    List (Nat × Bool) × Bool × Option (Nat × ToolExecutionStatus) :=
  (P.threads.map fun thread => (thread.1, hasEnded thread.2),
    P.state.log.contains (.granted 0 (executionKey key) 1),
    (P.state.governance.executions.get? (executionKey key)).map fun record =>
      (record.attemptCount, record.status))

theorem remains_single : remains (single gateway) = ([(0, true)], true, some (1, .SUCCEEDED)) := by
  decide +kernel

theorem remains_broken :
    remains (single brokenGateway) = ([(0, true)], true, some (1, .RESERVED)) := by
  decide +kernel

end Closing

open scoped Overlap

open Overlap Closing

/-- The single request before a system that applies its patch. -/
theorem reservation_closed_single :
    ∃ record, (single gateway).state.governance.executions.get? (executionKey key) = some record ∧
      (1 < record.attemptCount ∨ 1 = record.attemptCount ∧
        (record.status = .SUCCEEDED ∨ record.status = .FAILED)) := by
  obtain ⟨hthreads, hlog, -⟩ := (Prod.mk.inj remains_single).imp id Prod.mk.inj
  obtain ⟨outcome, hended⟩ := exists_outcome hthreads
  refine reservation_closed gateway (fun _ => request) key (fun _ => rfl) soundDigests_overlap world
    rfl rfl rfl (reach_single gateway) (nodup_calls hthreads) hended ?_
    (List.contains_iff_mem.mp hlog)
  rintro call payload error - hfailed
  cases hfailed

/-- A system that breaks the HTTP protocol: the reservation stays open. -/
theorem not_reservation_closed :
    ¬ ∀ [Sha256] (gateway : ToolGateway) (requests : Nat → ExecutionRequest)
      (key : String × String) (w : GatewayWorld)
      (P : Pool Nat GatewayWorld GatewayExn ToolExecutionResult) (id : Nat)
      (outcome : Except GatewayExn ToolExecutionResult) (place : String × String) (attempt : Nat),
      (∀ id, (requests id).key = key) → SoundDigests requests →
      w.governance.executionIds.get? key = none →
      w.governance.executions.get? (executionKey key) = none → w.log = [] →
      Pool.Reach (handleExecution gateway requests) (anyExecution key) (.idle w) P →
      P.calls.Nodup → (id, Prog.ofExcept outcome) ∈ P.threads →
      .granted id place attempt ∈ P.state.log →
      ∃ record, P.state.governance.executions.get? place = some record ∧
        (attempt < record.attemptCount ∨ attempt = record.attemptCount ∧
          (record.status = .SUCCEEDED ∨ record.status = .FAILED)) := by
  intro h
  obtain ⟨hthreads, hlog, hstored⟩ := (Prod.mk.inj remains_broken).imp id Prod.mk.inj
  obtain ⟨outcome, hended⟩ := exists_outcome hthreads
  obtain ⟨record, hrecord, hclosed⟩ := h brokenGateway (fun _ => request) key world
    (single brokenGateway) 0 outcome (executionKey key) 1 (fun _ => rfl) soundDigests_overlap rfl rfl
    rfl (reach_single _) (nodup_calls hthreads) hended (List.contains_iff_mem.mp hlog)
  rw [hrecord] at hstored
  obtain ⟨hattempt, hstatus⟩ := Prod.mk.inj (Option.some.inj hstored)
  rw [hattempt, hstatus] at hclosed
  simp at hclosed

end ChangeOps
