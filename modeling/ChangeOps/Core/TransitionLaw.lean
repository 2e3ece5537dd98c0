import ChangeOps.Core.TransitionRules
import ChangeOps.Lib.Schedule

/-!
# ChangeOps.Core — concurrent transitions of a change

Any number of `transition` calls, with any targets and any expected versions, interleave
over the repository. A commit compares the stored version with the number its caller passed,
not with the version of the record whose edge was checked. The two agree as long as no
caller names a version ahead of the stored one; a caller who guesses a future version can
commit an edge that the graph does not have.
-/

namespace ChangeOps

open InMemoryChangeStateRepository

variable {X : Type}

/-! ## What a commit should do -/

/-- `updated` has every field of `replaced`, except the status, the phase, the time and the
version, and what the call itself sets. -/
structure CarriesOver (updates : RecordUpdates) (replaced updated : ChangeRecord) : Prop where
  changeId : updated.changeId = replaced.changeId
  tenantId : updated.tenantId = replaced.tenantId
  eventId : updated.eventId = replaced.eventId
  changeType : updated.changeType = replaced.changeType
  title : updated.title = replaced.title
  description : updated.description = replaced.description
  source : updated.source = replaced.source
  environment : updated.environment = replaced.environment
  createdAt : updated.createdAt = replaced.createdAt
  createdBy : updated.createdBy = replaced.createdBy
  workflowExecutionId : updated.workflowExecutionId =
    updates.workflowExecutionId.getD replaced.workflowExecutionId
  planVersion : updated.planVersion = updates.planVersion.getD replaced.planVersion
  planHash : updated.planHash = updates.planHash.getD replaced.planHash
  riskLevel : updated.riskLevel = updates.riskLevel.getD replaced.riskLevel

theorem carriesOver_updated (call : TransitionCall) (current : ChangeRecord)
    (transitionedAt : Time) (h : ¬ transitionedAt < current.updatedAt) :
    CarriesOver call.recordUpdates current (call.updated current transitionedAt h) := by
  constructor <;> rfl

/-- A commit of `call` that replaces `replaced` by `updated` follows the graph and carries
the record over. -/
structure LawfulCommit (call : TransitionCall) (replaced updated : ChangeRecord) : Prop where
  edge : canTransition replaced.status updated.status = true
  carriesOver : CarriesOver call.recordUpdates replaced updated

theorem lawfulCommit_updated (call : TransitionCall) (current : ChangeRecord)
    (transitionedAt : Time) (h : ¬ transitionedAt < current.updatedAt)
    (hedge : canTransition current.status call.target = true) :
    LawfulCommit call current (call.updated current transitionedAt h) :=
  ⟨hedge, carriesOver_updated call current transitionedAt h⟩

/-- Every commit of every run is lawful, and the terminal states are absorbing. The runs are
those of any number of `transition` calls whose events meet `ok`. -/
structure CommitsLawful [Sha256] (rt : Runtime)
    (ok : Actor TransitionCall → World X → World X → Prop) (s₀ : World X) : Prop where
  commit : ∀ {P P' : Pool TransitionCall (World X) Exn ChangeRecord} {actor key replaced updated},
    Pool.Reach (transition rt) ok (.idle s₀) P → Pool.Step (transition rt) P actor P' →
    ok actor P.state P'.state → P.state.changes.stored? key = some replaced →
    P'.state.changes.stored? key = some updated → updated ≠ replaced →
    ∃ call, actor.call? = some call ∧ call.key = key ∧ LawfulCommit call replaced updated
  absorbing : ∀ {P P' : Pool TransitionCall (World X) Exn ChangeRecord} {key change},
    Pool.Reach (transition rt) ok (.idle s₀) P → Pool.Reach (transition rt) ok P P' →
    P.state.changes.stored? key = some change → change.status.isTerminal = true →
    P'.state.changes.stored? key = some change

/-- Any call with an expected version of at least 1, at any time; nobody else acts. -/
def anyVersion : Actor TransitionCall → World X → World X → Prop
  | .start call, _, _ => 1 ≤ call.expectedVersion
  | .by _, _, _ => True
  | .env, _, _ => False

/-- As `anyVersion`, but the version a call expects is not ahead of the stored one when the
call reads the change. -/
def versionNotAhead : Actor TransitionCall → World X → World X → Prop
  | .start call, s, _ => ∀ stored, s.changes.stored? call.key = some stored →
      call.expectedVersion ≤ stored.version
  | .by _, _, _ => True
  | .env, _, _ => False

/-! ## Versions only grow -/

/-- What can happen to a stored change: nothing, or a commit of a higher version that
replaces a change that was not terminal. -/
def Advances : Option ChangeRecord → Option ChangeRecord → Prop
  | none, _ => True
  | some change, after => ∃ change', after = some change' ∧
      (change' = change ∨ (change.version < change'.version ∧ change.status.isTerminal = false))

theorem Advances.refl (change : Option ChangeRecord) : Advances change change := by
  cases change with
  | none => trivial
  | some change => exact ⟨change, rfl, .inl rfl⟩

theorem Advances.trans {a b c : Option ChangeRecord} (hab : Advances a b) (hbc : Advances b c) :
    Advances a c := by
  cases a with
  | none => trivial
  | some change =>
    obtain ⟨change', rfl, h⟩ := hab
    obtain ⟨change'', rfl, h'⟩ := hbc
    refine ⟨change'', rfl, ?_⟩
    rcases h with rfl | ⟨hlt, hterm⟩
    · exact h'
    · rcases h' with rfl | ⟨hlt', -⟩
      · exact .inr ⟨hlt, hterm⟩
      · exact .inr ⟨Nat.lt_trans hlt hlt', hterm⟩

theorem Advances.version_le {change change' : ChangeRecord}
    (h : Advances (some change) (some change')) : change.version ≤ change'.version := by
  obtain ⟨_, heq, h⟩ := h
  cases heq
  rcases h with rfl | ⟨hlt, -⟩
  · exact Nat.le_refl _
  · exact Nat.le_of_lt hlt

/-- A lawful commit is an advance: a terminal state has no outgoing edge. -/
theorem LawfulCommit.advances {call : TransitionCall} {replaced updated : ChangeRecord}
    (h : LawfulCommit call replaced updated) (hversion : replaced.version < updated.version) :
    Advances (some replaced) (some updated) := by
  refine ⟨updated, rfl, .inr ⟨hversion, ?_⟩⟩
  by_contra hterminal
  have hedge := canTransition_of_isTerminal updated.status (eq_true_of_ne_false hterminal)
  rw [h.edge] at hedge
  cases hedge

/-- A stored version that has not passed `version` is that of the record itself. -/
theorem Advances.eq_of_version_le {change change' : ChangeRecord}
    (h : Advances (some change) (some change')) (hle : change'.version ≤ change.version) :
    change' = change := by
  obtain ⟨_, heq, h⟩ := h
  cases heq
  rcases h with heq | ⟨hlt, -⟩
  · exact heq
  · exact absurd hle (Nat.not_le_of_lt hlt)

/-- The rely of every caller: each stored change only advances. -/
def changesAdvance : Rely (World X) where
  rel w w' := ∀ key, Advances (w.changes.stored? key) (w'.changes.stored? key)
  refl w key := .refl (w.changes.stored? key)
  trans h h' key := (h key).trans (h' key)

/-- The guarantee of a call: each of its actions leaves a stored change alone or commits
lawfully to the next version. -/
def CommitsOnly (call : TransitionCall) (w w' : World X) : Prop :=
  ∀ key, w'.changes.stored? key = w.changes.stored? key ∨
    ∃ replaced updated, w.changes.stored? key = some replaced ∧
      w'.changes.stored? key = some updated ∧ call.key = key ∧
      replaced.version < updated.version ∧ LawfulCommit call replaced updated

theorem CommitsOnly.of_quiet {call : TransitionCall} {w w' : World X} (h : Quiet w w') :
    CommitsOnly call w w' :=
  fun key => .inl (by rw [h.stored])

theorem CommitsOnly.advances {call : TransitionCall} {w w' : World X}
    (h : CommitsOnly call w w') : changesAdvance w w' := by
  intro key
  rcases h key with heq | ⟨replaced, updated, hold, hnew, -, hlt, hlaw⟩
  · rw [heq]
    exact .refl _
  · rw [hold, hnew]
    exact hlaw.advances hlt

/-! ## The triple of one call -/

/-- What a call knows once it has read `current`: it is the change of its key, its version is
at least the expected one, and the stored change has only advanced since. -/
structure HasRead (call : TransitionCall) (current : ChangeRecord) (w : World X) : Prop where
  key : (current.tenantId, current.changeId) = call.key
  notAhead : call.expectedVersion ≤ current.version
  advances : Advances (some current) (w.changes.stored? call.key)

theorem hasRead_carried (call : TransitionCall) (current : ChangeRecord) :
    Carried (X := X) changesAdvance (HasRead call current) where
  rely h hrely := { h with advances := h.advances.trans (hrely call.key) }
  quiet h hq := { h with advances := by rw [hq.stored]; exact h.advances }

/-- If the stored version is the expected one, what is stored is what was read. -/
theorem HasRead.eq_of_version {call : TransitionCall} {current stored : ChangeRecord}
    {w : World X} (h : HasRead call current w) (hstored : w.changes.stored? call.key = some stored)
    (hversion : stored.version = call.expectedVersion) : stored = current := by
  have hadv := h.advances
  rw [hstored] at hadv
  exact hadv.eq_of_version_le (hversion ▸ h.notAhead)

/-- A commit of what a call has computed from the record it replaces is lawful. -/
theorem commitsOnly_commit {call : TransitionCall} {replaced : ChangeRecord} {t : World X}
    {transitionedAt : Time} {hclock : ¬ transitionedAt < replaced.updatedAt}
    (auditEvent : AuditEvent) (hstored : t.changes.stored? call.key = some replaced)
    (hedge : canTransition replaced.status call.target = true)
    (hversion : replaced.version = call.expectedVersion) :
    CommitsOnly call t (t.commit (call.updated replaced transitionedAt hclock) auditEvent) := by
  have hkey := key_of_stored hstored
  intro key
  by_cases hk : key = call.key
  · subst hk
    refine .inr ⟨replaced, call.updated replaced transitionedAt hclock, hstored, ?_, rfl, ?_, ?_⟩
    · rw [← hkey]
      exact World.stored?_commit_self t (call.updated replaced transitionedAt hclock) auditEvent
    · rw [hversion]
      exact Nat.lt_succ_self _
    · exact lawfulCommit_updated call replaced transitionedAt hclock hedge
  · refine .inl (World.stored?_commit_ne t auditEvent ?_)
    intro heq
    exact hk (heq.trans hkey)

/-- A call whose expected version is not ahead of the change that it reads first. -/
theorem transition_commitsOnly [Sha256] (rt : Runtime) (call : TransitionCall) {s : World X}
    (hahead : ∀ stored, s.changes.stored? call.key = some stored →
      call.expectedVersion ≤ stored.version) :
    (transition rt call).RGStart changesAdvance (CommitsOnly call) (fun _ _ => True) s := by
  refine Prog.RGStart.atomic_bind (.of_quiet (.refl s)) ?_
  cases hget : s.changes.get call.tenantId call.changeId with
  | error e => exact Prog.RG.raise fun _ _ => trivial
  | ok current =>
    have hcurrent : s.changes.stored? call.key = some current := get_eq_ok.mp hget
    have hread : HasRead call current s :=
      ⟨key_of_stored hcurrent, hahead current hcurrent, by rw [hcurrent]; exact .refl _⟩
    refine Prog.RG.transitionRead CommitsOnly.of_quiet (hasRead_carried call current) hread
      hread.key ?_ (fun _ _ _ => trivial)
    rintro t stored _ auditEvent hread hedge hstored hversion ⟨transitionedAt, hclock, rfl⟩
    obtain rfl : stored = current := hread.eq_of_version hstored hversion
    exact ⟨commitsOnly_commit auditEvent hstored hedge hversion, fun _ _ => trivial⟩

/-! ## Every run -/

/-- The calls of a pool and their triples fit together. -/
theorem sound_versionNotAhead [Sha256] (rt : Runtime) :
    Pool.Sound (σ := World X) (transition rt) versionNotAhead changesAdvance CommitsOnly
      (fun _ _ _ => True) (fun _ => True) where
  guarantee _ _ _ _ _ _ hg := hg.advances
  environment _ _ h := h.elim
  invariant _ _ _ _ := trivial
  triple call _ _ _ hok := transition_commitsOnly rt call hok

/-- As long as no call expects a version ahead of the stored one when it reads the change,
every commit follows the graph and carries the record over, and terminal states are
absorbing: for any number of concurrent calls and every interleaving. -/
theorem commitsLawful_of_versionNotAhead [Sha256] (rt : Runtime) (s₀ : World X) :
    CommitsLawful rt versionNotAhead s₀ := by
  have hsound := sound_versionNotAhead (X := X) rt
  constructor
  · intro P P' actor key replaced updated hreach hstep hok hold hnew hne
    have hholds := hsound.holds trivial hreach
    cases hcall : actor.call? with
    | none =>
      cases hstep with
      | start => cases hcall
      | move => cases hcall
      | env => exact hok.elim
    | some call =>
      refine ⟨call, rfl, ?_⟩
      rcases hholds.guarantee hsound hstep hok hcall with heq | hg
      · rw [heq, hold] at hnew
        exact absurd (Option.some.inj hnew).symm hne
      · rcases hg key with heq | ⟨replaced', updated', hold', hnew', hkey, -, hlaw⟩
        · rw [heq, hold] at hnew
          exact absurd (Option.some.inj hnew).symm hne
        · rw [hold] at hold'
          rw [hnew] at hnew'
          cases hold'
          cases hnew'
          exact ⟨hkey, hlaw⟩
  · intro P P' key change hreach hrest hstored hterm
    have hholds := hsound.holds trivial hreach
    obtain ⟨change', hnew, hadv⟩ := hstored ▸ (Pool.sound hsound hholds hrest).2 key
    rw [hnew]
    rcases hadv with rfl | ⟨-, hnot⟩
    · rfl
    · rw [hterm] at hnot
      cases hnot

/-! ## A guessed version

The change is approved at version 1. `cancel` reads it and expects version 2; the coordinator
moves it to `EXECUTING`, which makes it version 2; then `cancel` commits. -/

namespace Demo

scoped instance digests : Sha256 := .hashlib

def runtime : Runtime := ⟨fun n => n, fun n => String.ofList (List.replicate n 'a')⟩

/-- The approved change. -/
def change : ChangeRecord where
  changeId := "chg_001"
  tenantId := "tenant_demo"
  eventId := "evt_001"
  changeType := "api.contract.changed"
  title := "Customer field renamed"
  description := "Customer field renamed"
  source := ⟨"github", "ext_001", "https://example.test"⟩
  environment := .SANDBOX
  status := .APPROVED
  riskLevel := .HIGH
  currentPhase := .APPROVED
  workflowExecutionId := some "wf_001"
  planVersion := 1
  planHash := some "sha256:00"
  createdAt := 0
  updatedAt := 0
  createdBy := "event-gateway"
  version := 1
  phase_eq := rfl
  created_le_updated := Nat.le_refl _
  version_pos := one_le_one

def world : World Unit := ⟨InMemoryChangeStateRepository.empty.put change, 0, 0, ()⟩

def cancel : TransitionCall :=
  ⟨"tenant_demo", "chg_001", .CANCELLED, 2, "trace_001", .USER, "user_001", {}⟩

def execute : TransitionCall :=
  ⟨"tenant_demo", "chg_001", .EXECUTING, 1, "trace_001", .SERVICE, "workflow-coordinator", {}⟩

/-- `cancel` reads, `execute` runs to its end, `cancel` goes on until it is about to commit. -/
def schedule : List (Turn TransitionCall) :=
  [.start cancel, .start execute, .move 1 false, .move 1 false, .move 1 false,
    .move 0 false, .move 0 false]

def beforeCommit : Pool TransitionCall (World Unit) Exn ChangeRecord :=
  Pool.play (transition runtime) (.idle world) schedule

def afterCommit : Pool TransitionCall (World Unit) Exn ChangeRecord :=
  Pool.turn (transition runtime) beforeCommit (.move 0 false)

def statusIn (P : Pool TransitionCall (World Unit) Exn ChangeRecord) : Option WorkflowState :=
  (P.state.changes.stored? cancel.key).map (·.status)

end Demo

open Demo in
/-- With a guessed version, `EXECUTING` is replaced by `CANCELLED`, which the graph forbids. -/
theorem not_commitsLawful_anyVersion :
    ¬ ∀ [Sha256] (rt : Runtime) (s₀ : World Unit), CommitsLawful rt anyVersion s₀ := by
  intro h
  have hlawful := h runtime world
  have hbefore : statusIn beforeCommit = some .EXECUTING := by decide
  have hafter : statusIn afterCommit = some .CANCELLED := by decide
  obtain ⟨replaced, hold, hs⟩ := Option.map_eq_some_iff.mp hbefore
  obtain ⟨updated, hnew, ht⟩ := Option.map_eq_some_iff.mp hafter
  have hne : updated ≠ replaced := by
    rintro rfl
    rw [hs] at ht
    cases ht
  have hreach : Pool.Reach (transition runtime) anyVersion (.idle world)
      beforeCommit := by
    refine Pool.reach_play (fun _ _ _ => trivial) schedule ?_ _
    intro call s s' hmem
    simp only [schedule, List.mem_cons, Turn.start.injEq, reduceCtorEq, List.not_mem_nil,
      or_false] at hmem
    rcases hmem with rfl | rfl
    · exact Nat.le_succ 1
    · exact Nat.le_refl 1
  have hturn : afterCommit = beforeCommit ∨
      (∃ call, Turn.move 0 false = .start call ∧
        Pool.Step (transition runtime) beforeCommit (.start call) afterCommit) ∨
      ∃ call, Pool.Step (transition runtime) beforeCommit (.by call) afterCommit :=
    Pool.step_turn beforeCommit (.move 0 false)
  rcases hturn with heq | ⟨call, hturn, -⟩ | ⟨call, hstep⟩
  · rw [heq, hold] at hnew
    exact hne (Option.some.inj hnew).symm
  · cases hturn
  · obtain ⟨_, -, -, hlaw⟩ := hlawful.commit hreach hstep trivial hold hnew hne
    have hedge := hlaw.edge
    rw [hs, ht] at hedge
    cases hedge

end ChangeOps
