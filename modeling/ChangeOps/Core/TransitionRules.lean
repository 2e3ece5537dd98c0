import ChangeOps.Core.StateMachine
import ChangeOps.Lib.RelyGuarantee

/-!
# ChangeOps.Core — rules for the primitive actions and for `transition`

One rely/guarantee rule for each primitive action and one for the whole of
`StateTransitionService.transition`; callers of the service cite the rule and never look
inside.

Almost every action is *quiet*: it reads the clock, draws an identifier or appends to the
audit trail, and leaves the stored changes and the other components alone. The one action
of `transition` that is not quiet is the commit.
-/

namespace ChangeOps

open InMemoryChangeStateRepository

variable {X α : Type}

/-- Nothing but the audit trail, the clock and the identifiers differs. -/
structure Quiet (w w' : World X) : Prop where
  stored : w'.changes.stored? = w.changes.stored?
  rest : w'.rest = w.rest

theorem Quiet.refl (w : World X) : Quiet w w := ⟨rfl, rfl⟩

/-- The world after a commit of `change` with its audit event. -/
def World.commit (w : World X) (change : ChangeRecord) (auditEvent : AuditEvent) : World X :=
  { w with changes := (w.changes.put change).appendAudit auditEvent }

@[simp] theorem World.rest_commit (w : World X) (change : ChangeRecord) (event : AuditEvent) :
    (w.commit change event).rest = w.rest := rfl

@[simp] theorem World.stored?_commit_self (w : World X) (change : ChangeRecord)
    (event : AuditEvent) :
    (w.commit change event).changes.stored? (change.tenantId, change.changeId) = some change :=
  stored?_put_self _ _

theorem World.stored?_commit_ne (w : World X) {change : ChangeRecord} (event : AuditEvent)
    {key : String × String} (h : key ≠ (change.tenantId, change.changeId)) :
    (w.commit change event).changes.stored? key = w.changes.stored? key :=
  stored?_put_ne _ h

/-- A property that survives the environment and the quiet actions. -/
structure Carried (R : Rely (World X)) (P : World X → Prop) : Prop where
  rely : ∀ {t t'}, P t → R t t' → P t'
  quiet : ∀ {t t'}, P t → Quiet t t' → P t'

namespace Prog.RG

variable {R : Rely (World X)} {G : World X → World X → Prop}

/-! ## Primitive actions -/

/-- A quiet action keeps what is carried. -/
theorem quiet {P : World X → Prop} {f : World X → Except Exn α × World X} {s : World X}
    (hf : ∀ t, Quiet t (f t).2) (hG : ∀ {t t'}, Quiet t t' → G t t') (hP : Carried R P)
    (hs : P s) : RG R G (fun _ t => P t) (Prog.atomic f) s := by
  refine atomic fun t ht => ⟨hG (hf t), fun t' ht' => ?_⟩
  exact hP.rely (hP.quiet (hP.rely hs ht) (hf t)) ht'

theorem now {P : World X → Prop} (rt : Runtime) {s : World X}
    (hG : ∀ {t t'}, Quiet t t' → G t t') (hP : Carried R P) (hs : P s) :
    RG R G (fun _ t => P t) (ChangeOps.now rt) s :=
  quiet (fun _ => ⟨rfl, rfl⟩) hG hP hs

theorem uuid4Hex {P : World X → Prop} (rt : Runtime) {s : World X}
    (hG : ∀ {t t'}, Quiet t t' → G t t') (hP : Carried R P) (hs : P s) :
    RG R G (fun _ t => P t) (ChangeOps.uuid4Hex rt) s :=
  quiet (fun _ => ⟨rfl, rfl⟩) hG hP hs

theorem recordAudit {P : World X → Prop} (auditEvent : AuditEvent) {s : World X}
    (hG : ∀ {t t'}, Quiet t t' → G t t') (hP : Carried R P) (hs : P s) :
    RG R G (fun _ t => P t) (onChanges (InMemoryChangeStateRepository.recordAudit auditEvent)) s :=
  quiet (fun t => ⟨stored?_recordAudit auditEvent t.changes, rfl⟩) hG hP hs

/-- Reading a change: what is read was stored when it was read. -/
theorem getChange {Q : Except Exn ChangeRecord → World X → Prop} {tenantId changeId : String}
    {s : World X} (hG : ∀ {t t'}, Quiet t t' → G t t')
    (hok : ∀ t t' current, R s t → t.changes.stored? (tenantId, changeId) = some current →
      R t t' → Q (.ok current) t')
    (herr : ∀ e t, Q (.error e) t) : RG R G Q (ChangeOps.getChange tenantId changeId) s := by
  refine atomic fun t ht => ⟨hG (Quiet.refl t), fun t' ht' => ?_⟩
  cases hget : t.changes.get tenantId changeId with
  | ok current => exact hok t t' current ht (get_eq_ok.mp hget) ht'
  | error e => exact herr e t'

/-! ## The service -/

section Service

variable [Sha256] {call : TransitionCall} {rt : Runtime}
  {Q : Except Exn ChangeRecord → World X → Prop}

theorem buildAuditEvent {P : World X → Prop} {current : ChangeRecord} {outputHash : String}
    {status : AuditStatus} {createdAt : Time} {s : World X}
    (hG : ∀ {t t'}, Quiet t t' → G t t') (hP : Carried R P) (hs : P s) :
    RG R G (fun _ t => P t)
      (ChangeOps.buildAuditEvent rt call current outputHash status createdAt) s :=
  (uuid4Hex rt hG hP hs).bind (fun _ _ ht _ ht' => hP.rely ht ht') fun _ _ ht => ht

/-- The rule of `transition` after its read. `P` is what the caller knows from then on, also when
the service raises. The commit happens, if it happens, in a state where `P` still holds, the edge
from `current` is in the graph and the stored version is the expected one. -/
theorem transitionRead {P : World X → Prop} {current : ChangeRecord} {s : World X}
    (hG : ∀ {t t'}, Quiet t t' → G t t') (hP : Carried R P) (hs : P s)
    (hkey : (current.tenantId, current.changeId) = call.key)
    (hcommit : ∀ t stored updated auditEvent, P t →
      canTransition current.status call.target = true →
      t.changes.stored? call.key = some stored → stored.version = call.expectedVersion →
      (∃ transitionedAt h, updated = call.updated current transitionedAt h) →
      G t (t.commit updated auditEvent) ∧
        ∀ t', R (t.commit updated auditEvent) t' → Q (.ok updated) t')
    (herr : ∀ e t, P t → Q (.error e) t) :
    RG R G Q (ChangeOps.transitionRead rt call current) s := by
  have hraise : ∀ {e t}, P t → ∀ t', R t t' → Q (.error e) t' :=
    fun ht t' ht' => herr _ t' (hP.rely ht ht')
  refine (now rt hG hP hs).bind ?_ herr
  intro transitionedAt t₂ h₂
  split_ifs with hclock hunsupported hedge
  · exact hraise h₂
  · exact hraise h₂
  · -- the edge is allowed: draw the identifier, then commit
    refine (buildAuditEvent hG hP h₂).bind ?_ herr
    intro auditEvent t₃ h₃
    have hcommitted : RG R G
        (fun r t => (r = .ok () → Q (.ok (call.updated current transitionedAt hclock)) t) ∧
          ∀ e, r = .error e → P t)
        (onChanges (commitTransition (call.updated current transitionedAt hclock) auditEvent
          call.expectedVersion)) t₃ := by
      refine atomic fun t ht => ?_
      have hPt := hP.rely h₃ ht
      rcases commitTransition_cases (call.updated current transitionedAt hclock) auditEvent
        call.expectedVersion t.changes with ⟨e, heq⟩ | ⟨stored, hstored, hversion, -, heq⟩
      · simp only [heq]
        exact ⟨hG (Quiet.refl t), fun t' ht' => ⟨nofun, fun _ _ => hP.rely hPt ht'⟩⟩
      · simp only [heq]
        have hk : ((call.updated current transitionedAt hclock).tenantId,
            (call.updated current transitionedAt hclock).changeId) = call.key :=
          hkey
        rw [hk] at hstored
        obtain ⟨hguarantee, hend⟩ :=
          hcommit t stored _ auditEvent hPt hedge hstored hversion ⟨_, hclock, rfl⟩
        exact ⟨hguarantee, fun t' ht' => ⟨fun _ => hend t' ht', nofun⟩⟩
    -- a lost race is audited and raised again
    refine Prog.RG.bind (P := fun r t => ∀ t', R t t' → (r = .ok () →
      Q (.ok (call.updated current transitionedAt hclock)) t') ∧ ∀ e, r = .error e → P t')
      (settle (hcommitted.tryCatch (fun _ _ h => h) ?_)) ?_
      fun e t ht => herr e t ((ht t (R.refl t)).2 e rfl)
    · intro e t ht
      have hPt := ht.2 e rfl
      have hagain : ∀ {e' : Exn} {t : World X}, P t → RG R G (fun r t' => (r = .ok () →
          Q (.ok (call.updated current transitionedAt hclock)) t') ∧ ∀ e, r = .error e → P t')
          (Prog.raise e') t :=
        fun ht t' ht' => ⟨nofun, fun _ _ => hP.rely ht ht'⟩
      split
      · exact (recordAudit _ hG hP hPt).bind (fun _ t ht => hagain ht)
          fun e t ht => ⟨nofun, fun _ _ => ht⟩
      · exact hagain hPt
    · exact fun _ t h t' ht' => (h t' ht').1 rfl
  · refine (buildAuditEvent hG hP h₂).bind ?_ herr
    intro auditEvent t₃ h₃
    exact (recordAudit auditEvent hG hP h₃).bind (fun _ _ ht => hraise ht) herr

end Service

end Prog.RG

end ChangeOps
