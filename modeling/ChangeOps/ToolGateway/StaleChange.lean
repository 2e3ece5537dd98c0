import ChangeOps.Lib.Pool
import ChangeOps.Policy.Scope
import ChangeOps.ToolGateway.Takeover

/-!
# ChangeOps.ToolGateway — the state of the change when a tool is called

`evaluate_and_execute` reads the change once, before the policy is asked, and calls the tool
several actions later. Any number of requests interleave with transitions of their changes. The
policy sees `EXECUTING`; the tool is called while the change still is, as long as no transition
leaves `EXECUTING` between a request's reading and its call (`executing_of_settled`).
-/

namespace ChangeOps

/-- The key of the change that a request is about. -/
def ExecutionRequest.changeKey (request : ExecutionRequest) : String × String :=
  (request.intent.tenantId, request.intent.changeId)

/-- The stored change of a request has the status `EXECUTING`. -/
def IsExecuting (request : ExecutionRequest) (w : GatewayWorld) : Prop :=
  ∃ change, w.changes.stored? request.changeKey = some change ∧ change.status = .EXECUTING

/-! ## Runs -/

/-- What else happens: transitions of changes, and other requests; and requests end or die. -/
structure TransitionsAct (w w' : GatewayWorld) : Prop where
  reading : w'.reading = w.reading
  gone : w.gone ⊆ w'.gone

/-- Any interleaving. -/
def anyTransition : Actor Nat → GatewayWorld → GatewayWorld → Prop
  | .start _, _, _ => True
  | .by _, _, _ => True
  | .env, w, w' => TransitionsAct w w'

/-- Interleavings in which no transition takes a change out of `EXECUTING` while a request that has
read it has yet to call its tool, unless that request is gone and does not act any more. -/
structure SettledTransitions (requests : Nat → ExecutionRequest) (actor : Actor Nat)
    (w w' : GatewayWorld) : Prop where
  any : anyTransition actor w w'
  present : ∀ id, Actor.call? actor = some id → id ∉ w.gone
  transition : ∀ id ∈ w.reading, id ∉ w.gone → IsExecuting (requests id) w →
    IsExecuting (requests id) w'

/-- In every run with steps that meet `ok`, a tool is called only while the change of the request
is `EXECUTING`. -/
def CallsExecuting [Sha256] (gateway : ToolGateway) (requests : Nat → ExecutionRequest)
    (ok : Actor Nat → GatewayWorld → GatewayWorld → Prop) (w : GatewayWorld) : Prop :=
  ∀ {P P' : Pool Nat GatewayWorld GatewayExn ToolExecutionResult} {actor id},
    Pool.Reach (handleExecution gateway requests) ok (.idle w) P →
    Pool.Step (handleExecution gateway requests) P actor P' → ok actor P.state P'.state →
    P'.calls.Nodup → Actor.call? actor = some id → P'.state.patches ≠ P.state.patches →
    IsExecuting (requests id) P.state

/-! ## What requests rely on and guarantee -/

/-- The request goes by a reading that is still good, or it is gone. -/
def ReadsExecuting (request : ExecutionRequest) (id : Nat) (w : GatewayWorld) : Prop :=
  id ∈ w.gone ∨ (id ∈ w.reading ∧ IsExecuting request w)

def readingRely (request : ExecutionRequest) (id : Nat) : Rely GatewayWorld where
  rel w w' := ReadsExecuting request id w → ReadsExecuting request id w'
  refl _ h := h
  trans hab hbc h := hbc (hab h)

structure ReadingGuarantee (request : ExecutionRequest) (id : Nat) (w w' : GatewayWorld) :
    Prop where
  changes : w'.changes = w.changes
  gone : w'.gone = w.gone
  reading : ∀ id', id' ≠ id → id' ∈ w.reading → id' ∈ w'.reading
  call : id ∉ w.gone → w'.patches ≠ w.patches → IsExecuting request w

section

variable {request : ExecutionRequest} {id : Nat}

theorem Idles.readingGuarantee {w w' : GatewayWorld} (h : Idles w w') :
    ReadingGuarantee request id w w' where
  changes := h.changes
  gone := h.gone
  reading _ _ hmem := by
    rw [h.reading]
    exact hmem
  call _ hne := absurd h.patches hne

/-- Nothing but the governance repository and the reservations of the journal is written. -/
theorem readingGuarantee_of_eq {w w' : GatewayWorld} (hchanges : w'.changes = w.changes)
    (hgone : w'.gone = w.gone) (hreading : w'.reading = w.reading)
    (hpatches : w'.patches = w.patches) : ReadingGuarantee request id w w' where
  changes := hchanges
  gone := hgone
  reading _ _ hmem := by
    rw [hreading]
    exact hmem
  call _ hne := absurd hpatches hne

theorem ReadsExecuting.of_eq {w w' : GatewayWorld} (h : ReadsExecuting request id w)
    (hchanges : w'.changes = w.changes) (hgone : w'.gone = w.gone)
    (hreading : w'.reading = w.reading) : ReadsExecuting request id w' := by
  unfold ReadsExecuting IsExecuting
  rw [hchanges, hgone, hreading]
  exact h

/-- The triple of a part of the handler. -/
abbrev Reads {α : Type} (request : ExecutionRequest) (id : Nat)
    (Q : Except GatewayExn α → GatewayWorld → Prop) (p : GatewayAction α) (w : GatewayWorld) : Prop :=
  p.RG (readingRely request id) (ReadingGuarantee request id) Q w

namespace Reads

variable {α : Type} {w : GatewayWorld}

/-- A part of the handler that only looks on keeps a reading that is good. -/
theorem bystand {p : GatewayAction α} (hp : Bystands p) (hw : ReadsExecuting request id w) :
    Reads request id (fun _ t => ReadsExecuting request id t) p w :=
  hp.keeps (fun h => h.readingGuarantee) (fun ht hR => hR ht)
    (fun ht h => ht.of_eq h.changes h.gone h.reading) hw

/-- A part of the handler after the call of the tool, or without one. -/
theorem after {p : GatewayAction α} (hp : Bystands p) :
    Reads request id (fun _ _ => True) p w :=
  hp.keeps (fun h => h.readingGuarantee) (fun _ _ => trivial) (fun _ _ => trivial) trivial

/-- The reading of the change. -/
theorem readChangeFor (htenant : request.identity.tenantId = request.intent.tenantId) :
    Reads request id
      (fun r t => ∀ change, r = .ok change → change.status = .EXECUTING →
        ReadsExecuting request id t)
      (readChangeFor id request.identity.tenantId request.intent.changeId) w := by
  refine Prog.RG.atomic fun t _ => ⟨⟨rfl, rfl, ?_, fun _ hne => absurd rfl hne⟩, ?_⟩
  · exact fun _ _ hmem => List.mem_cons_of_mem _ hmem
  · intro t' ht' change hr hexecuting
    refine ht' (Or.inr ⟨List.mem_cons_self, change, ?_, hexecuting⟩)
    rw [htenant] at hr
    cases hget : t.changes.get request.intent.tenantId request.intent.changeId with
    | error e =>
      simp only [hget, Except.mapError] at hr
      cases hr
    | ok change' =>
      simp only [hget, Except.mapError, Except.ok.injEq] at hr
      subst hr
      exact InMemoryChangeStateRepository.get_eq_ok.mp hget

/-- The call of the tool, while the reading is good. -/
theorem callTool (hw : ReadsExecuting request id w) :
    Reads request id (fun _ _ => True) (callTool id) w := by
  refine Prog.RG.atomic fun t ht => ⟨⟨rfl, rfl, ?_, ?_⟩, fun _ _ => trivial⟩
  · intro id' hne hmem
    exact List.mem_filter.mpr ⟨hmem, by simpa using hne⟩
  · intro hpresent _
    rcases ht hw with hgone | ⟨-, hexecuting⟩
    · exact absurd hgone hpresent
    · exact hexecuting

/-- An action on the governance repository and the reservations of the journal. -/
theorem governs {P : GatewayWorld → Prop} {f : GatewayWorld → Except GatewayExn α × GatewayWorld}
    (hchanges : ∀ w, (f w).2.changes = w.changes) (hgone : ∀ w, (f w).2.gone = w.gone)
    (hreading : ∀ w, (f w).2.reading = w.reading) (hpatches : ∀ w, (f w).2.patches = w.patches)
    (hrely : ∀ {t t'}, P t → readingRely request id t t' → P t')
    (hP : ∀ {t t' : GatewayWorld}, P t → t'.changes = t.changes → t'.gone = t.gone →
      t'.reading = t.reading → P t') (hw : P w) :
    Reads request id (fun _ t => P t) (.atomic f) w := by
  refine Prog.RG.atomic fun t ht => ⟨?_, fun t' ht' => ?_⟩
  · exact readingGuarantee_of_eq (hchanges t) (hgone t) (hreading t) (hpatches t)
  · exact hrely (hP (hrely hw ht) (hchanges t) (hgone t) (hreading t)) ht'

end Reads

/-! ## The triple of the handler -/

variable [Sha256]

/-- The policy allows an action only in a change that is `EXECUTING`. -/
theorem PolicyInput.executing_of_failures_nil {input : PolicyInput} {evaluatedAt : Time}
    (h : input.failures evaluatedAt = []) : input.change.status = .EXECUTING := by
  simp only [failures, scopeFailures, List.append_eq_nil_iff, failWhen_eq_nil_iff,
    decide_eq_false_iff_not, ne_eq, not_not] at h
  exact h.1.1.1.1.1.1.2

omit [Sha256] in
theorem returns_enforce {β : Type} (decision : PolicyDecision) (result : β) :
    Prog.Returns (fun r => ∀ b, r = .ok b → decision.effect = .ALLOW) (enforce decision result) := by
  unfold enforce
  split_ifs with happroval hallow
  · exact fun _ h => by cases h
  · exact fun _ h => by cases h
  · exact fun _ _ => not_not.mp hallow

theorem returns_evaluatePolicy (gateway : ToolGateway) (request : ExecutionRequest)
    (registration : ToolRegistration) (change : ChangeRecord) :
    Prog.Returns (fun r => ∀ result, r = .ok result → change.status = .EXECUTING)
      (evaluatePolicy gateway request registration change) := by
  unfold evaluatePolicy
  refine .bind _ (fun plan => .bind _ (fun approval => .bind _ (fun evaluatedAt => .bind _
    (fun hex => .bind _ (fun _ => ?_) ?_) ?_) ?_) ?_) ?_
  · generalize hdecision : PolicyInput.evaluate _ _ _ = decision
    refine (returns_enforce decision (decision, approval)).mono fun r h result hr => ?_
    have hallow := h result hr
    rw [← hdecision, PolicyInput.evaluate_allow_iff] at hallow
    have hexecuting := PolicyInput.executing_of_failures_nil hallow
    exact hexecuting
  all_goals
    intro _ _ h
    cases h

namespace Reads

variable {w : GatewayWorld}

theorem evaluatePolicy (gateway : ToolGateway) (registration : ToolRegistration)
    {change : ChangeRecord}
    (hw : change.status = .EXECUTING → ReadsExecuting request id w) :
    Reads request id (fun r t => ∀ result, r = .ok result → ReadsExecuting request id t)
      (evaluatePolicy gateway request registration change) w := by
  by_cases hexecuting : change.status = .EXECUTING
  · exact (bystand (Bystands.evaluatePolicy gateway request registration change)
      (hw hexecuting)).mono fun _ _ ht _ _ => ht
  · -- the policy refuses
    exact ((after (Bystands.evaluatePolicy gateway request registration change)).returns
      (returns_evaluatePolicy gateway request registration change)).mono
        fun _ _ h result hr => absurd (h.2 result hr) hexecuting

theorem reserveAndExecute (gateway : ToolGateway) (registration : ToolRegistration)
    (arguments : FieldPatchArguments) (decision : PolicyDecision) (approval : Option Approval)
    (hw : ReadsExecuting request id w) :
    Reads request id (fun _ _ => True)
      (reserveAndExecute gateway id request registration arguments decision approval) w := by
  unfold ChangeOps.reserveAndExecute
  refine (bystand (Bystands.gatewayNow gateway) hw).bind ?_ fun _ _ _ => trivial
  intro now t ht
  have hreserve : ∀ call, Reads request id (fun _ t => ReadsExecuting request id t)
      (reserveAction id call) t := by
    intro call
    refine governs ?_ ?_ ?_ ?_ (fun ht hR => hR ht) (fun ht => ht.of_eq) ht
    all_goals
      intro w
      dsimp only
      split <;> rfl
  refine (hreserve _).bind ?_ fun _ _ _ => trivial
  intro reservation t ht
  split_ifs
  · exact after (Bystands.bind (Bystands.replay _ _ _ _) fun _ => Bystands.ret _)
  · have hexecute : Reads request id (fun _ _ => True)
        (executeTool gateway id request registration arguments) t := by
      unfold ChangeOps.executeTool
      split
      · exact fun _ _ => trivial
      · exact (callTool ht).bind (fun _ _ _ => after (Bystands.read _)) fun _ _ _ => trivial
    refine hexecute.andThen ?_
    intro r t _
    split <;> exact fun _ _ => trivial

theorem reportOutcome (gateway : ToolGateway) (decision : PolicyDecision) (outcome : QuotaOutcome) :
    Reads request id (fun _ _ => True) (reportOutcome gateway id request decision outcome) w := by
  have hreport : ∀ {held report t}, Reads request id (fun _ _ => True)
      (reportAction id request.intent held report) t := by
    intro held report t
    refine governs ?_ ?_ ?_ ?_ (fun _ _ => trivial) (fun _ _ _ _ => trivial) trivial
    all_goals
      intro w
      dsimp only [reportAction]
      split <;> rfl
  cases outcome with
  | replayed result => exact after (Bystands.ret result)
  | executed held output =>
    refine (after (Bystands.gatewayNow gateway)).bind (fun _ _ _ => ?_) fun _ _ _ => trivial
    refine hreport.bind (fun completed _ _ => ?_) fun _ _ _ => trivial
    refine after (Bystands.bind (Bystands.auditTool _ _ _ _ _ _ _ _) fun _ => ?_)
    split
    · exact Bystands.ret _
    · exact Bystands.raise _
  | adapterFailed held code detail transient =>
    refine (after (Bystands.gatewayNow gateway)).bind (fun _ _ _ => ?_) fun _ _ _ => trivial
    refine hreport.bind (fun _ _ _ => ?_) fun _ _ _ => trivial
    exact after (Bystands.bind (Bystands.auditTool _ _ _ _ _ _ _ _) fun _ => Bystands.raise _)

/-- **The handler.** Its tool is called only on a reading that is good. -/
theorem evaluateAndExecute (gateway : ToolGateway) (request : ExecutionRequest) (id : Nat)
    (w : GatewayWorld) :
    Reads request id (fun _ _ => True) (evaluateAndExecute gateway id request) w := by
  unfold ChangeOps.evaluateAndExecute
  dsimp only
  split_ifs with hkind htenant
  · exact fun _ _ => trivial
  · exact fun _ _ => trivial
  · split
    · exact after (Bystands.refuse _ _ _ _ _ _)
    next registration _ =>
      split
      · exact after (Bystands.refuse _ _ _ _ _ _)
      next arguments _ =>
        refine (readChangeFor (of_not_not htenant)).bind ?_ fun _ _ _ => trivial
        intro change t hread
        refine (evaluatePolicy gateway registration (hread change rfl)).bind ?_ fun _ _ _ => trivial
        rintro ⟨decision, approval⟩ t ht
        have hbody : Reads request id (fun _ _ => True) (withQuota gateway
            (request.intent.tenantId, request.intent.toolName) (ChangeOps.reserveAndExecute gateway
              id request registration arguments decision approval)) t := by
          refine (bystand (Bystands.acquireQuota _ _) (ht _ rfl)).bind ?_ fun _ _ _ => trivial
          intro _ t ht
          refine (reserveAndExecute gateway registration arguments decision approval ht).andThen ?_
          intro r t _
          exact after (Bystands.bind (Bystands.releaseQuota _) fun _ => Bystands.ofExcept r)
        exact hbody.bind (fun outcome _ _ => reportOutcome gateway decision outcome)
          fun _ _ _ => trivial

end Reads

/-! ## Every interleaving -/

theorem apart_reading (gateway : ToolGateway) (requests : Nat → ExecutionRequest) :
    Pool.Apart (handleExecution gateway requests) (SettledTransitions requests)
      (fun id => readingRely (requests id) id) (fun id => ReadingGuarantee (requests id) id)
      (fun _ _ _ => True) (fun _ => True) (fun _ _ => True) where
  guarantee actor id id' w w' _ hne _ hg h := by
    rcases h with hgone | ⟨hreading, hexecuting⟩
    · refine Or.inl ?_
      rw [hg.gone]
      exact hgone
    · refine Or.inr ⟨hg.reading id' hne hreading, ?_⟩
      unfold IsExecuting
      rw [hg.changes]
      exact hexecuting
  environment id w w' hok h := by
    have hothers : TransitionsAct w w' := hok.any
    rcases h with hgone | ⟨hreading, hexecuting⟩
    · exact Or.inl (hothers.gone hgone)
    · by_cases hgone : id ∈ w.gone
      · exact Or.inl (hothers.gone hgone)
      · refine Or.inr ⟨?_, hok.transition id hreading hgone hexecuting⟩
        rw [hothers.reading]
        exact hreading
  invariant _ _ _ _ _ _ _ _ := trivial
  invariant_env _ _ _ _ := trivial
  stable _ _ _ _ _ := trivial
  triple id w _ _ _ := (Reads.evaluateAndExecute gateway (requests id) id w).start

/-- In every interleaving of requests with transitions of their changes, none of them numbered
twice, in which no transition takes a change out of `EXECUTING` between the reading and the call of
a request in flight, every tool is called while the change is `EXECUTING`. -/
theorem callsExecuting_of_settled (gateway : ToolGateway) (requests : Nat → ExecutionRequest)
    (w : GatewayWorld) : CallsExecuting gateway requests (SettledTransitions requests) w := by
  intro P P' actor id hreach hstep hok hnodup hcall hpatches
  have hcalls : P.calls.Nodup := hnodup.sublist hstep.calls_prefix.sublist
  have hholds := (apart_reading gateway requests).holds trivial (fun _ => trivial) hreach hcalls
  rcases hholds.guarantee (apart_reading gateway requests) hstep hok hcall hnodup with heq | hg
  · exact absurd (congrArg GatewayWorld.patches heq) hpatches
  · exact hg.call (hok.present id hcall) hpatches

end

namespace Overlap

/-- The change begins its rollback. -/
def rollsBack (P : OverlapPool) : OverlapPool :=
  ⟨P.threads, { P.state with changes := P.state.changes.put { change with
    status := .ROLLING_BACK
    currentPhase := .ROLLING_BACK
    phase_eq := rfl
    version := 2
    version_pos := Nat.le_succ 1 } }⟩

/-- Request 0 has read the change, which then begins its rollback. -/
def stale : OverlapPool := rollsBack (Pool.turn handle (.idle world) (.start 0))

/-- Request 0 is about to call the tool. -/
def beforeCall : OverlapPool := Pool.play handle stale (List.replicate 9 (.move 0 false))

def afterCall : OverlapPool := Pool.turn handle beforeCall (.move 0 false)

def statusIn (P : OverlapPool) : Option WorkflowState :=
  (P.state.changes.stored? request.changeKey).map (·.status)

/-- The request is there, and the change stays `EXECUTING`. -/
def settles (id : Nat) (w w' : GatewayWorld) : Bool :=
  !w.gone.contains id &&
    decide ((w'.changes.stored? request.changeKey).map (·.status) = some .EXECUTING)

theorem settled_of_settles (actor : Actor Nat) (id : Nat) (w w' : GatewayWorld)
    (hcall : Actor.call? actor = some id) (hcheck : settles id w w' = true) :
    SettledTransitions (fun _ => request) actor w w' := by
  rw [settles, Bool.and_eq_true, Bool.not_eq_true', List.contains_eq_mem, decide_eq_false_iff_not,
    decide_eq_true_iff, Option.map_eq_some_iff] at hcheck
  constructor
  case any =>
    cases actor with
    | start => trivial
    | «by» => trivial
    | env => cases hcall
  case present =>
    intro id' hcall'
    rw [hcall] at hcall'
    cases hcall'
    exact hcheck.1
  case transition =>
    intro id' _ _ _
    exact hcheck.2

/-- Nothing happens to the change, and the tool is called. -/
example : ∃ P : OverlapPool,
    Pool.Reach handle (SettledTransitions fun _ => request) (.idle world) P ∧ P.state.patches = 1 :=
  ⟨Pool.play handle (.idle world) (reserves 0 ++ [.move 0 false]),
    Pool.reach_play_of_passes settled_of_settles _ _ (by decide +kernel), by decide +kernel⟩

theorem afterCall_eq :
    (beforeCall.state.patches, afterCall.state.patches, statusIn beforeCall, afterCall.calls) =
      (0, 1, some .ROLLING_BACK, [0]) := by
  decide +kernel

end Overlap

open Overlap in
/-- A request that has read `EXECUTING` calls the tool during the rollback. -/
theorem not_callsExecuting_rollback :
    ¬ ∀ [Sha256] (gateway : ToolGateway) (requests : Nat → ExecutionRequest) (w : GatewayWorld),
      CallsExecuting gateway requests anyTransition w := by
  intro h
  obtain ⟨hbefore, hrest⟩ := Prod.mk.inj afterCall_eq
  obtain ⟨hafter, hrest⟩ := Prod.mk.inj hrest
  obtain ⟨hstatus, hcalls⟩ := Prod.mk.inj hrest
  have hreach : Pool.Reach handle anyTransition (.idle world) beforeCall := by
    have hread : Pool.Reach handle anyTransition (.idle world)
        (Pool.turn handle (.idle world) (.start 0)) :=
      Pool.reach_play (fun _ _ _ => trivial) [.start 0] (fun _ _ _ _ => trivial) _
    have hroll : Pool.Step handle (Pool.turn handle (.idle world) (.start 0)) .env stale :=
      .env _ _ _
    have hrest : Pool.Reach handle anyTransition stale beforeCall :=
      Pool.reach_play (fun _ _ _ => trivial) _ (fun _ _ _ _ => trivial) _
    exact (Pool.Reach.tail hread hroll ⟨rfl, fun _ h => h⟩).trans hrest
  have hne : afterCall ≠ beforeCall := by
    intro heq
    rw [heq, hbefore] at hafter
    cases hafter
  obtain ⟨id, p, -, hturn⟩ := Pool.step_of_turn_ne hne
  have hstep : Pool.Step handle beforeCall (.by id) afterCall := hturn
  obtain ⟨change, hget, hexecuting⟩ := h gateway (fun _ => request) world hreach hstep trivial
    (by rw [hcalls]; decide) rfl (by rw [hbefore, hafter]; decide)
  rw [statusIn, hget] at hstatus
  rw [Option.map_some, hexecuting] at hstatus
  cases hstatus

end ChangeOps
