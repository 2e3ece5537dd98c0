import ChangeOps.Workflow.Snapshots
import ChangeOps.ControlApi.Routes

/-!
# ChangeOps.Workflow — who may have a change executed

Deliveries, approval callbacks, cancellations and retries share the change of an event. The
graph alone would let anyone execute a change from `APPROVED`, `PLAN_READY` or
`NEEDS_ATTENTION`; that only an approval of the bound plan does so is a property of the
callers. It holds as long as `cancel` and `retry` are given versions that exist: a retry with a
guessed version can ask for `EXECUTING` itself and get it.
-/

namespace ChangeOps

open InMemoryChangeStateRepository

/-- Everything that moves a change. -/
inductive Request where
  | message (message : Message)
  | cancel (request : RouteRequest)
  | retry (request : RouteRequest)

section Requests

variable [Sha256] {E : Type}

/-- The handlers, without their answers. -/
def WorkflowEngine.handle (engine : WorkflowEngine E) : Request → WorkflowEngine.Run E Unit
  | .message message => do
      let _ ← engine.receive message
      return ()
  | .cancel request => do
      let _ ← request.cancelChange engine.rt
      return ()
  | .retry request => do
      let _ ← request.retryChange engine.rt
      return ()

/-- Requests in any order. The change of `event` has one workflow: a delivery for the change
is a delivery for the workflow. -/
def anyRequest (event : ChangeEvent) :
    Actor Request → CoordinatorWorld E → CoordinatorWorld E → Prop
  | .start (.message (.event delivered)), _, _ =>
      changeKey event = changeKey delivered → workflowKey event = workflowKey delivered
  | .env, w, w' => Noted [] w w'
  | _, _, _ => True

/-- The version that a route is given is not ahead of the stored one when the route first
reads the change. -/
def RouteRequest.VersionKnown (request : RouteRequest) (w : CoordinatorWorld E) : Prop :=
  ∀ stored, w.changes.stored? (request.tenantId, request.changeId) = some stored →
    request.mutation.expectedVersion ≤ stored.version

/-- As `anyRequest`, with versions that are known. -/
def knownVersions (event : ChangeEvent) (actor : Actor Request) (w w' : CoordinatorWorld E) :
    Prop :=
  anyRequest event actor w w' ∧ match actor with
    | .start (.cancel request) => request.VersionKnown w
    | .start (.retry request) => request.VersionKnown w
    | _ => True

/-- Every commit that sets the change of `event` to `EXECUTING` is made by a run for an approval
of the plan that the workflow and the change carry, before and after it; and the plan of the
workflow is set once. -/
structure ExecutesApproved (engine : WorkflowEngine E) (event : ChangeEvent)
    (ok : Actor Request → CoordinatorWorld E → CoordinatorWorld E → Prop)
    (w : CoordinatorWorld E) : Prop where
  commit : ∀ {P P' : Pool Request (CoordinatorWorld E) Exn Unit} {actor change change'},
    Pool.Reach engine.handle ok (.idle w) P → Pool.Step engine.handle P actor P' →
    ok actor P.state P'.state → P.state.changes.stored? (changeKey event) = some change →
    P'.state.changes.stored? (changeKey event) = some change' → change' ≠ change →
    change'.status = .EXECUTING →
    ∃ callback, actor.call? = some (.message (.callback callback)) ∧
      Authorises callback event P.state ∧ Authorises callback event P'.state
  plan : ∀ {P P' : Pool Request (CoordinatorWorld E) Exn Unit} {record plan},
    Pool.Reach engine.handle ok (.idle w) P → Pool.Reach engine.handle ok P P' →
    P.state.workflow? (workflowKey event) = some record → record.plan = some plan →
    ∃ record', P'.state.workflow? (workflowKey event) = some record' ∧ record'.plan = some plan

/-- A world to start from: no snapshots yet; the change of the event, if it is there, names its
workflow and carries its plan where it has to. -/
structure Prepared (event : ChangeEvent) (w : CoordinatorWorld E) : Prop where
  unsnapshotted : Unsnapshotted w
  binding : PlanBinding event w

theorem Prepared.consistent {event : ChangeEvent} {w : CoordinatorWorld E}
    (h : Prepared event w) : Consistent (some event) w := by
  refine ⟨h.unsnapshotted.distinct, h.unsnapshotted.consistent.snapshots, fun e hmem => ?_⟩
  cases hmem
  exact h.binding

/-! ## The routes -/

variable {focus : Option ChangeEvent} {authorised : ChangeEvent → CoordinatorWorld E → Prop}
  {engine : WorkflowEngine E} {request : RouteRequest} {s : CoordinatorWorld E}

/-- The service commits for a route only edges into states that need no plan. -/
theorem works_routeTransition {rt : Runtime} {target : WorkflowState} {current : ChangeRecord}
    {P : CoordinatorWorld E → Prop} (hP : Lasting focus P) (hs : P s)
    (hread : HasRead (request.transitionCall target) current s)
    (hunbound : ∀ t, P t →
      t.changes.stored? (request.tenantId, request.changeId) = some current →
      current.version = request.mutation.expectedVersion →
      canTransition current.status target = true → target.isBound = false) :
    Works focus authorised (fun _ _ => True)
      (transitionRead rt (request.transitionCall target) current) s := by
  refine works_transitionRead hP hs hread ?_ fun _ _ => trivial
  intro t updated auditEvent hPt hstored hkey hversion hedge hstatus hcarries hadvances
  have hnot : updated.status.isBound = false := by
    rw [hstatus]
    rw [hkey] at hstored
    exact hunbound t hPt hstored hversion hedge
  refine ⟨worksWithin_commit hstored hadvances hcarries ?_ ?_, fun _ _ => trivial⟩
  · intro _ hbound
    rw [hnot] at hbound
    cases hbound
  · intro hexecuting
    rw [hexecuting] at hnot
    cases hnot

theorem works_cancelChange (rt : Runtime) (hversion : request.VersionKnown s)
    (hs : Consistent focus s) :
    Prog.RGStart (evolves focus) (WorksWithin focus authorised) (fun _ _ => True)
      (request.cancelChange rt) s := by
  have hconsistent : Lasting (E := E) focus (Consistent focus) := fun _ _ h he => he.consistent h
  have hread : Prog.RGStart (evolves focus) (WorksWithin focus authorised)
      (fun r t => ∀ current, r = .ok current → Consistent focus t ∧
        HasRead (request.transitionCall .CANCELLED) current t)
      (getChange request.tenantId request.changeId) s := by
    refine Prog.RGStart.atomic (worksWithin_of_quiet (Quiet.refl s).noted) fun t ht current hget => ?_
    have hstored := get_eq_ok.mp hget
    exact ⟨hconsistent _ _ hs ht, key_of_stored hstored, hversion current hstored,
      hstored ▸ ht.changes _⟩
  refine Prog.RGStart.bind (P := fun _ _ => True)
    (hread.bind (fun current t ht => ?_) fun _ _ _ => trivial) (fun _ t _ => ?_) fun _ _ _ => trivial
  · obtain ⟨hc, hhasRead⟩ := ht current rfl
    exact works_routeTransition hconsistent hc hhasRead fun _ _ _ _ _ => rfl
  · exact works_quiet (fun t => Quiet.refl t) (Lasting.const True) trivial

/-- A retry commits only if the change is still the one that it has read first, and then only
an edge to `SCREENING`. -/
theorem works_retryChange (rt : Runtime) (hversion : request.VersionKnown s)
    (hs : Consistent focus s) :
    Prog.RGStart (evolves focus) (WorksWithin focus authorised) (fun _ _ => True)
      (request.retryChange rt) s := by
  have hlasting : ∀ before, Lasting (E := E) focus fun t => Consistent focus t ∧
      Advances (some before) (t.changes.stored? (request.tenantId, request.changeId)) :=
    fun before _ _ h he => ⟨he.consistent h.1, h.2.trans (he.changes _)⟩
  have hread : Prog.RGStart (evolves focus) (WorksWithin focus authorised)
      (fun r t => ∀ before, r = .ok before → (Consistent focus t ∧
        Advances (some before) (t.changes.stored? (request.tenantId, request.changeId))) ∧
        request.mutation.expectedVersion ≤ before.version)
      (getChange request.tenantId request.changeId) s := by
    refine Prog.RGStart.atomic (worksWithin_of_quiet (Quiet.refl s).noted) fun t ht before hget => ?_
    have hstored := get_eq_ok.mp hget
    exact ⟨⟨ht.consistent hs, hstored ▸ ht.changes _⟩, hversion before hstored⟩
  refine hread.bind (fun before t ht => ?_) fun _ _ _ => trivial
  obtain ⟨hbefore, hle⟩ := ht before rfl
  refine Prog.RG.bind (P := fun _ _ => True) ?_ (fun _ t _ => ?_) fun _ _ _ => trivial
  · refine (works_readAgain (hlasting before) hbefore hbefore.2 hle).bind
      (fun current t ht => ?_) fun _ _ _ => trivial
    obtain ⟨hPt, hhasRead⟩ := ht current rfl
    refine works_routeTransition (hlasting before) hPt hhasRead ?_
    intro t hPt hstored hexpected hedge
    obtain rfl : current = before := by
      have hadvances := hPt.2
      rw [hstored] at hadvances
      exact hadvances.eq_of_version_le (hexpected ▸ hle)
    rw [retryTarget_of_canTransition hedge]
    rfl
  · exact works_quiet (fun t => Quiet.refl t) (Lasting.const True) trivial

/-! ## Every run -/

/-- The states in which a request may move the change to `EXECUTING`. -/
def Request.mayExecute : Request → ChangeEvent → CoordinatorWorld E → Prop
  | .message (.callback callback) => Authorises callback
  | _ => fun _ _ => False

theorem handle_sound (engine : WorkflowEngine E) (event : ChangeEvent) :
    Pool.Sound engine.handle (knownVersions event) (evolves (some event))
      (fun request => WorksWithin (some event) request.mayExecute) (fun _ _ _ => True)
      (Consistent (some event)) where
  guarantee _ _ _ _ _ _ h := h.evolves
  environment _ _ h := evolves_of_noted h.1 fun _ _ hmem => nomatch hmem
  invariant _ _ h he := he.consistent h
  triple request s s' h hok := by
    have hanswer : ∀ {α : Type} {p : WorkflowEngine.Run E α} {G : _ → _ → Prop},
        p.RGStart (evolves (some event)) G (fun _ _ => True) s →
        (do let _ ← p
            return ()).RGStart (evolves (some event)) G (fun _ _ => True) s :=
      fun hp => hp.bind (fun _ _ _ _ _ => trivial) fun _ _ _ => trivial
    match request with
    | .message (.event delivered) =>
      refine hanswer (Prog.RG.start (works_processEvent (fun e hmem => ?_) h))
      cases hmem
      exact hok.1
    | .message (.callback callback) => exact hanswer (Prog.RG.start (works_resumeApproval h))
    | .cancel request => exact hanswer (works_cancelChange engine.rt hok.2 h)
    | .retry request => exact hanswer (works_retryChange engine.rt hok.2 h)

/-- What authorises an execution lasts. -/
theorem Authorises.mono {callback : ApprovalCallbackRequest} {event : ChangeEvent}
    {w w' : CoordinatorWorld E} (h : Authorises callback event w)
    (he : Evolves (some event) w w') : Authorises callback event w' := by
  obtain ⟨hstatus, change, record, hchange, hrecord, hmatches, hhash, hversion⟩ := h
  obtain ⟨plan, hplan, hplanVersion⟩ := Option.map_eq_some_iff.mp hmatches.planVersion
  have hplanMatches := record.plan_matches
  rw [hplan] at hplanMatches
  have hbound : PlanBound event w := by
    refine ⟨change, record, plan, hchange, hrecord, hplan, ?_, hversion.trans hplanVersion.symm⟩
    rw [hhash, ← hmatches.planHash, hplanMatches.2.2.1]
  exact authorises_of_bound hstatus hmatches (he.workflows _ _ hrecord) (he.bound event rfl hbound)

/-- **Only approved plans are executed**, in every run whose routes are given known versions. -/
theorem executesApproved_of_knownVersions (engine : WorkflowEngine E) (event : ChangeEvent)
    {w : CoordinatorWorld E} (hw : Prepared event w) :
    ExecutesApproved engine event (knownVersions event) w := by
  have hsound := handle_sound engine event
  constructor
  · intro P P' actor change change' hreach hstep hok hold hnew hne hexecuting
    have hholds := hsound.holds hw.consistent hreach
    have hevolves := (hholds.step hsound hstep hok).2
    cases hcall : actor.call? with
    | none =>
      cases hstep with
      | start => cases hcall
      | move => cases hcall
      | env =>
        -- the environment stores no change
        rw [hok.1.changes, hold] at hnew
        exact absurd (Option.some.inj hnew).symm hne
    | some request =>
      rcases hholds.guarantee hsound hstep hok hcall with heq | hworks
      · rw [heq, hold] at hnew
        exact absurd (Option.some.inj hnew).symm hne
      · have hmay := hworks.executing event rfl change change' hold hnew hne hexecuting
        match request, hmay with
        | .message (.callback callback), hauthorised =>
          exact ⟨callback, rfl, hauthorised, hauthorised.mono hevolves⟩
  · intro P P' record plan hreach hlater hstored hplan
    have hholds := hsound.holds hw.consistent hreach
    obtain ⟨record', hstored', hext⟩ := (Pool.sound hsound hholds hlater).2.workflows _ _ hstored
    exact ⟨record', hstored', (hext.plan (by rw [hplan]; rfl)).1.trans hplan⟩

end Requests

namespace Demo

theorem stored?_waiting : waiting.changes.stored? (changeKey event) =
    some (changeIn .AWAITING_APPROVAL) :=
  stored?_put_self _ _

theorem prepared_waiting : Prepared event waiting := by
  refine ⟨unsnapshotted_waiting, ?_, ?_⟩
  · intro stored h
    rw [stored?_waiting] at h
    cases h
    exact .inr rfl
  · intro stored _ _
    exact ⟨changeIn .AWAITING_APPROVAL, waitingRecord, plan, stored?_waiting,
      InMemoryWorkflowRepository.stored?_put_self _ _, rfl, rfl, rfl⟩

end Demo

open Demo in
/-- The workflow at the approval pause. -/
theorem executesApproved_waiting :
    ExecutesApproved healthyEngine event (knownVersions event) waiting :=
  executesApproved_of_knownVersions healthyEngine event prepared_waiting

/-! ## A guessed version

The approval is given, the change is `EXECUTING` at version 3. A retry reads it there, so it
asks for `EXECUTING`, and expects version 5. The step fails and so does its rollback, which
leaves the change in `NEEDS_ATTENTION` at version 5. Then the retry goes on. -/

namespace Demo

/-- Services that refuse the step and its rollback. -/
def brokenServices : Services Unit :=
  { healthyServices with
    execute := fun _ _ _ => .raise (.dependencyCall "TOOL_REJECTED" false)
    restore := fun _ _ _ _ _ e => (.error (.dependencyCall "RESTORE_REJECTED" false), e) }

def brokenEngine : WorkflowEngine Unit := ⟨brokenServices, retryPolicy, runtime⟩

def guessedRetry : Request :=
  .retry ⟨"tenant_demo", changeId, "user_001", ⟨5, "trace_002", by decide⟩⟩

def retrySchedule : List (Turn Request) :=
  .start (.message (.callback (callback .APPROVED))) :: List.replicate 11 (.move 0 false) ++
    .start guessedRetry :: List.replicate 40 (.move 0 false) ++ List.replicate 3 (.move 1 false)

def beforeRetry : Pool Request (CoordinatorWorld Unit) Exn Unit :=
  Pool.play brokenEngine.handle (.idle waiting) retrySchedule

def changeStatus (P : Pool Request (CoordinatorWorld Unit) Exn Unit) : Option WorkflowState :=
  (P.state.changes.stored? (changeKey event)).map (·.status)

def Request.isRetry : Request → Bool
  | .retry _ => true
  | _ => false

/-- The statuses around the last commit, and whether a retry makes it. -/
def lastCommit : Option WorkflowState × Option WorkflowState × Option Bool :=
  (changeStatus beforeRetry, changeStatus (beforeRetry.turn brokenEngine.handle (.move 1 false)),
    beforeRetry.threads[1]?.map fun thread => Request.isRetry thread.1)

theorem lastCommit_eq : lastCommit = (some .NEEDS_ATTENTION, some .EXECUTING, some true) := by
  decide +kernel

/-- A retry that sets the status `EXECUTING` is not an approved execution. -/
theorem not_executesApproved_of_retry {P : Pool Request (CoordinatorWorld Unit) Exn Unit}
    (happroved : ExecutesApproved brokenEngine event (anyRequest event) waiting)
    (hreach : Pool.Reach brokenEngine.handle (anyRequest event) (.idle waiting) P)
    (hbefore : changeStatus P = some .NEEDS_ATTENTION)
    (hafter : changeStatus (P.turn brokenEngine.handle (.move 1 false)) = some .EXECUTING)
    (hretry : P.threads[1]?.map (fun thread => Request.isRetry thread.1) = some true) : False := by
  obtain ⟨change, hold, hs⟩ := Option.map_eq_some_iff.mp hbefore
  obtain ⟨change', hnew, ht⟩ := Option.map_eq_some_iff.mp hafter
  have hne : change' ≠ change := by
    rintro rfl
    rw [hs] at ht
    cases ht
  have hturn : P.turn brokenEngine.handle (.move 1 false) ≠ P := by
    intro heq
    rw [heq, hold] at hnew
    exact hne (Option.some.inj hnew).symm
  obtain ⟨call, p, hthread, hstep⟩ := Pool.step_of_turn_ne hturn
  obtain ⟨callback, hcall, -⟩ := happroved.commit hreach hstep trivial hold hnew hne ht
  cases hcall
  rw [hthread] at hretry
  cases hretry

end Demo

open Demo in
/-- With a guessed version a retry sets the status `EXECUTING`. -/
theorem not_executesApproved_anyRequest :
    ¬ ∀ [Sha256] (engine : WorkflowEngine Unit) (event : ChangeEvent) (w : CoordinatorWorld Unit),
      Prepared event w → ExecutesApproved engine event (anyRequest event) w := by
  intro h
  have hreach : Pool.Reach brokenEngine.handle (anyRequest event) (.idle waiting) beforeRetry := by
    refine Pool.reach_play (fun _ _ _ => trivial) retrySchedule ?_ _
    intro call s s' hmem
    simp only [retrySchedule, List.mem_cons, List.mem_append, List.mem_replicate, Turn.start.injEq,
      reduceCtorEq, and_false, or_false, false_or, List.cons_append] at hmem
    rcases hmem with rfl | rfl <;> exact trivial
  obtain ⟨hbefore, hlast⟩ := Prod.mk.inj lastCommit_eq
  obtain ⟨hafter, hretry⟩ := Prod.mk.inj hlast
  exact not_executesApproved_of_retry (h brokenEngine event waiting prepared_waiting) hreach hbefore
    hafter hretry

end ChangeOps
