import Mathlib.Logic.Relation
import ChangeOps.Workflow.Intake

/-!
# ChangeOps.Workflow — the Pub/Sub subscriber

`PubSubWorkflowSubscriber._handle_message` (`changeops_workflow_coordinator/subscriber.py`): a
message is parsed, its event is delivered to the engine, and the message is acknowledged, given
back, or published on the dead-letter topic and then acknowledged.

Pub/Sub goes on delivering a message until it is acknowledged. `MessageStep` is one thing that can
happen in the meantime, and `acknowledged_accounted` what an acknowledgement means: an event that
Pub/Sub forgets is not lost on the way to its approval.
-/

namespace ChangeOps

open InMemoryChangeStateRepository WorkflowEngine

section Subscriber

variable [Sha256] {E Payload : Type}

/-! ## The handler -/

/-- `future.result(timeout=300)`. -/
inductive Awaited where
  | returned (record : WorkflowExecutionRecord)
  | raised (e : Exn)
  | timedOut

/-- How `future.result(timeout=10)` ends when a dead letter is published. It raises if the server
does not confirm, and then the letter may still be on the topic. -/
inductive Publication where
  | confirmed
  | unconfirmed
  | refused

/-- `message.ack()` and `message.nack()`. -/
inductive Settlement where
  | ack
  | nack
deriving DecidableEq, Repr

/-- What the handler has done with a message when it returns or raises: a message is not settled
when the handler raises. -/
structure Handling (Payload : Type) where
  published : List (Payload × String)
  settlement : Option Settlement

omit [Sha256] in
/-- `self._publish_dead_letter(message.data, error_code)`, then `message.ack()`. -/
def publishAndAck (payload : Payload) (errorCode : String) : Publication → Handling Payload
  | .confirmed => ⟨[(payload, errorCode)], some .ack⟩
  | .unconfirmed => ⟨[(payload, errorCode)], none⟩
  | .refused => ⟨[], none⟩

/-- `record.last_error_code or "WORKFLOW_FAILED"`. -/
def letterCode (record : WorkflowExecutionRecord) : String :=
  (record.lastErrorCode.filter (· ≠ "")).getD "WORKFLOW_FAILED"

/-- `_handle_message`: `event?` is what the payload is parsed to, and `running` says whether the
subscriber has been started with a loop. -/
def handleMessage (payload : Payload) (event? : Option ChangeEvent) (running : Bool)
    (awaited : Awaited) (publication : Publication) : Handling Payload :=
  match event? with
  | none => publishAndAck payload "INVALID_EVENT_SCHEMA" publication
  | some _ =>
      if ¬ running then ⟨[], some .nack⟩
      else match awaited with
        | .raised (.workflowTransient _) => ⟨[], some .nack⟩
        | .raised (.workflowPermanent code) => publishAndAck payload code publication
        | .timedOut => ⟨[], some .nack⟩
        | .raised _ => ⟨[], some .nack⟩
        | .returned record =>
            if record.status = .DEAD_LETTERED then
              publishAndAck payload (letterCode record) publication
            else ⟨[], some .ack⟩

/-! ## The life of a message -/

/-- The coordinator's world, the dead-letter topic, and whether the message is acknowledged. -/
structure Subscription (Payload E : Type) where
  world : CoordinatorWorld E
  topic : List (Payload × String)
  acknowledged : Bool

/-- What a handled message leaves. -/
def Subscription.settle (s : Subscription Payload E) (world : CoordinatorWorld E)
    (handling : Handling Payload) : Subscription Payload E where
  world := world
  topic := s.topic ++ handling.published
  acknowledged := s.acknowledged || handling.settlement = some .ack

/-- What the future gives when its coroutine has `rest` still to run. A coroutine that has not
ended when the time is up is cancelled. -/
inductive Awaits : WorkflowEngine.Run E WorkflowExecutionRecord → Awaited → Prop where
  | returned (record : WorkflowExecutionRecord) : Awaits (.ret record) (.returned record)
  | raised (e : Exn) : Awaits (.raise e) (.raised e)
  | timedOut (rest : WorkflowEngine.Run E WorkflowExecutionRecord) : Awaits rest .timedOut

/-- One thing that can happen while a message is with Pub/Sub: something elsewhere, a message that
comes before the subscriber has been started, a delivery that is handled, or one with which the
process dies. No approval callback of the event comes in: `elsewhere` leaves its workflow alone. -/
inductive MessageStep (payload : Payload) (event : ChangeEvent) :
    Subscription Payload E → Subscription Payload E → Prop where
  | elsewhere {s : Subscription Payload E} (world : CoordinatorWorld E)
      (topic : List (Payload × String)) (h : Elsewhere event s.world world)
      (htopic : s.topic ⊆ topic) : MessageStep payload event s ⟨world, topic, s.acknowledged⟩
  | unstarted {s : Subscription Payload E} (awaited : Awaited) (publication : Publication) :
      MessageStep payload event s
        (s.settle s.world (handleMessage payload (some event) false awaited publication))
  | handled {s : Subscription Payload E} (engine : WorkflowEngine E)
      (rest : WorkflowEngine.Run E WorkflowExecutionRecord) (world : CoordinatorWorld E)
      (awaited : Awaited) (publication : Publication)
      (h : Prog.Reaches (engine.processEvent event) s.world rest world) (hawaits : Awaits rest awaited) :
      MessageStep payload event s
        (s.settle world (handleMessage payload (some event) true awaited publication))
  | died {s : Subscription Payload E} (engine : WorkflowEngine E)
      (rest : WorkflowEngine.Run E WorkflowExecutionRecord) (world : CoordinatorWorld E)
      (h : Prog.Reaches (engine.processEvent event) s.world rest world) :
      MessageStep payload event s { s with world := world }

/-- Somebody answers for the event: its workflow is stored in a status with which a delivery returns
it at once, and the payload of a dead-lettered one is on the topic with its error code; or the
delivery failed for good and the payload is on the topic. -/
def Accounted (payload : Payload) (event : ChangeEvent) (s : Subscription Payload E) : Prop :=
  (∃ record, s.world.workflow? (workflowKey event) = some record ∧ returnsEarly record.status = true ∧
    (record.status = .DEAD_LETTERED → (payload, letterCode record) ∈ s.topic)) ∨
  ∃ code, (payload, code) ∈ s.topic

/-! ## What an acknowledgement means -/

variable {payload : Payload} {event : ChangeEvent} {s t : Subscription Payload E}
  {w w' : CoordinatorWorld E}

/-- **What a delivery returns is what it leaves stored**, and a later one returns it at once. -/
theorem returned_settled {engine : WorkflowEngine E} {record : WorkflowExecutionRecord}
    (h : Prog.Runs (engine.processEvent event) w (.ok record) w') :
    w'.workflow? (workflowKey event) = some record ∧ returnsEarly record.status = true := by
  have hend := (delivers_unhealthy engine event w).of_runs h
  cases hend with
  | early hstored hearly hsame =>
    exact ⟨(workflow?_of_workflows (by rw [hsame.rest])).trans hstored, hearly⟩
  | went hbegins hend =>
    cases hend with
    | waiting _ hleft hstatus _ => exact ⟨hleft.stored, by rw [hstatus]; rfl⟩
    | blocked _ hleft hstatus _ _ => exact ⟨hleft.stored, by rw [hstatus]; rfl⟩
    | gaveUp _ hleft hstatus _ _ _ _ _ => exact ⟨hleft.stored, by rw [hstatus]; rfl⟩

omit [Sha256] in
theorem publishAndAck_ack {errorCode : String} {publication : Publication}
    (h : (publishAndAck payload errorCode publication).settlement = some .ack) :
    (publishAndAck payload errorCode publication).published = [(payload, errorCode)] := by
  cases publication with
  | confirmed => rfl
  | unconfirmed => cases h
  | refused => cases h

/-- The ways to an acknowledgement. -/
theorem handleMessage_ack {running : Bool} {awaited : Awaited} {publication : Publication}
    (h : (handleMessage payload (some event) running awaited publication).settlement = some .ack) :
    (∃ record, awaited = .returned record ∧ (record.status = .DEAD_LETTERED →
      (handleMessage payload (some event) running awaited publication).published =
        [(payload, letterCode record)])) ∨
    ∃ code, (handleMessage payload (some event) running awaited publication).published =
      [(payload, code)] := by
  cases running with
  | false => cases h
  | true =>
    cases awaited with
    | timedOut => cases h
    | raised e =>
      cases e with
      | workflowPermanent code => exact .inr ⟨code, publishAndAck_ack h⟩
      | _ => cases h
    | returned record =>
      refine .inl ⟨record, rfl, fun hdead => ?_⟩
      have hletter : handleMessage payload (some event) true (.returned record) publication =
          publishAndAck payload (letterCode record) publication := if_pos hdead
      rw [hletter] at h ⊢
      exact publishAndAck_ack h

/-- An event stays accounted for. -/
theorem Accounted.step (h : Accounted payload event s) (hheadway : Headway event s.world t.world)
    (htopic : s.topic ⊆ t.topic) : Accounted payload event t := by
  rcases h with ⟨record, hstored, hearly, hletter⟩ | ⟨code, hmem⟩
  · exact .inl ⟨record, (hheadway.settled record hstored hearly).1, hearly,
      fun hdead => htopic (hletter hdead)⟩
  · exact .inr ⟨code, htopic hmem⟩

/-- The handler acknowledges only what is accounted for. -/
theorem accounted_of_ack {engine : WorkflowEngine E}
    {rest : WorkflowEngine.Run E WorkflowExecutionRecord} {world : CoordinatorWorld E}
    {awaited : Awaited} {publication : Publication}
    (h : Prog.Reaches (engine.processEvent event) s.world rest world) (hawaits : Awaits rest awaited)
    (hack : (handleMessage payload (some event) true awaited publication).settlement = some .ack) :
    Accounted payload event
      (s.settle world (handleMessage payload (some event) true awaited publication)) := by
  rcases handleMessage_ack hack with ⟨record, rfl, hletter⟩ | ⟨code, hpublished⟩
  · -- the coroutine has returned this record, so it is the stored one
    cases hawaits with
    | returned _ =>
      obtain ⟨hstored, hearly⟩ := returned_settled h
      refine .inl ⟨record, hstored, hearly, fun hdead => List.mem_append_right _ ?_⟩
      rw [hletter hdead]
      exact List.mem_singleton.mpr rfl
  · refine .inr ⟨code, List.mem_append_right _ ?_⟩
    rw [hpublished]
    exact List.mem_singleton.mpr rfl

/-- What is kept while a message is with Pub/Sub. -/
structure MessageKept (payload : Payload) (event : ChangeEvent) (s : Subscription Payload E) : Prop where
  intake : Intake event s.world
  accounted : s.acknowledged = true → Accounted payload event s

/-- One step keeps it. -/
theorem MessageKept.step (h : MessageKept payload event s) (hstep : MessageStep payload event s t) :
    MessageKept payload event t := by
  obtain ⟨hintake, haccounted⟩ := h
  cases hstep with
  | elsewhere world topic helsewhere htopic =>
    refine ⟨helsewhere.intake hintake, fun hack => ?_⟩
    exact (haccounted hack).step helsewhere.headway htopic
  | unstarted awaited publication =>
    refine ⟨hintake, fun hack => ?_⟩
    -- the message is given back, so it was acknowledged before
    have hbefore : s.acknowledged = true := by
      simpa [Subscription.settle, handleMessage] using hack
    exact (haccounted hbefore).step (.refl s.world) (List.subset_append_left _ _)
  | handled engine rest world awaited publication hreaches hawaits =>
    obtain ⟨hnext, hheadway⟩ := intake_of_reaches hintake hreaches
    refine ⟨hnext, fun hack => ?_⟩
    have hsettled : s.acknowledged = true ∨
        (handleMessage payload (some event) true awaited publication).settlement = some .ack := by
      simpa [Subscription.settle] using hack
    rcases hsettled with hbefore | hack
    · exact (haccounted hbefore).step hheadway (List.subset_append_left _ _)
    · exact accounted_of_ack hreaches hawaits hack
  | died engine rest world hreaches =>
    obtain ⟨hnext, hheadway⟩ := intake_of_reaches hintake hreaches
    exact ⟨hnext, fun hack => (haccounted hack).step hheadway (List.Subset.refl _)⟩

theorem MessageKept.steps (h : MessageKept payload event s)
    (hsteps : Relation.ReflTransGen (MessageStep payload event) s t) : MessageKept payload event t := by
  induction hsteps with
  | refl => exact h
  | tail _ hstep ih => exact ih.step hstep

theorem messageKept_of_unknown (hunknown : Unknown event s.world) (hnew : s.acknowledged = false) :
    MessageKept payload event s :=
  ⟨hunknown.intake, fun hack => by rw [hnew] at hack; cases hack⟩

/-- **No acknowledged event is lost** before its approval is decided. However often a message is
delivered, wherever its deliveries are cut off and whatever Pub/Sub answers: at any time after an
acknowledgement the workflow of the event is stored in a status with which a delivery returns it at
once, with the payload of a dead-lettered one on the topic under its error code; or the payload is on
the topic because a delivery failed for good. -/
theorem acknowledged_accounted (hunknown : Unknown event s.world) (hnew : s.acknowledged = false)
    (h : Relation.ReflTransGen (MessageStep payload event) s t) (hack : t.acknowledged = true) :
    Accounted payload event t :=
  ((messageKept_of_unknown hunknown hnew).steps h).accounted hack

/-- The future of a coroutine that has run to its end in time. -/
def Awaited.ofOutcome : Except Exn WorkflowExecutionRecord → Awaited
  | .ok record => .returned record
  | .error e => .raised e

/-- A message whose delivery raises nothing but a permanent error is acknowledged, once its dead
letter is confirmed. -/
theorem handleMessage_returned (record : WorkflowExecutionRecord) :
    (handleMessage payload (some event) true (.returned record) .confirmed).settlement =
      some .ack := by
  by_cases hdead : record.status = .DEAD_LETTERED
  · have hletter : handleMessage payload (some event) true (.returned record) .confirmed =
        publishAndAck payload (letterCode record) .confirmed := if_pos hdead
    rw [hletter]
    rfl
  · have hplain : handleMessage payload (some event) true (.returned record) .confirmed =
        ⟨[], some .ack⟩ := if_neg hdead
    rw [hplain]

/-- **A message is acknowledged in the end.** After any history of a message, one delivery that
nobody disturbs, on healthy stores, with a fleet and a gateway that cooperate and a topic that
confirms, ends as `Redelivered` says and is acknowledged, unless the change belongs to another
tenant: then it is given back. -/
theorem redelivery_acknowledged {engine : WorkflowEngine E} {rt : LawfulRuntime}
    {outcome : Except Exn WorkflowExecutionRecord} (hrt : engine.rt = rt.toRuntime)
    (hsupported : event.eventType = "api.contract.changed") (hcooperative : Cooperative engine event)
    (hunknown : Unknown event s.world) (hnew : s.acknowledged = false)
    (h : Relation.ReflTransGen (MessageStep payload event) s t) (hhealthy : Healthy rt t.world)
    (hrun : Prog.Runs (engine.processEvent event) t.world outcome w') :
    Redelivered event t.world w' outcome ∧
      ((handleMessage payload (some event) true (.ofOutcome outcome) .confirmed).settlement =
          some .ack ∨
        (outcome = .error (.tenantScopeViolation event.tenantId (deriveChangeId event)) ∧
          (handleMessage payload (some event) true (.ofOutcome outcome) .confirmed).settlement =
            some .nack)) := by
  have hintake := ((messageKept_of_unknown hunknown hnew).steps h).intake
  have hredelivered := hintake.redelivered hrt hsupported hcooperative hhealthy hrun
  refine ⟨hredelivered, ?_⟩
  cases hredelivered with
  | settled _ _ _ => exact .inl (handleMessage_returned _)
  | waiting _ _ _ _ _ => exact .inl (handleMessage_returned _)
  | blocked _ _ => exact .inl rfl
  | foreign _ _ _ => exact .inr ⟨rfl, rfl⟩

end Subscriber

namespace Demo

/-- The message of the demonstration event, before its first delivery. -/
def published : Subscription String Unit := ⟨untouched, [], false⟩

/-- A fleet that finds a prompt injection in every event. -/
def screeningEngine : WorkflowEngine Unit where
  services := { deadServices with
    analyze := fun _ _ _ _ e => (.error (.dependencyCall "PROMPT_INJECTION_BLOCKED" false), e) }
  retry := retryPolicy
  rt := lawfulRuntime.toRuntime

end Demo

open Demo in
/-- A delivery that the screening blocks is acknowledged, and the event is accounted for. -/
theorem acknowledged_accounted_first : ∃ t : Subscription String Unit,
    Relation.ReflTransGen (MessageStep "payload" event) published t ∧ t.acknowledged = true ∧
      Accounted "payload" event t := by
  have hreturns : ((screeningEngine.processEvent event).run untouched).1.isOk = true := by
    decide +kernel
  have hrun := Prog.runs_run (screeningEngine.processEvent event) untouched
  cases houtcome : ((screeningEngine.processEvent event).run untouched).1 with
  | error e =>
    rw [houtcome] at hreturns
    cases hreturns
  | ok record =>
    rw [houtcome] at hrun
    have hstep : MessageStep "payload" event published _ :=
      .handled screeningEngine _ _ (.returned record) .confirmed hrun (.returned record)
    have hack : (published.settle ((screeningEngine.processEvent event).run untouched).2
        (handleMessage "payload" (some event) true (.returned record) .confirmed)).acknowledged =
          true := by
      rw [Subscription.settle, handleMessage_returned]
      rfl
    exact ⟨_, .single hstep, hack,
      acknowledged_accounted unknown_untouched rfl (.single hstep) hack⟩

open Demo in
/-- The first delivery of the demonstration event settles it. -/
theorem redelivery_acknowledged_first : ∃ outcome w,
    Prog.Runs (intakeEngine.processEvent event) untouched outcome w ∧
      Redelivered event untouched w outcome := by
  obtain ⟨outcome, w, hrun⟩ := Prog.exists_runs (intakeEngine.processEvent event) untouched
  have hsettled := redelivery_acknowledged rfl rfl cooperative_intakeEngine
    (show Unknown event published.world from unknown_untouched) rfl
    (.refl : Relation.ReflTransGen (MessageStep "payload" event) published published)
    healthy_untouched hrun
  exact ⟨outcome, w, hrun, hsettled.1⟩

end ChangeOps
