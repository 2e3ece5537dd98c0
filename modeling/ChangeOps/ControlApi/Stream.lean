import ChangeOps.Core.TransitionLaw
import ChangeOps.Persistence.AuditTrail
import Mathlib.Logic.Relation
import Mathlib.Logic.Function.Iterate

/-!
# ChangeOps.ControlApi — the resumable audit stream

`stream_change` (`control_api/routes.py`) and `audit_event_stream` (`control_api/sse.py`) with
`follow=true`, the client that reads the stream, and the writes to the repository, as one system
whose steps interleave in any order. The client remembers what it has received; when it
reconnects it sends the id of the last event as `Last-Event-ID`.

The cursor is a position in the order by `created_at` and id. An event that is appended later
but sorts before the cursor is never read: `exactlyOnce_of_sortsAfterRead` says when that cannot
happen.
-/

namespace ChangeOps

open InMemoryChangeStateRepository

/-- A running `audit_event_stream`: its local variables, and the events that it has yielded and
the client has not received yet. -/
structure Connection where
  cursor : Option String
  pending : List AuditEvent
  wire : List AuditEvent

/-- The cursor once everything pending has been yielded. -/
def Connection.nextCursor (c : Connection) : Option String :=
  (c.pending.getLast?.map AuditEvent.auditEventId).or c.cursor

/-- The repository, the events appended to the change so far, what the client has received, and
its connection. -/
structure StreamState where
  repo : InMemoryChangeStateRepository
  appended : List AuditEvent
  received : List AuditEvent
  connection : Option Connection

namespace StreamState

/-- Nothing is stored and the client has not connected yet. -/
def start : StreamState := ⟨.empty, [], [], none⟩

/-- The `Last-Event-ID` of the client. -/
def lastEventId (s : StreamState) : Option String := s.received.getLast?.map AuditEvent.auditEventId

/-- What has been read from the repository for the client: what it has received, and what its
connection will deliver. -/
def read (s : StreamState) : List AuditEvent :=
  s.received ++ s.connection.elim [] fun c => c.wire ++ c.pending

/-- `stream_change`: the first page is read before the response starts. If that raises, there is
no stream. -/
def connect (key : String × String) (s : StreamState) : StreamState :=
  match s.repo.listAuditAfter key.1 key.2 s.lastEventId 100 with
  | .error _ => s
  | .ok initialEvents => { s with connection := some ⟨s.lastEventId, initialEvents, []⟩ }

/-- The next page of `audit_event_stream`. If that raises, the stream ends. -/
def poll (key : String × String) (s : StreamState) (c : Connection) : StreamState :=
  match s.repo.listAuditAfter key.1 key.2 c.cursor 100 with
  | .error _ => { s with connection := none }
  | .ok pending => { s with connection := some { c with pending := pending } }

end StreamState

/-- A step of the stream or of its client. -/
inductive StreamStep (key : String × String) (s : StreamState) : StreamState → Prop where
  | connect (h : s.connection = none) : StreamStep key s (s.connect key)
  /-- `yield encode_audit_event(event)`, then `cursor = event.audit_event_id`. -/
  | yield {cursor : Option String} {event : AuditEvent} {pending wire : List AuditEvent}
      (h : s.connection = some ⟨cursor, event :: pending, wire⟩) :
      StreamStep key s
        { s with connection := some ⟨some event.auditEventId, pending, wire ++ [event]⟩ }
  | receive {cursor : Option String} {event : AuditEvent} {pending wire : List AuditEvent}
      (h : s.connection = some ⟨cursor, pending, event :: wire⟩) :
      StreamStep key s
        { s with
          received := s.received ++ [event]
          connection := some ⟨cursor, pending, wire⟩ }
  | poll {c : Connection} (h : s.connection = some c) (hpending : c.pending = []) :
      StreamStep key s (s.poll key c)
  /-- The connection breaks; what is on the wire is lost. -/
  | disconnect : StreamStep key s { s with connection := none }

/-- A step of the system: of the stream, or a write to the repository. Times of events of the
change never decrease; `allowed` says which events may be appended. -/
inductive SystemStep (key : String × String) (allowed : StreamState → AuditEvent → Prop)
    (s : StreamState) : StreamState → Prop where
  | stream {s' : StreamState} (h : StreamStep key s s') : SystemStep key allowed s s'
  | write (write : Write)
      (hmono : ∀ event ∈ write.appended s.repo key, ∀ earlier ∈ s.appended,
        earlier.createdAt ≤ event.createdAt)
      (hallowed : ∀ event ∈ write.appended s.repo key, allowed s event) :
      SystemStep key allowed s
        { s with
          repo := (write.run s.repo).2
          appended := s.appended ++ write.appended s.repo key }

/-- The states that an interleaving can get to. -/
abbrev Streamed (key : String × String) (allowed : StreamState → AuditEvent → Prop)
    (s : StreamState) : Prop :=
  Relation.ReflTransGen (SystemStep key allowed) .start s

/-- The event sorts after everything that has been read for the client. -/
def SortsAfterRead (s : StreamState) (event : AuditEvent) : Prop :=
  ∀ earlier ∈ s.read, auditLe earlier event

/-- The client goes on following: it reconnects, or it gets what is under way and the stream
reads its next page. -/
def follow (key : String × String) (s : StreamState) : StreamState :=
  match s.connection with
  | none => s.connect key
  | some c => StreamState.poll key
      { s with received := s.received ++ (c.wire ++ c.pending) } ⟨c.nextCursor, [], []⟩

/-- Every event of the change is received exactly once: none twice, none that was not appended,
and following on from here all of them. -/
structure ExactlyOnce (key : String × String) (s : StreamState) : Prop where
  nodup : s.received.Nodup
  appended : ∀ event ∈ s.received, event ∈ s.appended
  complete : ∃ rounds, ∀ n ≥ rounds, ((follow key)^[n] s).received.Perm s.appended

/-! ## Following is made of steps of the stream -/

section Follow

variable (key : String × String) {s : StreamState}

theorem reaches_receive {cursor : Option String} {pending wire : List AuditEvent}
    (h : s.connection = some ⟨cursor, pending, wire⟩) :
    Relation.ReflTransGen (StreamStep key) s
      { s with
        received := s.received ++ wire
        connection := some ⟨cursor, pending, []⟩ } := by
  induction wire generalizing s with
  | nil =>
    rw [List.append_nil, ← h]
  | cons event wire ih =>
    have hstep : StreamStep key s _ := .receive h
    have hrest := ih (s := { s with
      received := s.received ++ [event]
      connection := some ⟨cursor, pending, wire⟩ }) rfl
    rw [List.append_assoc] at hrest
    exact .head hstep hrest

theorem reaches_yield {c : Connection} (h : s.connection = some c) :
    Relation.ReflTransGen (StreamStep key) s
      { s with connection := some ⟨c.nextCursor, [], c.wire ++ c.pending⟩ } := by
  obtain ⟨cursor, pending, wire⟩ := c
  induction pending generalizing s cursor wire with
  | nil =>
    simp only [Connection.nextCursor, List.append_nil, List.getLast?_nil, Option.map_none,
      Option.none_or]
    rw [← h]
  | cons event pending ih =>
    have hstep : StreamStep key s _ := .yield h
    have hrest := ih (s := { s with
      connection := some ⟨some event.auditEventId, pending, wire ++ [event]⟩ }) _ _ rfl
    -- the cursor is the id of the last event, which is `event` if there is no other
    have hcursor : Connection.nextCursor ⟨some event.auditEventId, pending, wire ++ [event]⟩ =
        Connection.nextCursor ⟨cursor, event :: pending, wire⟩ := by
      simp only [Connection.nextCursor, List.getLast?_cons]
      cases pending.getLast? <;> rfl
    rw [hcursor] at hrest
    dsimp only at hrest
    rw [List.append_assoc] at hrest
    exact .head hstep hrest

theorem reaches_follow (s : StreamState) :
    Relation.ReflTransGen (StreamStep key) s (follow key s) := by
  unfold follow
  cases hc : s.connection with
  | none => exact .single (.connect hc)
  | some c =>
    have hyield := reaches_yield key hc
    have hreceive := reaches_receive key (s := { s with
      connection := some ⟨c.nextCursor, [], c.wire ++ c.pending⟩ }) rfl
    have hpoll : StreamStep key _ _ := .poll (s := { s with
      received := s.received ++ (c.wire ++ c.pending)
      connection := some ⟨c.nextCursor, [], []⟩ }) rfl rfl
    exact (hyield.trans hreceive).tail hpoll

end Follow

/-! ## The invariant

What has been read is an initial part of the sorted trail, and the cursor of a connection is the
last event that it has yielded. -/

/-- The events of the change in the order of the stream. -/
abbrev StreamState.sorted (s : StreamState) : List AuditEvent := s.appended.insertionSort auditLe

/-- The state of the stream is in step with the trail. -/
structure InStep (key : String × String) (s : StreamState) : Prop where
  trail : Trail s.repo key s.appended
  read : s.read <+: s.sorted
  cursor : ∀ c, s.connection = some c →
    c.cursor = (s.received ++ c.wire).getLast?.map AuditEvent.auditEventId
  stored : s.connection ≠ none → s.repo.stored? key ≠ none

namespace InStep

variable {key : String × String} {s : StreamState}

theorem start (key : String × String) : InStep key .start where
  trail := .empty key
  read := List.prefix_rfl
  cursor _ h := by cases h
  stored h := absurd rfl h

theorem received_prefix (h : InStep key s) : s.received <+: s.sorted :=
  (List.prefix_append _ _).trans h.read

/-- The page that follows the cursor of a connection that has yielded everything. -/
theorem page (h : InStep key s) (hstored : s.repo.stored? key ≠ none) {read : List AuditEvent}
    (hread : read <+: s.sorted) :
    ∃ rest, read ++ rest = s.sorted ∧
      s.repo.listAuditAfter key.1 key.2 (read.getLast?.map AuditEvent.auditEventId) 100 =
        .ok (rest.take 100) := by
  obtain ⟨rest, hrest⟩ := hread
  exact ⟨rest, hrest, h.trail.listAuditAfter_eq hstored hrest 100⟩

theorem disconnect (h : InStep key s) : InStep key { s with connection := none } where
  trail := h.trail
  read := by
    rw [StreamState.read]
    simpa using h.received_prefix
  cursor _ hc := by cases hc
  stored hne := absurd rfl hne

/-- A page is read: with the right cursor it continues what has been read. -/
theorem readPage (h : InStep key s) (hstored : s.repo.stored? key ≠ none)
    {cursor : Option String} {wire pending : List AuditEvent}
    (hcursor : cursor = (s.received ++ wire).getLast?.map AuditEvent.auditEventId)
    (hread : s.received ++ wire <+: s.sorted)
    (hpage : s.repo.listAuditAfter key.1 key.2 cursor 100 = .ok pending) :
    InStep key { s with connection := some ⟨cursor, pending, wire⟩ } where
  trail := h.trail
  read := by
    obtain ⟨rest, hrest, hpage'⟩ := h.page hstored hread
    rw [← hcursor, hpage] at hpage'
    cases hpage'
    show s.received ++ (wire ++ rest.take 100) <+: s.sorted
    rw [← List.append_assoc, ← hrest, List.prefix_append_right_inj]
    exact List.take_prefix 100 rest
  cursor := by
    rintro c ⟨⟩
    exact hcursor
  stored _ := hstored

theorem connect (h : InStep key s) : InStep key (s.connect key) := by
  unfold StreamState.connect
  cases hpage : s.repo.listAuditAfter key.1 key.2 s.lastEventId 100 with
  | error e => exact h
  | ok initialEvents =>
    have hstored : s.repo.stored? key ≠ none := by
      obtain ⟨change, hget, -⟩ := bind_eq_ok hpage
      exact get_of_ok hget
    refine h.readPage hstored ?_ ?_ hpage
    · rw [List.append_nil]
      rfl
    · rw [List.append_nil]
      exact h.received_prefix

theorem poll (h : InStep key s) {c : Connection} (hc : s.connection = some c)
    (hpending : c.pending = []) : InStep key (s.poll key c) := by
  unfold StreamState.poll
  cases hpage : s.repo.listAuditAfter key.1 key.2 c.cursor 100 with
  | error e => exact h.disconnect
  | ok pending =>
    have hstored : s.repo.stored? key ≠ none := h.stored (by rw [hc]; exact Option.some_ne_none _)
    refine h.readPage hstored (h.cursor c hc) ?_ hpage
    have hread := h.read
    rw [StreamState.read, hc] at hread
    simpa [hpending] using hread

/-- A step of the stream keeps the invariant, whatever has been appended. -/
theorem step (h : InStep key s) {s' : StreamState} (hstep : StreamStep key s s') :
    InStep key s' := by
  have hread := h.read
  unfold StreamState.read at hread
  cases hstep with
  | connect hc => exact h.connect
  | @yield cursor event pending wire hc =>
    rw [hc] at hread
    refine ⟨h.trail, ?_, ?_, fun _ => h.stored (by rw [hc]; exact Option.some_ne_none _)⟩
    · show s.received ++ ((wire ++ [event]) ++ pending) <+: s.sorted
      simpa using hread
    · rintro c ⟨⟩
      show some event.auditEventId = (s.received ++ (wire ++ [event])).getLast?.map _
      rw [← List.append_assoc, List.getLast?_concat, Option.map_some]
  | @receive cursor event pending wire hc =>
    rw [hc] at hread
    refine ⟨h.trail, ?_, ?_, fun _ => h.stored (by rw [hc]; exact Option.some_ne_none _)⟩
    · show (s.received ++ [event]) ++ (wire ++ pending) <+: s.sorted
      simpa using hread
    · rintro c ⟨⟩
      have hcursor := h.cursor _ hc
      show cursor = ((s.received ++ [event]) ++ wire).getLast?.map _
      rw [List.append_assoc]
      exact hcursor
  | poll hc hpending => exact h.poll hc hpending
  | disconnect => exact h.disconnect

theorem steps (h : InStep key s) {s' : StreamState}
    (hsteps : Relation.ReflTransGen (StreamStep key) s s') : InStep key s' := by
  induction hsteps with
  | refl => exact h
  | tail _ hstep ih => exact ih.step hstep

/-- A write keeps the invariant if its event sorts after everything that has been read. -/
theorem write (h : InStep key s) (write : Write)
    (hafter : ∀ event ∈ write.appended s.repo key, SortsAfterRead s event) :
    InStep key { s with
      repo := (write.run s.repo).2
      appended := s.appended ++ write.appended s.repo key } := by
  have htrail := h.trail.write write
  refine ⟨htrail, ?_, h.cursor, ?_⟩
  · rcases write.appended_cases s.repo key with hnone | ⟨event, hone⟩
    · rw [hnone, List.append_nil]
      exact h.read
    · rw [hone] at htrail hafter ⊢
      exact Cursor.prefix_insertionSort_append htrail.antisymm h.read
        (hafter event (List.mem_singleton_self event))
  · intro hne
    exact write.stored?_run_ne_none (h.stored hne)

end InStep

/-! ## Following on -/

section Progress

variable {key : String × String} {s : StreamState}

theorem InStep.follow (h : InStep key s) : InStep key (follow key s) := h.steps (reaches_follow key s)

theorem InStep.follow_eq (h : InStep key s) {c : Connection} (hc : s.connection = some c) :
    ∃ cursor rest, s.read ++ rest = s.sorted ∧
      ChangeOps.follow key s = ⟨s.repo, s.appended, s.read, some ⟨cursor, rest.take 100, []⟩⟩ := by
  have hstored : s.repo.stored? key ≠ none := h.stored (by rw [hc]; exact Option.some_ne_none _)
  have hread : s.read = s.received ++ (c.wire ++ c.pending) := by
    rw [StreamState.read, hc]
    rfl
  -- after yielding what is pending, the cursor is the last event read
  have hcursor : c.nextCursor = s.read.getLast?.map AuditEvent.auditEventId := by
    rw [hread, ← List.append_assoc, List.getLast?_append, Connection.nextCursor, h.cursor c hc]
    cases c.pending.getLast? <;> rfl
  obtain ⟨rest, hrest, hpage⟩ := h.page hstored h.read
  refine ⟨c.nextCursor, rest, hrest, ?_⟩
  rw [← hcursor] at hpage
  simp only [ChangeOps.follow, hc, StreamState.poll, hpage, hread]

/-- After one more round the client has received what had been read, and a page more is read. -/
theorem InStep.received_iterate (h : InStep key s) {c : Connection} (hc : s.connection = some c)
    (n : Nat) :
    ((ChangeOps.follow key)^[n + 1] s).received = s.sorted.take (s.read.length + 100 * n) := by
  induction n generalizing s c with
  | zero =>
    obtain ⟨cursor, rest, hrest, hfollow⟩ := h.follow_eq hc
    rw [Function.iterate_one, hfollow]
    exact List.prefix_iff_eq_take.mp h.read
  | succ n ih =>
    obtain ⟨cursor, rest, hrest, hfollow⟩ := h.follow_eq hc
    have hnext := ih (s := ChangeOps.follow key s) h.follow (by rw [hfollow])
    rw [Function.iterate_succ_apply, hnext, hfollow]
    show s.sorted.take ((s.read ++ ([] ++ rest.take 100)).length + 100 * n) = _
    rw [List.nil_append, List.length_append, List.length_take, List.take_eq_take_iff, ← hrest,
      List.length_append]
    omega

theorem InStep.complete_of_connected (h : InStep key s) {c : Connection}
    (hc : s.connection = some c) {n : Nat} (hn : s.sorted.length < n) :
    ((ChangeOps.follow key)^[n] s).received.Perm s.appended := by
  obtain ⟨m, rfl⟩ : ∃ m, n = m + 1 := ⟨n - 1, by omega⟩
  rw [h.received_iterate hc m, List.take_of_length_le (by omega)]
  exact List.perm_insertionSort auditLe s.appended

theorem InStep.complete (h : InStep key s) :
    ∃ rounds, ∀ n ≥ rounds, ((ChangeOps.follow key)^[n] s).received.Perm s.appended := by
  refine ⟨s.sorted.length + 2, fun n hn => ?_⟩
  cases hc : s.connection with
  | some c => exact h.complete_of_connected hc (by omega)
  | none =>
    have hfollow : ChangeOps.follow key s = s.connect key := by
      unfold ChangeOps.follow
      rw [hc]
    cases hpage : s.repo.listAuditAfter key.1 key.2 s.lastEventId 100 with
    | ok initialEvents =>
      -- the first round only connects
      obtain ⟨m, rfl⟩ : ∃ m, n = m + 1 := ⟨n - 1, by omega⟩
      have hconnect : s.connect key =
          { s with connection := some ⟨s.lastEventId, initialEvents, []⟩ } := by
        unfold StreamState.connect
        rw [hpage]
      have hnext := h.connect
      rw [hconnect] at hnext
      rw [Function.iterate_succ_apply, hfollow, hconnect]
      exact hnext.complete_of_connected rfl (show s.sorted.length < m by omega)
    | error e =>
      -- the change is not stored, so nothing was appended
      have hidle : ChangeOps.follow key s = s := by
        rw [hfollow, StreamState.connect, hpage]
      have hstored : s.repo.stored? key = none := by
        by_contra hstored
        obtain ⟨rest, -, hok⟩ := h.page hstored h.received_prefix
        rw [StreamState.lastEventId, hok] at hpage
        cases hpage
      have hnil : s.appended = [] := by
        by_contra hne
        exact h.trail.stored hne hstored
      have hreceived : s.received = [] := by
        have hprefix := h.received_prefix
        rw [StreamState.sorted, hnil] at hprefix
        exact List.prefix_nil.mp hprefix
      rw [Function.iterate_fixed hidle, hnil, hreceived]

theorem InStep.exactlyOnce (h : InStep key s) : ExactlyOnce key s where
  nodup := by
    have hnodup := h.received_prefix.sublist.map AuditEvent.auditEventId
    exact (hnodup.nodup h.trail.nodup_sorted).of_map
  appended event hmem := (List.mem_insertionSort auditLe).mp (h.received_prefix.subset hmem)
  complete := h.complete

end Progress

/-! ## Every interleaving -/

/-- For every change and every interleaving of appends, polls, disconnects and reconnects in which
an event that is appended sorts after what has been read for the client: the client receives every
event of the change exactly once. -/
theorem exactlyOnce_of_sortsAfterRead {key : String × String} {s : StreamState}
    (hrun : Streamed key SortsAfterRead s) : ExactlyOnce key s := by
  have hinStep : InStep key s := by
    induction hrun with
    | refl => exact .start key
    | tail _ hstep ih =>
      cases hstep with
      | stream h => exact ih.step h
      | write write _ hallowed => exact ih.write write hallowed
  exact hinStep.exactlyOnce

/-! ## A later event with the same time

The client has received `audit_b` when an event with the same `created_at` is appended. With a
greater id it is received; with the id `audit_a` it sorts before the cursor and never is. -/

namespace Demo

def key : String × String := ("tenant_demo", "chg_001")

def auditEvent (auditEventId : String) : AuditEvent where
  auditEventId := auditEventId
  tenantId := "tenant_demo"
  changeId := "chg_001"
  traceId := "trace_001"
  eventType := "change.received"
  actorType := .SERVICE
  actorId := "workflow-coordinator"
  resource := "changes/chg_001"
  action := "create"
  decisionId := none
  inputHash := "sha256:00"
  outputHash := "sha256:00"
  status := .SUCCESS
  redactedSummary := "Change recorded."
  createdAt := 0

/-- The repository once the change has been added with its first event. -/
def added : InMemoryChangeStateRepository :=
  ((Write.addWithAudit change (auditEvent "audit_b")).run .empty).2

/-- The client has connected and received the event. -/
def delivered : StreamState :=
  ⟨added, [auditEvent "audit_b"], [auditEvent "audit_b"], some ⟨some "audit_b", [], []⟩⟩

/-- Another event is appended at the same time. -/
def appended (auditEventId : String) : StreamState :=
  { delivered with
    repo := ((Write.recordAudit (auditEvent auditEventId)).run added).2
    appended := [auditEvent "audit_b", auditEvent auditEventId] }

end Demo

/-- A write step, with the events that it appends worked out. -/
theorem SystemStep.of_appended {key : String × String} {allowed : StreamState → AuditEvent → Prop}
    {s : StreamState} {write : Write} {events : List AuditEvent}
    (hevents : write.appended s.repo key = events)
    (hmono : ∀ event ∈ events, ∀ earlier ∈ s.appended, earlier.createdAt ≤ event.createdAt)
    (hallowed : ∀ event ∈ events, allowed s event) :
    SystemStep key allowed s
      { s with repo := (write.run s.repo).2, appended := s.appended ++ events } := by
  subst hevents
  exact .write write hmono hallowed

theorem streamed_delivered {allowed : StreamState → AuditEvent → Prop}
    (h : allowed .start (Demo.auditEvent "audit_b")) : Streamed Demo.key allowed Demo.delivered := by
  have happended : (Write.addWithAudit Demo.change (Demo.auditEvent "audit_b")).appended .empty
      Demo.key = [Demo.auditEvent "audit_b"] := by decide
  have hadd : SystemStep Demo.key allowed .start _ :=
    .of_appended happended (fun _ _ _ hmem => by cases hmem) (by simpa using h)
  have hconnect : StreamState.connect Demo.key ⟨Demo.added, [Demo.auditEvent "audit_b"], [], none⟩ =
      ⟨Demo.added, [Demo.auditEvent "audit_b"], [],
        some ⟨none, [Demo.auditEvent "audit_b"], []⟩⟩ := by
    rfl
  have hconnected : StreamStep Demo.key _ _ := .connect
    (s := ⟨Demo.added, [Demo.auditEvent "audit_b"], [], none⟩) rfl
  rw [hconnect] at hconnected
  exact (((Relation.ReflTransGen.single hadd).tail (.stream hconnected)).tail
    (.stream (.yield rfl))).tail (.stream (.receive rfl))

theorem streamed_appended {allowed : StreamState → AuditEvent → Prop} {auditEventId : String}
    (h : allowed .start (Demo.auditEvent "audit_b"))
    (hnext : allowed Demo.delivered (Demo.auditEvent auditEventId))
    (happended : (Write.recordAudit (Demo.auditEvent auditEventId)).appended Demo.added Demo.key =
      [Demo.auditEvent auditEventId]) :
    Streamed Demo.key allowed (Demo.appended auditEventId) := by
  have hwrite : SystemStep Demo.key allowed Demo.delivered _ :=
    .of_appended happended (by simp [Demo.delivered, Demo.auditEvent]) (by simpa using hnext)
  exact (streamed_delivered h).tail hwrite

theorem exactlyOnce_of_sortsAfterRead_demo : ExactlyOnce Demo.key (Demo.appended "audit_c") := by
  refine exactlyOnce_of_sortsAfterRead (streamed_appended ?_ ?_ (by decide))
  · intro earlier hmem
    cases hmem
  · intro earlier hmem
    obtain rfl : earlier = Demo.auditEvent "audit_b" := by
      simpa [Demo.delivered, StreamState.read] using hmem
    decide

theorem not_exactlyOnce_tie : ¬ ∀ (key : String × String) (s : StreamState),
    Streamed key (fun _ _ => True) s → ExactlyOnce key s := by
  intro h
  have hrun : Streamed Demo.key (fun _ _ => True) (Demo.appended "audit_a") :=
    streamed_appended trivial trivial (by decide)
  obtain ⟨rounds, hcomplete⟩ := (h Demo.key _ hrun).complete
  -- the next page after `audit_b` is empty, so following on changes nothing
  have hidle : follow Demo.key (Demo.appended "audit_a") = Demo.appended "audit_a" := by rfl
  have hperm := hcomplete rounds (Nat.le_refl _)
  rw [Function.iterate_fixed hidle] at hperm
  have hlength : 1 = 2 := hperm.length_eq
  cases hlength

end ChangeOps
