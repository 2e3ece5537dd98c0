import ChangeOps.EventGateway.Journal
import ChangeOps.Lib.Schedule

/-!
# ChangeOps.EventGateway — concurrent ingestion

Any number of `ingest_change` requests, for the same or different events, interleave over the
inbox; each may stop at any point. Every action of a request keeps the invariant of the gateway
and only adds to the journal (`InboxMoves`), which is all that the other requests rely on. The
fence is the version of the record: a reservation that was taken over has a lower one.
-/

namespace ChangeOps

/-! ## What requests rely on -/

/-- What can happen to a stored event: its content stays, and once published it stays as it is. -/
structure InboxAdvances (record record' : EventInboxRecord) : Prop where
  event : record'.event = record.event
  inputHash : record'.inputHash = record.inputHash
  published : record.status = .PUBLISHED → record' = record

theorem InboxAdvances.refl (record : EventInboxRecord) : InboxAdvances record record :=
  ⟨rfl, rfl, fun _ => rfl⟩

theorem InboxAdvances.trans {a b c : EventInboxRecord} (hab : InboxAdvances a b)
    (hbc : InboxAdvances b c) : InboxAdvances a c where
  event := hbc.event.trans hab.event
  inputHash := hbc.inputHash.trans hab.inputHash
  published hp := by
    have heq := hab.published hp
    rw [hbc.published (by rw [heq]; exact hp), heq]

section Ingestion

variable [Sha256] {gateway : EventGateway} {request : IngestRequest}

/-- One or more actions of other requests. -/
structure InboxMoves (gateway : EventGateway) (w w' : InboxWorld) : Prop where
  inv : InboxInv gateway w → InboxInv gateway w'
  tick : w.tick ≤ w'.tick
  log : ∀ {note}, note ∈ w.log → note ∈ w'.log
  records : ∀ {key record}, w.records.get? key = some record →
    ∃ record', w'.records.get? key = some record' ∧ InboxAdvances record record'

def inboxRely (gateway : EventGateway) : Rely InboxWorld where
  rel := InboxMoves gateway
  refl w := ⟨id, Nat.le_refl _, id, fun h => ⟨_, h, .refl _⟩⟩
  trans hab hbc :=
    { inv := fun h => hbc.inv (hab.inv h)
      tick := Nat.le_trans hab.tick hbc.tick
      log := fun h => hbc.log (hab.log h)
      records := fun h => by
        obtain ⟨b, hb, hadvance⟩ := hab.records h
        obtain ⟨c, hc, hadvance'⟩ := hbc.records hb
        exact ⟨c, hc, hadvance.trans hadvance'⟩ }

/-- The stored event at the key of the request has other content. -/
def HasOtherContent (request : IngestRequest) (w : InboxWorld) : Prop :=
  ∃ record, w.records.get? request.key = some record ∧
    record.inputHash ≠ eventInputHash request.event

/-- What a request guarantees: others may rely on it, it stores no event but its own, and while
other content is stored at its key it leaves inbox and journal alone. -/
structure InboxGuarantee (gateway : EventGateway) (request : IngestRequest) (w w' : InboxWorld) :
    Prop where
  moves : InboxMoves gateway w w'
  own : ∀ {key record'}, w'.records.get? key = some record' →
    (∃ record, w.records.get? key = some record ∧ record.event = record'.event) ∨
      record'.event = request.event
  rejected : HasOtherContent request w → w'.records = w.records ∧ w'.log = w.log

/-- A refusal: a conflict, the rate limit, or a clock in the first minute of year 1. -/
def IsRefused (outcome : Except EventExn EventAcceptedResponse) : Prop :=
  outcome = .error (.gateway eventConflictError) ∨
    outcome = .error (.gateway eventRateLimitedError) ∨
    outcome = .error (.other "date value out of range")

/-- How a request ends: with other content stored at its key, in a refusal. -/
def InboxEnds (request : IngestRequest) (outcome : Except EventExn EventAcceptedResponse)
    (w : InboxWorld) : Prop :=
  HasOtherContent request w → IsRefused outcome

/-- The event of the request is stored. -/
structure IsAccepted (gateway : EventGateway) (request : IngestRequest) (w : InboxWorld) : Prop where
  inv : InboxInv gateway w
  stored : ∃ record, w.records.get? request.key = some record ∧
    record.inputHash = eventInputHash request.event

/-- The request was granted a reservation. -/
structure IsHolder (gateway : EventGateway) (request : IngestRequest) (version : Nat)
    (w : InboxWorld) : Prop extends IsAccepted gateway request w where
  granted : ∃ reservedAt present, .granted request.id request.key version reservedAt present ∈ w.log

/-- A property that others cannot take away. -/
def InboxStable (gateway : EventGateway) (P : InboxWorld → Prop) : Prop :=
  ∀ {w w'}, P w → InboxMoves gateway w w' → P w'

theorem inboxInv_stable : InboxStable gateway (InboxInv gateway) := fun h hmoves => hmoves.inv h

theorem isAccepted_stable : InboxStable gateway (IsAccepted gateway request) := by
  rintro w w' ⟨hinv, record, hget, hhash⟩ hmoves
  obtain ⟨record', hget', hadvance⟩ := hmoves.records hget
  exact ⟨hmoves.inv hinv, record', hget', hadvance.inputHash.trans hhash⟩

theorem isHolder_stable {version : Nat} :
    InboxStable gateway (IsHolder gateway request version) := by
  rintro w w' ⟨haccepted, reservedAt, present, hmem⟩ hmoves
  exact ⟨isAccepted_stable haccepted hmoves, reservedAt, present, hmoves.log hmem⟩

theorem IsAccepted.not_hasOtherContent {w : InboxWorld} (h : IsAccepted gateway request w) :
    ¬ HasOtherContent request w := by
  rintro ⟨record, hget, hne⟩
  obtain ⟨record', hget', heq⟩ := h.stored
  rw [hget] at hget'
  cases hget'
  exact hne heq

theorem IsAccepted.ends {w : InboxWorld} (h : IsAccepted gateway request w)
    (outcome : Except EventExn EventAcceptedResponse) : InboxEnds request outcome w :=
  fun hother => absurd hother h.not_hasOtherContent

/-! ## Guarantees of the writes -/

theorem guarantee_idle {w w' : InboxWorld} (hrecords : w'.records = w.records)
    (hlog : w'.log = w.log) (htick : w.tick ≤ w'.tick) : InboxGuarantee gateway request w w' where
  moves :=
    { inv := fun h => h.idle hrecords hlog htick
      tick := htick
      log := fun h => by rw [hlog]; exact h
      records := fun h => ⟨_, by rw [hrecords]; exact h, .refl _⟩ }
  own h := .inl ⟨_, by rw [← hrecords]; exact h, rfl⟩
  rejected _ := ⟨hrecords, hlog⟩

/-- A write at the key of the request, with the entries that belong to it. -/
theorem guarantee_write {w : InboxWorld} {record : EventInboxRecord} {notes : List InboxNote}
    (hinv : InboxInv gateway { w with
      records := w.records.set request.key record, log := notes ++ w.log })
    (hadvance : ∀ current, w.records.get? request.key = some current → InboxAdvances current record)
    (hnew : w.records.get? request.key = none → record.event = request.event)
    (hsame : ¬ HasOtherContent request w) :
    InboxGuarantee gateway request w { w with
      records := w.records.set request.key record, log := notes ++ w.log } where
  moves :=
    { inv := fun _ => hinv
      tick := Nat.le_refl _
      log := fun h => List.mem_append_right _ h
      records := by
        intro key current hget
        dsimp only
        rw [Dict.get?_set]
        split_ifs with hk
        · subst hk
          exact ⟨record, rfl, hadvance current hget⟩
        · exact ⟨current, hget, .refl _⟩ }
  own := by
    intro key record' hget
    dsimp only at hget
    rw [Dict.get?_set] at hget
    split_ifs at hget with hk
    · cases hget
      rw [hk]
      cases hcurrent : w.records.get? request.key with
      | none => exact .inr (hnew hcurrent)
      | some current => exact .inl ⟨current, rfl, ((hadvance current hcurrent).event).symm⟩
    · exact .inl ⟨record', hget, rfl⟩
  rejected hother := absurd hother hsame

/-- An entry of the publisher. -/
theorem guarantee_note {w : InboxWorld} {entry : InboxNote} {publishes : Nat}
    (hinv : InboxInv gateway { w with publishes := publishes, log := entry :: w.log })
    (hsame : ¬ HasOtherContent request w) :
    InboxGuarantee gateway request w { w with publishes := publishes, log := entry :: w.log } where
  moves :=
    { inv := fun _ => hinv
      tick := Nat.le_refl _
      log := fun h => List.mem_cons_of_mem _ h
      records := fun h => ⟨_, h, .refl _⟩ }
  own h := .inl ⟨_, h, rfl⟩
  rejected hother := absurd hother hsame

/-! ## The triples -/

/-- The triple of a part of the handler. -/
abbrev Ingests {α : Type} (gateway : EventGateway) (request : IngestRequest)
    (Q : Except EventExn α → InboxWorld → Prop) (p : Prog InboxWorld EventExn α) (w : InboxWorld) :
    Prop :=
  p.RG (inboxRely gateway) (InboxGuarantee gateway request) Q w

namespace Ingests

/-- An action that leaves inbox and journal alone keeps what is stable. -/
theorem idle {α : Type} {P : InboxWorld → Prop} {Q : Except EventExn α → Prop}
    {f : InboxWorld → Except EventExn α × InboxWorld} {w : InboxWorld}
    (hP : InboxStable gateway P) (hw : P w) (hrecords : ∀ w, (f w).2.records = w.records)
    (hlog : ∀ w, (f w).2.log = w.log) (htick : ∀ w, w.tick ≤ (f w).2.tick) (hQ : ∀ w, Q (f w).1) :
    Ingests gateway request (fun r t => P t ∧ Q r) (.atomic f) w := by
  refine Prog.RG.atomic fun t ht => ?_
  have hg : InboxGuarantee gateway request t (f t).2 :=
    guarantee_idle (hrecords t) (hlog t) (htick t)
  exact ⟨hg, fun t' ht' => ⟨hP (hP (hP hw ht) hg.moves) ht', hQ t⟩⟩

/-- A reading of the clock is not ahead of the time. -/
theorem now {P : InboxWorld → Prop} {w : InboxWorld} (hP : InboxStable gateway P) (hw : P w) :
    Ingests gateway request
      (fun r t => P t ∧ ∃ now, r = .ok now ∧ now ≤ gateway.runtime.clock t.tick)
      (inboxNow gateway) w := by
  refine Prog.RG.atomic fun t ht => ?_
  have hg : InboxGuarantee gateway request t { t with tick := t.tick + 1 } :=
    guarantee_idle rfl rfl (Nat.le_succ _)
  refine ⟨hg, fun t' ht' => ⟨hP (hP (hP hw ht) hg.moves) ht', _, rfl, ?_⟩⟩
  exact gateway.runtime.clock_mono (Nat.le_trans (Nat.le_succ _) ht'.tick)

theorem limited {P : InboxWorld → Prop} {tenantId : String} {timestamp : Time} {w : InboxWorld}
    (hP : InboxStable gateway P) (hw : P w) :
    Ingests gateway request
      (fun r t => P t ∧ (r = .ok () ∨ r = .error (.gateway eventRateLimitedError) ∨
        r = .error (.other "date value out of range")))
      (acquire gateway tenantId timestamp) w :=
  idle (Q := fun r => r = .ok () ∨ r = .error (.gateway eventRateLimitedError) ∨
      r = .error (.other "date value out of range")) hP hw
    (fun _ => rfl) (fun _ => rfl) (fun _ => Nat.le_refl _)
    fun _ => TenantEventRateLimiter.acquire_outcome _ tenantId timestamp

/-- Accepting an event: it is stored afterwards, or other content is. -/
theorem accept (changeId : String) (timestamp : Time) {w : InboxWorld} (hw : InboxInv gateway w) :
    Ingests gateway request
      (fun r t => match r with
        | .ok accepted => IsAccepted gateway request t ∧ accepted.record.eventKey = request.key.2
        | .error error => error = .gateway eventConflictError)
      (acceptEvent request changeId timestamp) w := by
  refine Prog.RG.atomic fun t ht => ?_
  have hinv := inboxInv_stable hw ht
  have hidle : InboxGuarantee gateway request t t := guarantee_idle rfl rfl (Nat.le_refl _)
  rcases InboxRecords.accept_cases request.event changeId timestamp t.records with
    ⟨existing, hget, hne, heq⟩ | ⟨existing, hget, hhash, heq⟩ | ⟨hget, heq⟩
  · simp only [heq]
    exact ⟨hidle, fun _ _ => trivial⟩
  · simp only [heq]
    refine ⟨hidle, fun t' ht' => ⟨isAccepted_stable ⟨hinv, existing, hget, hhash⟩ ht', ?_⟩⟩
    exact (hinv.agrees hget).eventKey_eq
  · simp only [heq]
    have hagrees : Agrees (gateway.runtime.clock t.tick) t.log request.key
        (newInboxRecord request.event changeId timestamp) :=
      .new request.event changeId timestamp (hinv.unlogged hget)
    have hinv' := hinv.write request.key [] (by simp) hinv.journal hagrees
    have hg : InboxGuarantee gateway request t { t with
        records := t.records.set request.key (newInboxRecord request.event changeId timestamp)
        log := [] ++ t.log } := by
      refine guarantee_write hinv' ?_ (fun _ => rfl) ?_
      · intro current hcurrent
        rw [IngestRequest.key, hget] at hcurrent
        cases hcurrent
      · rintro ⟨record, hrecord, -⟩
        rw [IngestRequest.key, hget] at hrecord
        cases hrecord
    exact ⟨hg, fun t' ht' => ⟨isAccepted_stable ⟨hinv', _, Dict.get?_set_self _ _ _, rfl⟩ ht', rfl⟩⟩

/-- Reserving: a reservation that is returned was granted to this request. -/
theorem reserve {timestamp : Time} {w : InboxWorld} (hw : IsAccepted gateway request w)
    (htime : timestamp ≤ gateway.runtime.clock w.tick) :
    Ingests gateway request
      (fun r t => IsAccepted gateway request t ∧ ∀ reservation, r = .ok (some reservation) →
        IsHolder gateway request reservation.version t ∧ reservation.eventKey = request.key.2)
      (reservePublish gateway request (eventKey request.event) timestamp) w := by
  refine Prog.RG.atomic fun t ht => ?_
  have haccepted := isAccepted_stable hw ht
  have hpresent : timestamp ≤ gateway.runtime.clock t.tick :=
    Nat.le_trans htime (gateway.runtime.clock_mono ht.tick)
  have hidle : InboxGuarantee gateway request t t := guarantee_idle rfl rfl (Nat.le_refl _)
  rcases InboxRecords.reservePublish_cases request.event.tenantId (eventKey request.event) timestamp
    t.records with ⟨error, heq⟩ | heq | ⟨current, hget, hstatus, hold, heq⟩
  · simp only [heq]
    exact ⟨hidle, fun t' ht' => ⟨isAccepted_stable haccepted ht', fun _ h => by cases h⟩⟩
  · simp only [heq]
    exact ⟨hidle, fun t' ht' => ⟨isAccepted_stable haccepted ht', fun _ h => by cases h⟩⟩
  · simp only [heq]
    have hagrees := haccepted.inv.agrees hget
    obtain ⟨hok, hagrees'⟩ := hagrees.grant hpresent hold request.id
    have hinv' := haccepted.inv.write request.key
      [.granted request.id request.key (current.version + 1) timestamp
        (gateway.runtime.clock t.tick)] (by simp [InboxNote.key]) ⟨hok, haccepted.inv.journal⟩
      hagrees'
    have hg : InboxGuarantee gateway request t _ := guarantee_write hinv' (by
      intro current' hcurrent
      rw [IngestRequest.key, hget] at hcurrent
      cases hcurrent
      exact ⟨rfl, rfl, fun hp => absurd hp hstatus⟩) (fun hnone => by
      rw [IngestRequest.key, hget] at hnone
      cases hnone) haccepted.not_hasOtherContent
    have haccepted' := isAccepted_stable haccepted hg.moves
    refine ⟨hg, fun t' ht' => ⟨isAccepted_stable haccepted' ht', ?_⟩⟩
    rintro reservation ⟨⟩
    refine ⟨isHolder_stable ⟨haccepted', timestamp, _, List.mem_cons_self⟩ ht', ?_⟩
    exact hagrees.eventKey_eq

/-- The publisher is called under the reservation; its answer is entered in the journal. -/
theorem publish (changeId : String) {reservation : EventInboxRecord} {w : InboxWorld}
    (hkey : reservation.eventKey = request.key.2)
    (hw : IsHolder gateway request reservation.version w) :
    Ingests gateway request
      (fun r t => IsHolder gateway request reservation.version t ∧ ∀ messageId : MessageId,
        r = .ok messageId → .publishReturned request.id request.key reservation.version
          (eventInputHash request.event) messageId.text ∈ t.log)
      (publishEvent gateway request changeId reservation) w := by
  unfold publishEvent
  rw [hkey]
  have hstored : ∀ {t}, IsHolder gateway request reservation.version t →
      t.records.get? request.key ≠ none := by
    rintro t ⟨⟨-, record, hget, -⟩, -⟩ hnone
    rw [hnone] at hget
    cases hget
  have hcall : Ingests gateway request
      (fun _ t => IsHolder gateway request reservation.version t ∧
        .publishCalled request.id request.key reservation.version ∈ t.log)
      (Prog.atomic fun w => (.ok w.publishes, { w with
        publishes := w.publishes + 1
        log := .publishCalled request.id request.key reservation.version :: w.log })) w := by
    refine Prog.RG.atomic fun t ht => ?_
    have hholder := isHolder_stable hw ht
    have hg : InboxGuarantee gateway request t _ := guarantee_note
      (hholder.inv.note (.publishCalled request.id request.key reservation.version)
        hholder.granted (hstored hholder) (by simp) (by simp) (t.publishes + 1))
      hholder.not_hasOtherContent
    exact ⟨hg, fun t' ht' => ⟨isHolder_stable (isHolder_stable hholder hg.moves) ht',
      ht'.log List.mem_cons_self⟩⟩
  refine hcall.bind ?_ ?_
  · rintro call t ⟨hholder, hcalled⟩
    refine Prog.RG.atomic fun t₁ ht₁ => ?_
    have hholder := isHolder_stable hholder ht₁
    have hcalled := ht₁.log hcalled
    cases gateway.publish call request.event changeId with
    | error error =>
      exact ⟨guarantee_idle rfl rfl (Nat.le_refl _), fun t' ht' =>
        ⟨isHolder_stable hholder ht', fun _ h => by cases h⟩⟩
    | ok messageId =>
      have hg : InboxGuarantee gateway request t₁ _ := guarantee_note
        (hholder.inv.note (.publishReturned request.id request.key reservation.version
          (eventInputHash request.event) messageId.text) hcalled (hstored hholder) (by simp) (by simp)
          t₁.publishes) hholder.not_hasOtherContent
      refine ⟨hg, fun t' ht' => ⟨isHolder_stable (isHolder_stable hholder hg.moves) ht', ?_⟩⟩
      rintro _ ⟨⟩
      exact ht'.log List.mem_cons_self
  · rintro error t ⟨hholder, -⟩
    exact ⟨hholder, fun _ h => by cases h⟩

/-- Finishing takes effect only for the holder of the record's version. -/
theorem finish {reservation : EventInboxRecord} {status : InboxStatus}
    {messageId errorCode : Option String} {now : Time} {w : InboxWorld}
    (hkey : reservation.eventKey = request.key.2)
    (hw : IsHolder gateway request reservation.version w)
    (hstatus : status = .PUBLISHED → ∃ returned : MessageId, messageId = some returned.text ∧
      .publishReturned request.id request.key reservation.version (eventInputHash request.event)
        returned.text ∈ w.log) :
    Ingests gateway request (fun _ t => IsHolder gateway request reservation.version t)
      (finishReservation request reservation status
        (InboxRecords.finishPublish request.event.tenantId reservation.eventKey reservation.version
          status messageId errorCode now)) w := by
  unfold finishReservation
  rw [hkey]
  refine Prog.RG.atomic fun t ht => ?_
  have hholder := isHolder_stable hw ht
  rcases InboxRecords.finishPublish_cases request.event.tenantId request.key.2 reservation.version
    status messageId errorCode now t.records with
    ⟨error, heq⟩ | ⟨current, messageId', errorCode', hget, hversion, hpublishing, hvalid, heq⟩
  · simp only [heq]
    exact ⟨guarantee_idle rfl rfl (Nat.le_refl _), fun t' ht' => isHolder_stable hholder ht'⟩
  · simp only [heq]
    obtain ⟨record, hrecord, hhash⟩ := hholder.stored
    obtain rfl : current = record := Option.some.inj (hget.symm.trans hrecord)
    obtain ⟨reservedAt, present, hgranted⟩ := hholder.granted
    have hreturned : status = .PUBLISHED → ∃ text, messageId' = some text ∧
        .publishReturned request.id request.key current.version current.inputHash text ∈ t.log := by
      intro hpublished
      obtain ⟨returned, rfl, hmem⟩ := hstatus hpublished
      have hstripped := (nonEmptyStrOrNone_of_ok hvalid).1
      rw [Option.map_some, returned.stripped] at hstripped
      rw [hversion, hhash]
      exact ⟨returned.text, hstripped, ht.log hmem⟩
    rw [← hversion] at hgranted ⊢
    obtain ⟨hok, hagrees⟩ := (hholder.inv.agrees hget).finish hholder.inv.journal hgranted errorCode'
      now hreturned
    have hinv' := hholder.inv.write request.key
      [.finished request.id request.key current.version status] (by simp [InboxNote.key])
      ⟨hok, hholder.inv.journal⟩ hagrees
    have hg : InboxGuarantee gateway request t _ := guarantee_write hinv' (by
      intro current' hcurrent
      obtain rfl : current = current' := Option.some.inj (hget.symm.trans hcurrent)
      exact ⟨rfl, rfl, fun hp => by rw [hpublishing] at hp; cases hp⟩) (fun hnone => by
      rw [hrecord] at hnone
      cases hnone) hholder.not_hasOtherContent
    exact ⟨hg, fun t' ht' => hversion ▸ isHolder_stable (isHolder_stable hholder hg.moves) ht'⟩

theorem publishReserved {changeId : String} {replayed : Bool} {reservation : EventInboxRecord}
    {w : InboxWorld} (hkey : reservation.eventKey = request.key.2)
    (hw : IsHolder gateway request reservation.version w) :
    Ingests gateway request (fun _ t => IsHolder gateway request reservation.version t)
      (ChangeOps.publishReserved gateway request changeId replayed reservation) w := by
  have hpublished := (publish changeId hkey hw).tryCatch
    (Q := fun r t => IsHolder gateway request reservation.version t ∧ ∀ messageId : MessageId,
      r = .ok messageId → .publishReturned request.id request.key reservation.version
        (eventInputHash request.event) messageId.text ∈ t.log)
    (f := fun _ => (inboxNow gateway).bind fun now =>
      (finishReservation request reservation .PUBLISH_FAILED
        (InboxRecords.markPublishFailed request.event.tenantId reservation.eventKey
          reservation.version "PUBSUB_PUBLISH_FAILED" now)).bind fun _ =>
      .raise (.gateway (eventDependencyError "PUBSUB_PUBLISH_FAILED")))
    (fun _ _ h => h) ?_
  · refine hpublished.bind ?_ fun error t h => h.1
    rintro messageId t ⟨hholder, hreturned⟩
    -- the answer of the publisher stays in the journal while the clock is read
    have hstable : InboxStable gateway fun t => IsHolder gateway request reservation.version t ∧
        .publishReturned request.id request.key reservation.version (eventInputHash request.event)
          messageId.text ∈ t.log :=
      fun h hmoves => ⟨isHolder_stable h.1 hmoves, hmoves.log h.2⟩
    refine (now hstable ⟨hholder, hreturned messageId rfl⟩).bind ?_ fun error t h => h.1.1
    rintro timestamp t ⟨⟨hholder, hreturned⟩, -⟩
    refine (finish hkey hholder fun _ => ⟨messageId, rfl, hreturned⟩).bind ?_ fun error t h => h
    exact fun published t h => Prog.RG.ret fun t' ht' => isHolder_stable h ht'
  · rintro error t ⟨hholder, -⟩
    refine (now isHolder_stable hholder).bind ?_ fun error t h => ⟨h.1, fun _ h => by cases h⟩
    rintro timestamp t ⟨hholder, -⟩
    refine (finish hkey hholder fun h => by cases h).bind ?_ fun error t h => ⟨h, fun _ h => by cases h⟩
    exact fun _ t h => Prog.RG.raise fun t' ht' => ⟨isHolder_stable h ht', fun _ h => by cases h⟩

/-- The body of the outer `try`: it ends with the event stored, or in a conflict. -/
theorem accepted {changeId : String} {timestamp : Time} {w : InboxWorld}
    (hw : InboxInv gateway w) (htime : timestamp ≤ gateway.runtime.clock w.tick) :
    Ingests gateway request
      (fun r t => IsAccepted gateway request t ∨ r = .error (.gateway eventConflictError))
      (ingestAccepted gateway request changeId timestamp) w := by
  have haccept : Ingests gateway request _ (acceptEvent request changeId timestamp) w :=
    accept changeId timestamp hw
  refine (haccept.path fun _ _ h => h.moves).bind ?_ ?_
  · rintro acceptance t ⟨⟨haccepted, hkey⟩, hmoves⟩
    have hpresent : timestamp ≤ gateway.runtime.clock t.tick :=
      Nat.le_trans htime (gateway.runtime.clock_mono hmoves.tick)
    split_ifs with hstatus
    · exact Prog.RG.ret fun t' ht' => .inl (isAccepted_stable haccepted ht')
    · rw [hkey]
      refine (reserve haccepted hpresent).bind ?_ fun error t h => .inl h.1
      rintro (_ | reservation) t ⟨haccepted, hholder⟩
      · exact Prog.RG.ret fun t' ht' => .inl (isAccepted_stable haccepted ht')
      · obtain ⟨hholder, hkey⟩ := hholder reservation rfl
        exact (publishReserved hkey hholder).mono fun _ _ h => .inl h.toIsAccepted
  · rintro error t ⟨h, -⟩
    exact .inr (congrArg Except.error h)

/-- The rule of the handler. -/
theorem ingestChange {w : InboxWorld} (hw : InboxInv gateway w) :
    Ingests gateway request (InboxEnds request) (ChangeOps.ingestChange gateway request) w := by
  refine (now inboxInv_stable hw).bind ?_ fun error t ⟨_, _, herror, _⟩ => by cases herror
  · rintro timestamp t ⟨hinv, _, ⟨⟩, htime⟩
    have hstable : InboxStable gateway fun t =>
        InboxInv gateway t ∧ timestamp ≤ gateway.runtime.clock t.tick :=
      fun h hmoves => ⟨hmoves.inv h.1, Nat.le_trans h.2 (gateway.runtime.clock_mono hmoves.tick)⟩
    refine (limited hstable ⟨hinv, htime⟩).bind ?_ ?_
    · rintro - t ⟨⟨hinv, htime⟩, -⟩
      refine (accepted hinv htime).tryCatch ?_ ?_
      · rintro response t (haccepted | herror)
        · exact haccepted.ends _
        · cases herror
      · rintro error t (haccepted | herror)
        · cases error with
          | gateway error => exact Prog.RG.raise fun t' ht' => (isAccepted_stable haccepted ht').ends _
          | other text => exact Prog.RG.raise fun t' ht' => (isAccepted_stable haccepted ht').ends _
        · cases herror
          exact Prog.RG.raise fun t' ht' _ => .inl rfl
    · rintro error t ⟨-, hlimited⟩
      rcases hlimited with h | h | h
      · cases h
      · cases h
        exact fun _ => .inr (.inl rfl)
      · cases h
        exact fun _ => .inr (.inr rfl)

end Ingests

/-! ## Every run -/

/-- Requests arrive and go on at any time; nothing else touches the inbox. -/
def anyIngest : Actor IngestRequest → InboxWorld → InboxWorld → Prop
  | .start _, _, _ => True
  | .by _, _, _ => True
  | .env, _, _ => False

theorem sound_ingestChange (gateway : EventGateway) :
    Pool.Sound (ingestChange gateway) anyIngest (inboxRely gateway) (InboxGuarantee gateway)
      InboxEnds (InboxInv gateway) where
  guarantee _ _ _ _ _ _ hg := hg.moves
  environment _ _ h := h.elim
  invariant _ _ hinv hmoves := hmoves.inv hinv
  triple _ _ _ hinv _ := (Ingests.ingestChange hinv).start

/-- The pools of requests that a gateway can get into. -/
abbrev IngestPool := Pool IngestRequest InboxWorld EventExn EventAcceptedResponse

/-- The runs of a gateway. -/
abbrev Ingested (gateway : EventGateway) (P P' : IngestPool) : Prop :=
  Pool.Reach (ingestChange gateway) anyIngest P P'

/-- Every stored event is one of the requests'. -/
theorem exists_call_of_stored {P : IngestPool} (hreach : Ingested gateway (.idle .empty) P) :
    ∀ {key record}, P.state.records.get? key = some record →
      ∃ request ∈ P.calls, request.event = record.event := by
  have hsound := sound_ingestChange gateway
  suffices hrun : ∀ {P₀ P : IngestPool}, Ingested gateway P₀ P → P₀ = .idle .empty →
      ∀ {key record}, P.state.records.get? key = some record →
        ∃ request ∈ P.calls, request.event = record.event by
    intro key record hget
    exact hrun hreach rfl hget
  intro P₀ P hrun hidle
  subst hidle
  induction hrun with
  | refl =>
    intro key record hget
    cases hget
  | @tail P' P'' actor hbefore hstep hok ih =>
    intro key record hget
    have hearlier : (∃ record', P'.state.records.get? key = some record' ∧
        record'.event = record.event) → ∃ request ∈ P''.calls, request.event = record.event := by
      rintro ⟨record', hget', hevent⟩
      obtain ⟨request, hmem, hsame⟩ := ih hget'
      exact ⟨request, hstep.calls_prefix.subset hmem, hsame.trans hevent⟩
    cases hcall : actor.call? with
    | none =>
      cases actor with
      | env => cases hok
      | start => cases hcall
      | «by» => cases hcall
    | some request =>
      have hholds := hsound.holds (inboxInv_empty gateway) hbefore
      rcases hholds.guarantee hsound hstep hok hcall with heq | hg
      · exact hearlier ⟨record, by rw [← heq]; exact hget, rfl⟩
      · rcases hg.own hget with hold | hown
        · exact hearlier hold
        · exact ⟨request, hstep.mem_calls hcall, hown.symm⟩

/-- The text of an event that is hashed. -/
def contentText (event : ChangeEvent) : String := canonicalJson event.modelDump

/-- No two contents among the requests of the run have one digest. -/
def DistinctContents (P : IngestPool) : Prop :=
  Set.InjOn Sha256.hexdigest {text | ∃ request ∈ P.calls, text = contentText request.event}

/-- An event with the key of the request and different content is stored. -/
def StoredOther (request : IngestRequest) (w : InboxWorld) : Prop :=
  ∃ record, w.records.get? request.key = some record ∧
    contentText record.event ≠ contentText request.event

/-- What a gateway that started empty does, in every run. -/
structure FencedPublication (gateway : EventGateway) : Prop where
  /-- The content of a stored event never changes, and `PUBLISHED` is absorbing. -/
  content : ∀ {P P' : IngestPool} {key record}, Ingested gateway (.idle .empty) P →
    Ingested gateway P P' → P.state.records.get? key = some record →
    ∃ record', P'.state.records.get? key = some record' ∧ record'.event = record.event ∧
      record'.inputHash = record.inputHash ∧ (record.status = .PUBLISHED → record' = record)
  /-- A request with different content at a stored key has no effect, -/
  rejected : ∀ {P P' : IngestPool} {actor request}, Ingested gateway (.idle .empty) P →
    Pool.Step (ingestChange gateway) P actor P' → actor.call? = some request →
    DistinctContents P' → StoredOther request P.state →
    P'.state.records = P.state.records ∧ P'.state.log = P.state.log
  /-- and is refused. -/
  refused : ∀ {P : IngestPool} {request outcome}, Ingested gateway (.idle .empty) P →
    (request, Prog.ofExcept outcome) ∈ P.threads → DistinctContents P →
    StoredOther request P.state → IsRefused outcome
  /-- Every entry of the journal is justified by the entries before it. -/
  journal : ∀ {P : IngestPool} {later note earlier}, Ingested gateway (.idle .empty) P →
    P.state.log = later ++ note :: earlier → NoteOk note earlier
  /-- The message id of a published event was returned by a publish call for it. -/
  messageId : ∀ {P : IngestPool} {key record}, Ingested gateway (.idle .empty) P →
    P.state.records.get? key = some record → record.status = .PUBLISHED →
    ∃ text request version, record.pubsubMessageId = some text ∧
      .publishReturned request key version record.inputHash text ∈ P.state.log
  attempts : ∀ {P : IngestPool} {key record}, Ingested gateway (.idle .empty) P →
    P.state.records.get? key = some record →
    record.publishAttempts = grantCount key P.state.log

/-- Among distinct contents, different content has another hash. -/
theorem hasOtherContent_of_storedOther {w : InboxWorld} {P : IngestPool} (hinv : InboxInv gateway w)
    (hdistinct : DistinctContents P) (hrequest : request ∈ P.calls)
    (hstored : ∀ {key record}, w.records.get? key = some record →
      ∃ call ∈ P.calls, call.event = record.event)
    (h : StoredOther request w) : HasOtherContent request w := by
  obtain ⟨record, hget, hne⟩ := h
  refine ⟨record, hget, fun heq => hne ?_⟩
  rw [(hinv.agrees hget).inputHash] at heq
  obtain ⟨call, hmem, hevent⟩ := hstored hget
  exact hdistinct ⟨call, hmem, by rw [hevent]⟩ ⟨request, hrequest, rfl⟩
    ((String.append_right_inj "sha256:").mp heq)

/-- For every interleaving of any number of requests, with publications that succeed, fail or
never come back: the content of an event is fixed by its first acceptance, the publisher is
called under a reservation only, reservations exclude each other until 30 seconds have passed since
the instant that its request had read, only the latest one can be finished, and once, and what is
published stays published. -/
theorem fencedPublication (gateway : EventGateway) : FencedPublication gateway := by
  have hsound := sound_ingestChange gateway
  have hinv : ∀ {P}, Ingested gateway (.idle .empty) P → InboxInv gateway P.state :=
    fun hreach => (hsound.holds (inboxInv_empty gateway) hreach).inv
  constructor
  case content =>
    intro P P' key record hreach hrest hget
    have hholds := hsound.holds (inboxInv_empty gateway) hreach
    obtain ⟨record', hget', hadvance⟩ := (Pool.sound hsound hholds hrest).2.records hget
    exact ⟨record', hget', hadvance.event, hadvance.inputHash, hadvance.published⟩
  case rejected =>
    intro P P' actor request hreach hstep hcall hdistinct hother
    have hholds := hsound.holds (inboxInv_empty gateway) hreach
    have hok : anyIngest actor P.state P'.state := by
      cases hstep with
      | start => trivial
      | move => trivial
      | env => cases hcall
    have hother' : HasOtherContent request P.state :=
      hasOtherContent_of_storedOther hholds.inv hdistinct (hstep.mem_calls hcall)
        (fun hget => (exists_call_of_stored hreach hget).imp fun _ h => ⟨hstep.calls_prefix.subset h.1, h.2⟩) hother
    rcases hholds.guarantee hsound hstep hok hcall with heq | hg
    · rw [heq]
      exact ⟨rfl, rfl⟩
    · exact hg.rejected hother'
  case refused =>
    intro P request outcome hreach hmem hdistinct hother
    have hholds := hsound.holds (inboxInv_empty gateway) hreach
    have htriple := hholds.triples _ hmem
    have hends : InboxEnds request outcome P.state := by
      cases outcome with
      | ok response => exact htriple P.state ((inboxRely gateway).refl _)
      | error error => exact htriple P.state ((inboxRely gateway).refl _)
    exact hends (hasOtherContent_of_storedOther hholds.inv hdistinct
      (List.mem_map.mpr ⟨_, hmem, rfl⟩) (exists_call_of_stored hreach) hother)
  case journal =>
    intro P later note earlier hreach hsplit
    exact (hinv hreach).journal.noteOk hsplit
  case messageId =>
    intro P key record hreach hget hpublished
    exact ((hinv hreach).agrees hget).published hpublished
  case attempts =>
    intro P key record hreach hget
    exact ((hinv hreach).agrees hget).attempts

end Ingestion

namespace Demo

theorem stripWhitespace_message : stripWhitespace "1001" = "1001" := by
  unfold stripWhitespace
  decide

namespace Intake

/-- Each reading of the clock takes a minute. -/
def eventGateway : EventGateway where
  runtime :=
    { clock := fun n => Time.minutes (n + 1)
      uuid4 := fun n => String.ofList (List.replicate n 'a')
      clock_mono := fun h =>
        Nat.mul_le_mul_right _ (Nat.mul_le_mul_right _ (Nat.add_le_add_right h 1))
      uuid4_injective := fun h => by simpa using congrArg String.length h }
  eventRateLimitPerMinute := 60
  changeStatusBaseUrl := "http://control-api"
  publish := fun _ _ _ => .ok ⟨"1001", stripWhitespace_message⟩

def event : ChangeEvent where
  schemaVersion := "1.0"
  eventId := "evt_007"
  tenantId := "tenant_demo"
  eventType := "api.contract.changed"
  source := ⟨"repository", "pr-42", "https://example.invalid/demo/pr/42"⟩
  occurredAt := 1
  receivedAt := 2
  subject := ⟨"customer-api", "api-contract", "customer-api-v2"⟩
  change := ⟨"Rename customer_id to customer_uuid", "1.4.0", "2.0.0", []⟩
  correlationId := "correlation"
  traceId := "trace"

/-- The digests of the two texts that are hashed, the key's and the content's. -/
scoped instance digests : Sha256 where
  hexdigest text :=
    if text = "\x7b\"event_id\":\"evt_007\",\"source\":\"repository\",\"tenant_id\":\"tenant_demo\"\x7d" then
      "05671c74c3e82faceafc992ca9fc1e8a64fffad475ea4b1b712cb1a53104805c"
    else "8be9d9db55967b4c879d08ae65aa338cc4fc2cbf18bc6541d693346665404d75"

def inboxKey : String × String :=
  ("tenant_demo", "05671c74c3e82faceafc992ca9fc1e8a64fffad475ea4b1b712cb1a53104805c")

/-- Both requests read the clock and find the event accepted, then both ask for a reservation. -/
def overlapped : IngestPool :=
  Pool.play (ingestChange eventGateway) (.idle .empty)
    [.start ⟨0, event⟩, .move 0 false, .move 0 false, .start ⟨1, event⟩, .move 1 false,
      .move 1 false, .move 0 false, .move 1 false]

theorem overlapped_log : overlapped.state.log =
    [.granted 1 inboxKey 3 (Time.minutes 2) (Time.minutes 3),
      .granted 0 inboxKey 2 (Time.minutes 1) (Time.minutes 3)] := by
  decide +kernel

theorem reach_overlapped : Ingested eventGateway (.idle .empty) overlapped :=
  Pool.reach_play (fun _ _ _ => trivial) _ (fun _ _ _ _ => trivial) _

end Intake

end Demo

/-- Every reservation is granted when the earlier ones are finished, or were granted 30 seconds ago. -/
def ExclusiveSinceGrant (log : List InboxNote) : Prop :=
  ∀ later request key version reservedAt present earlier,
    log = later ++ .granted request key version reservedAt present :: earlier →
    ∀ request' version' reservedAt' present',
      .granted request' key version' reservedAt' present' ∈ earlier →
      IsFinished earlier key version' ∨ present' + Time.seconds 30 ≤ present

open Demo Intake

/-- The journal of the overlapping requests is justified: the clock is 30 seconds past the timestamp
of the reservation that is taken over. -/
theorem fencedPublication_overlapped :
    NoteOk (.granted 1 inboxKey 3 (Time.minutes 2) (Time.minutes 3))
      [.granted 0 inboxKey 2 (Time.minutes 1) (Time.minutes 3)] :=
  (fencedPublication eventGateway).journal reach_overlapped
    (show _ = [] ++ _ from overlapped_log)

/-- Both reservations are granted in the same instant. -/
theorem not_exclusiveSinceGrant_overlapped :
    ¬ ∀ [Sha256] (gateway : EventGateway) (P : IngestPool), Ingested gateway (.idle .empty) P →
      ExclusiveSinceGrant P.state.log := by
  intro h
  have hexclusive := h eventGateway overlapped reach_overlapped [] 1 inboxKey 3 _ _ _
    overlapped_log 0 2 _ _ List.mem_cons_self
  rcases hexclusive with ⟨request, status, hmem⟩ | hlate
  · cases List.mem_singleton.mp hmem
  · exact absurd hlate (by decide)

end ChangeOps
