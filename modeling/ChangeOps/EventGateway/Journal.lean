import ChangeOps.EventGateway.Ingest

/-!
# ChangeOps.EventGateway — the journal and the inbox

What the journal of a gateway must look like (`Journal`), and how the stored records and the
journal hang together (`InboxInv`). There is one lemma for each kind of write: accepting an
event, granting a reservation, an entry of the publisher, and finishing a reservation.
-/

namespace ChangeOps

/-! ## The journal -/

/-- Some request has finished the reservation. -/
def IsFinished (log : List InboxNote) (key : String × String) (version : Nat) : Prop :=
  ∃ request status, .finished request key version status ∈ log

/-- An entry is justified by the entries before it. -/
def NoteOk : InboxNote → List InboxNote → Prop
  -- every earlier reservation is finished or at least 30 seconds old, and has a lower version
  | .granted _ key version _ present, earlier =>
      ∀ request' version' reservedAt' present',
        .granted request' key version' reservedAt' present' ∈ earlier →
        version' < version ∧
          (IsFinished earlier key version' ∨ reservedAt' + Time.seconds 30 ≤ present)
  -- the publisher is called by the holder of a reservation
  | .publishCalled request key version, earlier =>
      ∃ reservedAt present, .granted request key version reservedAt present ∈ earlier
  | .publishReturned request key version _ _, earlier =>
      .publishCalled request key version ∈ earlier
  -- a reservation is finished by its holder, while it is the latest one, and once
  | .finished request key version _, earlier =>
      (∃ reservedAt present, .granted request key version reservedAt present ∈ earlier) ∧
        (∀ request' version' reservedAt' present',
          .granted request' key version' reservedAt' present' ∈ earlier →
          version' < version ∨ (version' = version ∧ request' = request)) ∧
        ¬ IsFinished earlier key version

/-- A journal, latest entry first, all of whose entries are justified. -/
def Journal : List InboxNote → Prop
  | [] => True
  | note :: earlier => NoteOk note earlier ∧ Journal earlier

theorem Journal.noteOk {log : List InboxNote} (h : Journal log) {later : List InboxNote}
    {note : InboxNote} {earlier : List InboxNote} (hsplit : log = later ++ note :: earlier) :
    NoteOk note earlier := by
  induction later generalizing log with
  | nil =>
    subst hsplit
    exact h.1
  | cons first later ih =>
    subst hsplit
    exact ih h.2 rfl

/-- A reservation has one holder. -/
theorem Journal.holder_unique {log : List InboxNote} (h : Journal log) {key : String × String}
    {version request request' : Nat} {reservedAt reservedAt' present present' : Time}
    (hmem : .granted request key version reservedAt present ∈ log)
    (hmem' : .granted request' key version reservedAt' present' ∈ log) : request' = request := by
  induction log with
  | nil => cases hmem
  | cons note earlier ih =>
    -- an earlier grant would have a lower version
    rcases List.mem_cons.mp hmem with rfl | hearlier
    · rcases List.mem_cons.mp hmem' with heq | hearlier'
      · cases heq
        rfl
      · exact absurd (h.1 _ _ _ _ hearlier').1 (Nat.lt_irrefl _)
    · rcases List.mem_cons.mp hmem' with rfl | hearlier'
      · exact absurd (h.1 _ _ _ _ hearlier).1 (Nat.lt_irrefl _)
      · exact ih h.2 hearlier hearlier'

/-- The number of reservations granted for an event. -/
def grantCount (key : String × String) (log : List InboxNote) : Nat :=
  log.countP fun
    | .granted _ key' _ _ _ => key' = key
    | _ => false

@[simp] theorem grantCount_granted (key key' : String × String) (request version : Nat)
    (reservedAt present : Time) (log : List InboxNote) :
    grantCount key (.granted request key' version reservedAt present :: log) =
      grantCount key log + if key' = key then 1 else 0 := by
  simp only [grantCount, List.countP_cons, decide_eq_true_eq]

theorem grantCount_cons_of_not_granted {key : String × String} {note : InboxNote}
    (h : ∀ request version reservedAt present,
      note ≠ .granted request key version reservedAt present) (log : List InboxNote) :
    grantCount key (note :: log) = grantCount key log := by
  cases note with
  | granted request key' version reservedAt present =>
    have hne : key' ≠ key := by
      rintro rfl
      exact h _ _ _ _ rfl
    simp [hne]
  | _ => simp [grantCount]

theorem IsFinished.cons {log : List InboxNote} {key : String × String} {version : Nat}
    (h : IsFinished log key version) (note : InboxNote) : IsFinished (note :: log) key version := by
  obtain ⟨request, status, hmem⟩ := h
  exact ⟨request, status, List.mem_cons_of_mem _ hmem⟩

theorem isFinished_cons_of_ne {log : List InboxNote} {key : String × String} {version : Nat}
    {note : InboxNote}
    (hne : ∀ request status, note ≠ .finished request key version status) :
    IsFinished (note :: log) key version ↔ IsFinished log key version := by
  constructor
  · rintro ⟨request, status, hmem⟩
    rcases List.mem_cons.mp hmem with heq | hmem
    · exact absurd heq.symm (hne request status)
    · exact ⟨request, status, hmem⟩
  · intro h
    exact h.cons note

/-! ## Records and journal -/

variable [Sha256]

/-- A stored record agrees with the journal; `present` is the time. -/
structure Agrees (present : Time) (log : List InboxNote) (key : String × String)
    (record : EventInboxRecord) : Prop where
  key_eq : key = (record.event.tenantId, eventKey record.event)
  eventKey_eq : record.eventKey = key.2
  inputHash : record.inputHash = eventInputHash record.event
  attempts : record.publishAttempts = grantCount key log
  granted_le : ∀ {request version reservedAt present'},
    .granted request key version reservedAt present' ∈ log → version ≤ record.version
  /-- The reservation of the record's own version is open. -/
  current : ∀ {request version reservedAt present'},
    .granted request key version reservedAt present' ∈ log → version = record.version →
    record.status = .PUBLISHING ∧ reservedAt = record.updatedAt
  /-- An earlier reservation is finished, or was old enough to be taken over. -/
  superseded : ∀ {request version reservedAt present'},
    .granted request key version reservedAt present' ∈ log → version < record.version →
    IsFinished log key version ∨ reservedAt + Time.seconds 30 ≤ present
  finished_lt : ∀ {version}, IsFinished log key version → version < record.version
  published : record.status = .PUBLISHED → ∃ messageId request version,
    record.pubsubMessageId = some messageId ∧
      .publishReturned request key version record.inputHash messageId ∈ log

namespace Agrees

variable {present : Time} {log : List InboxNote} {key : String × String} {record : EventInboxRecord}

theorem mono {present' : Time} (h : Agrees present log key record) (hle : present ≤ present') :
    Agrees present' log key record :=
  { h with superseded := fun hmem hlt => (h.superseded hmem hlt).imp_right (Nat.le_trans · hle) }

/-- An entry that grants and finishes nothing for this event. -/
theorem cons (h : Agrees present log key record) {note : InboxNote}
    (hgranted : ∀ request version reservedAt present',
      note ≠ .granted request key version reservedAt present')
    (hfinished : ∀ request version status, note ≠ .finished request key version status) :
    Agrees present (note :: log) key record := by
  have hmem : ∀ {request version reservedAt present'},
      .granted request key version reservedAt present' ∈ note :: log →
      .granted request key version reservedAt present' ∈ log := by
    intro request version reservedAt present' hmem
    rcases List.mem_cons.mp hmem with heq | hmem
    · exact absurd heq.symm (hgranted _ _ _ _)
    · exact hmem
  exact
    { key_eq := h.key_eq
      eventKey_eq := h.eventKey_eq
      inputHash := h.inputHash
      attempts := by rw [h.attempts, grantCount_cons_of_not_granted hgranted]
      granted_le := fun hg => h.granted_le (hmem hg)
      current := fun hg => h.current (hmem hg)
      superseded := fun hg hlt => (h.superseded (hmem hg) hlt).imp_left (·.cons note)
      finished_lt := fun hf => h.finished_lt ((isFinished_cons_of_ne (hfinished · _)).mp hf)
      published := fun hp => by
        obtain ⟨messageId, request, version, hid, hmem⟩ := h.published hp
        exact ⟨messageId, request, version, hid, List.mem_cons_of_mem _ hmem⟩ }

theorem cons_of_key_ne (h : Agrees present log key record) {note : InboxNote}
    (hne : note.key ≠ key) : Agrees present (note :: log) key record := by
  refine h.cons ?_ ?_
  · rintro request version reservedAt present' rfl
    exact hne rfl
  · rintro request version status rfl
    exact hne rfl

/-- A record that has just been accepted. -/
theorem new (event : ChangeEvent) (changeId : String) (now : Time)
    (hlog : ∀ note ∈ log, note.key ≠ (event.tenantId, eventKey event)) :
    Agrees present log (event.tenantId, eventKey event) (newInboxRecord event changeId now) where
  key_eq := rfl
  eventKey_eq := rfl
  inputHash := rfl
  attempts := by
    refine (List.countP_eq_zero.mpr fun note hmem => ?_).symm
    have hne := hlog note hmem
    cases note with
    | granted =>
      simp only [decide_eq_true_eq]
      exact hne
    | _ => simp
  granted_le hmem := absurd rfl (hlog _ hmem)
  current hmem := absurd rfl (hlog _ hmem)
  superseded hmem := absurd rfl (hlog _ hmem)
  finished_lt hf := by
    obtain ⟨request, status, hmem⟩ := hf
    exact absurd rfl (hlog _ hmem)
  published hp := by cases hp

/-- A reservation is granted: what was open before is old enough. -/
theorem grant (h : Agrees present log key record) {now : Time} (hnow : now ≤ present)
    (hold : record.status = .PUBLISHING → record.updatedAt + Time.seconds 30 ≤ now)
    (request : Nat) :
    NoteOk (.granted request key (record.version + 1) now present) log ∧
      Agrees present (.granted request key (record.version + 1) now present :: log) key
        (record.reserved now) := by
  -- every earlier reservation is finished or old
  have hsettled : ∀ {request' version' reservedAt' present'},
      .granted request' key version' reservedAt' present' ∈ log →
      IsFinished log key version' ∨ reservedAt' + Time.seconds 30 ≤ present := by
    intro request' version' reservedAt' present' hmem
    rcases Nat.lt_or_eq_of_le (h.granted_le hmem) with hlt | heq
    · exact h.superseded hmem hlt
    · obtain ⟨hstatus, rfl⟩ := h.current hmem heq
      exact .inr (Nat.le_trans (hold hstatus) hnow)
  constructor
  · intro request' version' reservedAt' present' hmem
    exact ⟨Nat.lt_succ_of_le (h.granted_le hmem), hsettled hmem⟩
  · have hfinished : ∀ {version'}, IsFinished (.granted request key (record.version + 1) now present
        :: log) key version' → IsFinished log key version' :=
      fun hf => (isFinished_cons_of_ne (by simp)).mp hf
    constructor
    case key_eq => exact h.key_eq
    case eventKey_eq => exact h.eventKey_eq
    case inputHash => exact h.inputHash
    case attempts =>
      rw [grantCount_granted, if_pos rfl, ← h.attempts]
      rfl
    case granted_le =>
      intro request' version' reservedAt' present' hmem
      rcases List.mem_cons.mp hmem with heq | hmem
      · cases heq
        exact Nat.le_refl _
      · exact Nat.le_succ_of_le (h.granted_le hmem)
    case current =>
      intro request' version' reservedAt' present' hmem heq
      rcases List.mem_cons.mp hmem with heq' | hmem
      · cases heq'
        exact ⟨rfl, rfl⟩
      · have hle := h.granted_le hmem
        rw [heq] at hle
        exact absurd hle (Nat.not_succ_le_self _)
    case superseded =>
      intro request' version' reservedAt' present' hmem hlt
      rcases List.mem_cons.mp hmem with heq | hmem
      · cases heq
        exact absurd hlt (Nat.lt_irrefl _)
      · exact (hsettled hmem).imp_left (·.cons _)
    case finished_lt =>
      intro version' hf
      exact Nat.lt_succ_of_lt (h.finished_lt (hfinished hf))
    case published =>
      intro hp
      cases hp

/-- The holder of the record's own version finishes it. -/
theorem finish (h : Agrees present log key record) (hjournal : Journal log) {request : Nat}
    {reservedAt present' : Time}
    (hholder : .granted request key record.version reservedAt present' ∈ log) {status : InboxStatus}
    {messageId : Option String} (errorCode : Option String) (now : Time)
    (hstatus : status = .PUBLISHED → ∃ text, messageId = some text ∧
      .publishReturned request key record.version record.inputHash text ∈ log) :
    NoteOk (.finished request key record.version status) log ∧
      Agrees present (.finished request key record.version status :: log) key
        (record.finished status messageId errorCode now) := by
  have hmem : ∀ {request' version' reservedAt' present''},
      .granted request' key version' reservedAt' present'' ∈
        .finished request key record.version status :: log →
      .granted request' key version' reservedAt' present'' ∈ log := by
    intro request' version' reservedAt' present'' hmem
    rcases List.mem_cons.mp hmem with heq | hmem
    · cases heq
    · exact hmem
  constructor
  · refine ⟨⟨_, _, hholder⟩, ?_, fun hf => absurd (h.finished_lt hf) (Nat.lt_irrefl _)⟩
    intro request' version' reservedAt' present'' hmem
    rcases Nat.lt_or_eq_of_le (h.granted_le hmem) with hlt | rfl
    · exact .inl hlt
    · exact .inr ⟨rfl, hjournal.holder_unique hholder hmem⟩
  · constructor
    case key_eq => exact h.key_eq
    case eventKey_eq => exact h.eventKey_eq
    case inputHash => exact h.inputHash
    case attempts =>
      rw [grantCount_cons_of_not_granted (by simp)]
      exact h.attempts
    case granted_le =>
      intro request' version' reservedAt' present'' hg
      exact Nat.le_succ_of_le (h.granted_le (hmem hg))
    case current =>
      intro request' version' reservedAt' present'' hg heq
      have hle := h.granted_le (hmem hg)
      rw [heq] at hle
      exact absurd hle (Nat.not_succ_le_self _)
    case superseded =>
      intro request' version' reservedAt' present'' hg hlt
      rcases Nat.lt_or_eq_of_le (Nat.le_of_lt_succ hlt) with hlt | rfl
      · exact (h.superseded (hmem hg) hlt).imp_left (·.cons _)
      · exact .inl ⟨request, status, List.mem_cons_self⟩
    case finished_lt =>
      rintro version' ⟨request', status', hf⟩
      rcases List.mem_cons.mp hf with heq | hf
      · cases heq
        exact Nat.lt_succ_self _
      · exact Nat.lt_succ_of_lt (h.finished_lt ⟨request', status', hf⟩)
    case published =>
      intro hp
      obtain ⟨text, htext, hreturned⟩ := hstatus hp
      exact ⟨text, request, record.version, htext, List.mem_cons_of_mem _ hreturned⟩

end Agrees

/-! ## The invariant of the gateway -/

/-- The journal is justified, and every stored record agrees with it. -/
structure InboxInv (gateway : EventGateway) (w : InboxWorld) : Prop where
  journal : Journal w.log
  unlogged : ∀ {key}, w.records.get? key = none → ∀ note ∈ w.log, note.key ≠ key
  agrees : ∀ {key record}, w.records.get? key = some record →
    Agrees (gateway.runtime.clock w.tick) w.log key record

theorem inboxInv_empty (gateway : EventGateway) : InboxInv gateway .empty where
  journal := trivial
  unlogged _ _ hmem := by cases hmem
  agrees h := by cases h

namespace InboxInv

variable {gateway : EventGateway} {w : InboxWorld}

/-- Time passes, nothing else of the inbox changes. -/
theorem idle (h : InboxInv gateway w) {w' : InboxWorld} (hrecords : w'.records = w.records)
    (hlog : w'.log = w.log) (htick : w.tick ≤ w'.tick) : InboxInv gateway w' where
  journal := by
    rw [hlog]
    exact h.journal
  unlogged := by
    rw [hlog, hrecords]
    exact h.unlogged
  agrees := by
    intro key record hget
    rw [hrecords] at hget
    rw [hlog]
    exact (h.agrees hget).mono (gateway.runtime.clock_mono htick)

/-- A record is stored and an entry about it is made, or none. -/
theorem write (h : InboxInv gateway w) (key : String × String) {record : EventInboxRecord}
    (notes : List InboxNote) (hkey : ∀ note ∈ notes, note.key = key)
    (hjournal : Journal (notes ++ w.log))
    (hagrees : Agrees (gateway.runtime.clock w.tick) (notes ++ w.log) key record) :
    InboxInv gateway { w with records := w.records.set key record, log := notes ++ w.log } where
  journal := hjournal
  unlogged := by
    intro key' hget note hmem heq
    dsimp only at hget
    rw [Dict.get?_set] at hget
    split_ifs at hget with hk
    rcases List.mem_append.mp hmem with hnew | hold
    · exact hk (heq.symm.trans (hkey note hnew))
    · exact h.unlogged hget note hold heq
  agrees := by
    intro key' record' hget
    dsimp only at hget
    rw [Dict.get?_set] at hget
    split_ifs at hget with hk
    · cases hget
      rw [hk]
      exact hagrees
    · -- the entries are about another event
      clear hagrees hjournal
      induction notes with
      | nil => exact h.agrees hget
      | cons note notes ih =>
        have hne : note.key ≠ key' := fun heq => hk (heq.symm.trans (hkey note List.mem_cons_self))
        exact (ih fun n hn => hkey n (List.mem_cons_of_mem _ hn)).cons_of_key_ne hne

/-- An entry of the publisher, about an event that is stored. -/
theorem note (h : InboxInv gateway w) (entry : InboxNote) (hok : NoteOk entry w.log)
    (hstored : w.records.get? entry.key ≠ none)
    (hgranted : ∀ request key version reservedAt present,
      entry ≠ .granted request key version reservedAt present)
    (hfinished : ∀ request key version status, entry ≠ .finished request key version status)
    (publishes : Nat) :
    InboxInv gateway { w with publishes := publishes, log := entry :: w.log } where
  journal := ⟨hok, h.journal⟩
  unlogged := by
    intro key hget entry' hmem
    rcases List.mem_cons.mp hmem with rfl | hold
    · rintro rfl
      exact hstored hget
    · exact h.unlogged hget entry' hold
  agrees hget := (h.agrees hget).cons (hgranted · _) (hfinished · _)

end InboxInv

end ChangeOps
