import ChangeOps.Contracts.CanonicalText
import ChangeOps.Contracts.Instants
import ChangeOps.Contracts.Models
import ChangeOps.Lib.EventStream

/-!
# ChangeOps.ControlApi — the text of the audit stream

`encode_audit_event` and the text that `audit_event_stream` yields (`control_api/sse.py`), and a
client that reads it as an event stream. The connection may break behind any character; the client
has then dispatched the events whose text has come completely, each with its own id, and no others.

That needs ids that are one line. `Framable` is the exact condition: an id with a line break in it
ends its own field.
-/

namespace ChangeOps

open EventStream

/-! ## The text of an event -/

def ActorType.value : ActorType → String
  | .USER => "user"
  | .AGENT => "agent"
  | .SERVICE => "service"
  | .SYSTEM => "system"

theorem ActorType.value_injective : Function.Injective ActorType.value := by
  intro a b h
  cases a <;> cases b <;> first | rfl | exact absurd h (by decide)

theorem AuditStatus.value_injective : Function.Injective AuditStatus.value := by
  intro a b h
  cases a <;> cases b <;> first | rfl | exact absurd h (by decide)

/-- The fields of an event, in the order of the model. -/
def AuditEvent.modelDump (event : AuditEvent) : Json :=
  .obj [("audit_event_id", .str event.auditEventId), ("tenant_id", .str event.tenantId),
    ("change_id", .str event.changeId), ("trace_id", .str event.traceId),
    ("event_type", .str event.eventType), ("actor_type", .str event.actorType.value),
    ("actor_id", .str event.actorId), ("resource", .str event.resource),
    ("action", .str event.action), ("decision_id", event.decisionId.elim .null .str),
    ("input_hash", .str event.inputHash), ("output_hash", .str event.outputHash),
    ("status", .str event.status.value), ("redacted_summary", .str event.redactedSummary),
    ("created_at", event.createdAt.toJson)]

/-- `model_dump_json()`. -/
def AuditEvent.modelDumpJson (event : AuditEvent) : List Char := event.modelDump.plain

/-- `encode_audit_event`. -/
def encodeAuditEvent (event : AuditEvent) : List Char :=
  "id: ".toList ++ event.auditEventId.toList ++ "\nevent: audit\ndata: ".toList ++
    event.modelDumpJson ++ "\n\n".toList

/-- The comment that keeps an idle connection open. -/
def keepAlive : List Char := ": keep-alive\n\n".toList

/-! ## What the generator yields -/

/-- What `audit_event_stream` yields at a time: an event, or the comment. -/
abbrev Yielded := Option AuditEvent

def Yielded.text : Yielded → List Char
  | some event => encodeAuditEvent event
  | none => keepAlive

/-- `audit_event_stream`, with the pages that the repository answers until the stream ends: the
events of a page, and the comment where a page was empty and the next one is awaited. -/
def auditEventStream (follow : Bool) : List (List AuditEvent) → List Yielded
  | [] => []
  | [page] => page.map some
  | page :: next :: pages =>
      page.map some ++
        if follow then (if page.isEmpty then [none] else []) ++ auditEventStream follow (next :: pages)
        else []

/-- The events that a sequence of yields carries. -/
def carried (yields : List Yielded) : List AuditEvent := yields.filterMap id

/-- Following on, the stream carries the events of all pages; otherwise those of the first. -/
theorem carried_auditEventStream (follow : Bool) (pages : List (List AuditEvent)) :
    carried (auditEventStream follow pages) =
      if follow then pages.flatten else (pages.head?.getD []) := by
  have hpage : ∀ page : List AuditEvent, carried (page.map some) = page := by
    intro page
    rw [carried, List.filterMap_map]
    exact List.filterMap_some
  cases follow with
  | false =>
    match pages with
    | [] => rfl
    | [page] => exact hpage page
    | page :: next :: pages =>
      simp only [auditEventStream, Bool.false_eq_true, if_false, List.append_nil, List.head?_cons,
        Option.getD_some]
      exact hpage page
  | true =>
    simp only [if_true]
    induction pages with
    | nil => rfl
    | cons page pages ih =>
      cases pages with
      | nil =>
        rw [List.flatten_cons, List.flatten_nil, List.append_nil]
        exact hpage page
      | cons next pages =>
        have hidle : carried (if page.isEmpty then [none] else []) = [] := by
          split_ifs <;> rfl
        unfold carried at hpage ih hidle ⊢
        simp only [auditEventStream, if_true, List.filterMap_append, List.flatten_cons]
        rw [hpage, hidle, List.nil_append, ih, List.flatten_cons]

/-! ## JSON is one line -/

open Reader (OneLine IsBreak)

theorem not_isBreak_digitChar : ∀ k < 16, ¬ IsBreak (Nat.digitChar k) := by decide

theorem oneLine_escapeChar (c : Char) : OneLine (Json.escapeChar c) := by
  have hescape : ∀ d : Char, ¬ IsBreak d → OneLine ['\\', d] := by
    intro d hd e hmem
    rcases List.mem_pair.mp hmem with rfl | rfl
    · decide
    · exact hd
  unfold Json.escapeChar
  split_ifs with hquote hslash hfeed hreturn htab hback hform hcontrol
  · exact hescape '"' (by decide)
  · exact hescape '\\' (by decide)
  · exact hescape 'n' (by decide)
  · exact hescape 'r' (by decide)
  · exact hescape 't' (by decide)
  · exact hescape 'b' (by decide)
  · exact hescape 'f' (by decide)
  · have hzeros : OneLine ['0', '0'] := by decide
    have hdigits : OneLine [Nat.digitChar (c.toNat / 16), Nat.digitChar (c.toNat % 16)] := by
      intro e hmem
      rcases List.mem_pair.mp hmem with rfl | rfl
      · exact not_isBreak_digitChar _ (by omega)
      · exact not_isBreak_digitChar _ (Nat.mod_lt _ (by decide))
    exact (hescape 'u' (by decide)).append (hzeros.append hdigits)
  · -- the character is written as it is, and is no break
    intro e hmem
    rw [List.mem_singleton.mp hmem]
    exact fun hbreak => hbreak.elim hfeed hreturn

theorem oneLine_cons {c : Char} (hc : ¬ IsBreak c) {text : List Char} (h : OneLine text) :
    OneLine (c :: text) := List.forall_mem_cons.mpr ⟨hc, h⟩

theorem oneLine_quote (s : String) : OneLine (Json.quote s) := by
  have hquote : ¬ IsBreak '"' := by decide
  refine oneLine_cons hquote (Reader.OneLine.append ?_ (oneLine_cons hquote (List.forall_mem_nil _)))
  intro c hmem
  obtain ⟨d, -, hd⟩ := List.mem_flatMap.mp hmem
  exact oneLine_escapeChar d c hd

theorem oneLine_commaSep {texts : List (List Char)} (h : ∀ text ∈ texts, OneLine text) :
    OneLine (Json.commaSep texts) := by
  have hcomma : ¬ IsBreak ',' := by decide
  induction texts with
  | nil => exact List.forall_mem_nil _
  | cons text texts ih =>
    rw [List.forall_mem_cons] at h
    cases texts with
    | nil => exact h.1
    | cons next texts => exact h.1.append (oneLine_cons hcomma (ih h.2))

theorem oneLine_bracketed {first last : Char} (hfirst : ¬ IsBreak first) (hlast : ¬ IsBreak last)
    {text : List Char} (h : OneLine text) : OneLine (first :: text ++ [last]) :=
  oneLine_cons hfirst (h.append (oneLine_cons hlast (List.forall_mem_nil _)))

/-- Whatever the document holds, its compact text has no line break. -/
theorem oneLine_plain (document : Json) : OneLine document.plain := by
  induction document using Json.induct with
  | null =>
    show OneLine "null".toList
    decide
  | bool b =>
    have hwords : OneLine "true".toList ∧ OneLine "false".toList := by decide
    cases b with
    | true => exact hwords.1
    | false => exact hwords.2
  | int n =>
    intro c hmem hbreak
    have hnumeral := Json.isNumeral_of_mem hmem
    rcases hbreak with rfl | rfl <;> exact absurd hnumeral (by decide)
  | str s => exact oneLine_quote s
  | arr items ih =>
    rw [Json.plain, Json.plainItems_eq_map]
    refine oneLine_bracketed (by decide) (by decide)
      (oneLine_commaSep fun text hmem => ?_)
    obtain ⟨item, hitem, rfl⟩ := List.mem_map.mp hmem
    exact ih item hitem
  | obj fields ih =>
    rw [Json.plain, Json.plainFields_eq_map, List.map_map]
    refine oneLine_bracketed (by decide) (by decide)
      (oneLine_commaSep fun text hmem => ?_)
    obtain ⟨field, hfield, rfl⟩ := List.mem_map.mp hmem
    exact (oneLine_quote field.1).append (oneLine_cons (by decide) (ih field hfield))

/-! ## The blocks of the stream -/

/-- An id that a client reads back as it was written. -/
def Framable (event : AuditEvent) : Prop := Reader.IsId event.auditEventId.toList

instance : DecidablePred Framable := fun event =>
  inferInstanceAs (Decidable (Reader.IsId event.auditEventId.toList))

/-- What a client dispatches for an event. -/
def AuditEvent.message (event : AuditEvent) : Message :=
  ⟨"audit".toList, event.modelDumpJson, event.auditEventId.toList⟩

def eventLines (event : AuditEvent) : List (List Char) :=
  ["id".toList ++ ':' :: ' ' :: event.auditEventId.toList,
    "event".toList ++ ':' :: ' ' :: "audit".toList,
    "data".toList ++ ':' :: ' ' :: event.modelDumpJson]

theorem encodeAuditEvent_eq (event : AuditEvent) :
    encodeAuditEvent event = linesText (eventLines event) ++ ['\n'] := by
  have hevent : "\nevent: audit\ndata: ".toList =
      '\n' :: ("event".toList ++ ':' :: ' ' :: "audit".toList) ++
        '\n' :: ("data".toList ++ [':', ' ']) := rfl
  have hid : "id: ".toList = "id".toList ++ [':', ' '] := rfl
  rw [encodeAuditEvent, hevent, hid, linesText, eventLines]
  simp only [List.flatMap_cons, List.flatMap_nil, List.append_assoc, List.cons_append,
    List.nil_append, List.append_nil]
  rfl

def keepAliveBlock : Block where
  lines := [": keep-alive".toList]
  oneLine := by decide
  notBlank := by decide

/-- The block that is yielded. -/
def Yielded.block : Yielded → Block
  | none => keepAliveBlock
  | some event =>
    if h : Framable event then
      { lines := eventLines event
        oneLine := by
          have hname : OneLine ("id".toList ++ [':', ' ']) ∧ OneLine ("data".toList ++ [':', ' ']) ∧
              OneLine ("event".toList ++ ':' :: ' ' :: "audit".toList) := by decide
          intro line hmem
          simp only [eventLines, List.mem_cons, List.not_mem_nil, or_false] at hmem
          rcases hmem with rfl | rfl | rfl
          · exact hname.1.append h.1
          · exact hname.2.2
          · exact hname.2.1.append (oneLine_plain _)
        notBlank := by simp [eventLines] }
    else keepAliveBlock

theorem Yielded.text_block {yielded : Yielded} (h : ∀ event ∈ yielded, Framable event) :
    yielded.block.text = yielded.text := by
  cases yielded with
  | none => rfl
  | some event =>
    rw [Yielded.block, dif_pos (h event rfl), Yielded.text, encodeAuditEvent_eq]
    rfl

/-! ## What the client reads -/

/-- A client between two events. -/
structure AtRest (r : Reader) : Prop where
  type : r.type = []
  data : r.data = []
  id : r.lastEventId = r.id

/-- The client that has read an event. -/
def received (event : AuditEvent) (r : Reader) : Reader :=
  { r with
    type := []
    data := []
    id := event.auditEventId.toList
    lastEventId := event.auditEventId.toList
    messages := r.messages ++ [event.message] }

theorem readBlock_event {r : Reader} (hr : AtRest r) {event : AuditEvent} (h : Framable event) :
    r.readBlock (Yielded.block (some event)) = received event r := by
  have hlines : (Yielded.block (some event)).lines = eventLines event := by
    rw [Yielded.block, dif_pos h]
  rw [Reader.readBlock, hlines, eventLines, List.foldl_cons, List.foldl_cons, List.foldl_cons,
    List.foldl_nil, Reader.endLine_field _ (by decide), Reader.endLine_field _ (by decide),
    Reader.endLine_field _ (by decide), Reader.field_id _ h.2, Reader.field_event, Reader.field_data,
    Reader.dispatch, if_neg (by simp)]
  have hdata : (r.data ++ event.modelDumpJson ++ ['\n']).dropLast = event.modelDumpJson := by
    rw [hr.data, List.nil_append, List.dropLast_concat]
  simp only [hdata]
  rfl

theorem readBlock_keepAlive {r : Reader} (hr : AtRest r) :
    r.readBlock (Yielded.block none) = r := by
  have hlines : r.readBlock (Yielded.block none) = r.dispatch := by
    show (r.endLine ": keep-alive".toList).dispatch = r.dispatch
    exact congrArg _ (Reader.endLine_comment r " keep-alive".toList)
  rw [hlines, Reader.dispatch, if_pos hr.data]
  obtain ⟨line, afterReturn, type, data, id, lastEventId, messages⟩ := r
  obtain ⟨rfl, rfl⟩ : type = [] ∧ lastEventId = id := ⟨hr.type, hr.id⟩
  rfl

/-- The id of the last event, or the one that the client has from before. -/
def lastId (lastEventId : List Char) (events : List AuditEvent) : List Char :=
  (events.getLast?.map (·.auditEventId.toList)).getD lastEventId

theorem foldl_readBlock {r : Reader} (hr : AtRest r) {yields : List Yielded}
    (h : ∀ event ∈ carried yields, Framable event) :
    ((yields.map Yielded.block).foldl Reader.readBlock r).messages =
      r.messages ++ (carried yields).map AuditEvent.message ∧
    ((yields.map Yielded.block).foldl Reader.readBlock r).lastEventId =
      lastId r.lastEventId (carried yields) := by
  induction yields generalizing r with
  | nil => exact ⟨(List.append_nil _).symm, rfl⟩
  | cons yielded yields ih =>
    rw [List.map_cons, List.foldl_cons]
    cases yielded with
    | none =>
      rw [readBlock_keepAlive hr]
      exact ih hr h
    | some event =>
      have hcarried : carried (some event :: yields) = event :: carried yields := rfl
      rw [hcarried, List.forall_mem_cons] at h
      have hrest : AtRest (received event r) := ⟨rfl, rfl, rfl⟩
      obtain ⟨hmessages, hlast⟩ := ih hrest h.2
      rw [readBlock_event hr h.1, hcarried]
      constructor
      · rw [hmessages, List.map_cons, received, List.append_assoc]
        rfl
      · rw [hlast, lastId, lastId, List.getLast?_cons]
        cases (carried yields).getLast? <;> rfl

/-! ## Every cut -/

/-- The client has been sent `n` characters of what was yielded: it has dispatched the events whose
text is among them, in their order, and has the id of the last of these. -/
def ReadsUpTo (yields : List Yielded) (lastEventId : List Char) (n : Nat) : Prop :=
  ∃ done rest, yields = done ++ rest ∧ (done.flatMap Yielded.text).length ≤ n ∧
    (∀ yielded ∈ rest.head?, n < (done.flatMap Yielded.text).length + yielded.text.length) ∧
    ((Reader.start lastEventId).readAll ((yields.flatMap Yielded.text).take n)).messages =
      (carried done).map AuditEvent.message ∧
    ((Reader.start lastEventId).readAll ((yields.flatMap Yielded.text).take n)).lastEventId =
      lastId lastEventId (carried done)

theorem readsUpTo_of_framable {yields : List Yielded}
    (h : ∀ event ∈ carried yields, Framable event) (lastEventId : List Char) (n : Nat) :
    ReadsUpTo yields lastEventId n := by
  have htext : ∀ {part : List Yielded}, (∀ event ∈ carried part, Framable event) →
      (part.map Yielded.block).flatMap Block.text = part.flatMap Yielded.text := by
    intro part hpart
    rw [List.flatMap_map]
    apply List.flatMap_congr
    intro yielded hmem
    refine Yielded.text_block fun event hevent => hpart event ?_
    exact List.mem_filterMap.mpr ⟨yielded, hmem, hevent⟩
  obtain ⟨done, rest, hsplit, hdone, hrest, hread⟩ :=
    (Reader.atLine_start lastEventId).readAll_blocks (yields.map Yielded.block) n
  obtain ⟨done, rest, rfl, rfl, rfl⟩ := List.map_eq_append_iff.mp hsplit
  have hcarried : carried (done ++ rest) = carried done ++ carried rest := List.filterMap_append
  rw [htext h] at hread
  rw [hcarried, List.forall_mem_append] at h
  rw [htext h.1] at hdone hrest
  obtain ⟨hmessages, hlast⟩ := foldl_readBlock (r := Reader.start lastEventId) ⟨rfl, rfl, rfl⟩ h.1
  refine ⟨done, rest, rfl, hdone, ?_, hread.messages.trans hmessages, hread.lastEventId.trans hlast⟩
  intro yielded hhead
  have hblock : yielded.block ∈ (rest.map Yielded.block).head? := by
    rw [List.head?_map, hhead]
    rfl
  have hfirst : ∀ event ∈ yielded, Framable event := fun event hevent =>
    h.2 event (List.mem_filterMap.mpr ⟨yielded, List.mem_of_mem_head? hhead, hevent⟩)
  rw [← Yielded.text_block hfirst]
  exact hrest _ hblock

/-- What a client dispatches has an id from a stream. -/
theorem framable_of_readsUpTo {yields : List Yielded}
    (h : ReadsUpTo yields [] (yields.flatMap Yielded.text).length) :
    ∀ event ∈ carried yields, Framable event := by
  obtain ⟨done, rest, rfl, hdone, hrest, hmessages, -⟩ := h
  have hall : rest = [] := by
    cases rest with
    | nil => rfl
    | cons yielded rest =>
      have hlt := hrest yielded rfl
      rw [List.flatMap_append, List.flatMap_cons, List.length_append, List.length_append] at hlt
      omega
  subst hall
  rw [List.append_nil] at hmessages ⊢
  intro event hmem
  have hstart : (Reader.start []).Fed := Reader.fed_start (by decide)
  have hfed := hstart.readAll
    ((done.flatMap Yielded.text).take (done.flatMap Yielded.text).length)
  exact hfed.messages event.message (hmessages ▸ List.mem_map_of_mem hmem)

/-- The JSON of an event tells which event it is. -/
theorem AuditEvent.message_injective : Function.Injective AuditEvent.message := by
  intro a b h
  have hdump : a.modelDump = b.modelDump := Json.plain_injective (congrArg Message.data h)
  simp only [AuditEvent.modelDump, Json.obj.injEq, List.cons.injEq, Prod.mk.injEq, Json.str.injEq,
    true_and, and_true, Time.toJson] at hdump
  obtain ⟨hid, htenant, hchange, htrace, htype, hactorType, hactor, hresource, haction, hdecision,
    hinput, houtput, hstatus, hsummary, hcreated⟩ := hdump
  have hdecisionId : a.decisionId = b.decisionId := by
    cases ha : a.decisionId with
    | none =>
      cases hb : b.decisionId with
      | none => rfl
      | some id => rw [ha, hb] at hdecision; cases hdecision
    | some id =>
      cases hb : b.decisionId with
      | none => rw [ha, hb] at hdecision; cases hdecision
      | some id' => rw [ha, hb] at hdecision; exact congrArg some (Json.str.inj hdecision)
  obtain ⟨⟩ := a
  obtain ⟨⟩ := b
  simp only [AuditEvent.mk.injEq]
  exact ⟨hid, htenant, hchange, htrace, htype, ActorType.value_injective hactorType, hactor,
    hresource, haction, hdecisionId, hinput, houtput, AuditStatus.value_injective hstatus, hsummary,
    Time.isoformat_injective hcreated⟩

/-- **The audit stream as text.** A client that is sent the text of the stream up to any character has
dispatched exactly the events that have come completely, in order, and goes on from the id of the last
of them, if and only if no event id has a line break or a null character in it. What it dispatches
tells the events apart. -/
theorem auditStream_readsUpTo (follow : Bool) (pages : List (List AuditEvent)) :
    ((∀ event ∈ carried (auditEventStream follow pages), Framable event) ↔
      ∀ lastEventId n, ReadsUpTo (auditEventStream follow pages) lastEventId n) ∧
    carried (auditEventStream follow pages) =
      (if follow then pages.flatten else (pages.head?.getD [])) ∧
    Function.Injective AuditEvent.message := by
  refine ⟨⟨fun h => readsUpTo_of_framable h, fun h => ?_⟩, carried_auditEventStream follow pages,
    AuditEvent.message_injective⟩
  exact framable_of_readsUpTo (h [] _)

namespace FramingDemo

def event : AuditEvent :=
  ⟨"audit_001", "tenant_demo", "chg_001", "trace_001", "CHANGE_RECEIVED", .SERVICE, "event-gateway",
    "changes/chg_001", "receive", none, "sha256:0", "sha256:0", .SUCCESS, "Received\nand \"stored\".",
    10⟩

/-- A summary with a line break is no trouble, an id with one is. -/
example : Framable event ∧ ¬ Framable { event with auditEventId := "audit\n001" } := by decide

/-- The client has the event and the comment behind it, and loses the connection in the next event. -/
theorem auditStream_readsUpTo_cut :
    ∀ lastEventId n, ReadsUpTo (auditEventStream true [[event], [], [event]]) lastEventId n :=
  (auditStream_readsUpTo true [[event], [], [event]]).1.mp (by decide)

end FramingDemo

end ChangeOps
