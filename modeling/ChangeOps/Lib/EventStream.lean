import Mathlib.Data.List.Basic
import Mathlib.Data.List.TakeWhile

/-!
# ChangeOps.Lib — reading an event stream

A `text/event-stream` is read line by line: a line gives a field a value, a blank line dispatches
what the fields since the last blank line have collected. Lines end with a line feed, a carriage
return or both. `Reader` is a reader in the middle of a stream; it takes one character at a time, so
it does not matter how the stream is cut into chunks.

A block is some lines and a blank line behind them. What a reader has dispatched after a part of a
stream of blocks is what the blocks in it hold that have come completely (`Reader.readAll_blocks`).
-/

namespace ChangeOps.EventStream

/-- An event that a reader dispatches. -/
structure Message where
  type : List Char
  data : List Char
  lastEventId : List Char
deriving DecidableEq

/-- A reader: the line it is in, its buffers, the last event id, and what it has dispatched. -/
structure Reader where
  line : List Char
  afterReturn : Bool
  type : List Char
  data : List Char
  id : List Char
  lastEventId : List Char
  messages : List Message

namespace Reader

/-- A reader that has got the id `lastEventId` from an earlier stream. -/
def start (lastEventId : List Char) : Reader := ⟨[], false, [], [], lastEventId, lastEventId, []⟩

/-! ## Lines -/

/-- A field that is unknown here is ignored; `retry` changes nothing that is dispatched. -/
def field (r : Reader) (name value : List Char) : Reader :=
  if name = "event".toList then { r with type := value }
  else if name = "data".toList then { r with data := r.data ++ value ++ ['\n'] }
  else if name = "id".toList then if Char.ofNat 0 ∈ value then r else { r with id := value }
  else r

/-- A blank line: nothing is dispatched without data. -/
def dispatch (r : Reader) : Reader :=
  if r.data = [] then { r with type := [], lastEventId := r.id }
  else { r with
    type := []
    data := []
    lastEventId := r.id
    messages := r.messages ++
      [⟨if r.type = [] then "message".toList else r.type, r.data.dropLast, r.id⟩] }

/-- The name of a field ends at the first colon. A comment has no name. -/
def fieldName (line : List Char) : List Char := line.takeWhile (· ≠ ':')

/-- The value of a field: what follows the colon, without one leading blank. -/
def fieldValue (line : List Char) : List Char :=
  match line.dropWhile (· ≠ ':') with
  | _ :: ' ' :: value => value
  | _ :: value => value
  | [] => []

def endLine (r : Reader) (line : List Char) : Reader :=
  if line = [] then r.dispatch else r.field (fieldName line) (fieldValue line)

/-- One character. A line feed behind a carriage return ends no line. -/
def read (r : Reader) (c : Char) : Reader :=
  if c = '\n' then
    if r.afterReturn then { r with afterReturn := false } else { r with line := [] }.endLine r.line
  else if c = '\r' then { { r with line := [] }.endLine r.line with afterReturn := true }
  else { r with line := r.line ++ [c], afterReturn := false }

def readAll (r : Reader) (text : List Char) : Reader := text.foldl read r

/-! ## Reading in parts -/

@[simp] theorem readAll_nil (r : Reader) : r.readAll [] = r := rfl

@[simp] theorem readAll_cons (r : Reader) (c : Char) (text : List Char) :
    r.readAll (c :: text) = (r.read c).readAll text := rfl

theorem readAll_append (r : Reader) (text text' : List Char) :
    r.readAll (text ++ text') = (r.readAll text).readAll text' := List.foldl_append

/-- A reader at the beginning of a line. -/
structure AtLine (r : Reader) : Prop where
  line : r.line = []
  afterReturn : r.afterReturn = false

theorem atLine_start (lastEventId : List Char) : AtLine (start lastEventId) := ⟨rfl, rfl⟩

/-- What ends a line. -/
def IsBreak (c : Char) : Prop := c = '\n' ∨ c = '\r'

instance : DecidablePred IsBreak := fun c => inferInstanceAs (Decidable (c = '\n' ∨ c = '\r'))

/-- A text within one line. -/
def OneLine (text : List Char) : Prop := ∀ c ∈ text, ¬ IsBreak c

instance : DecidablePred OneLine := fun text => List.decidableBAll (fun c => ¬ IsBreak c) text

theorem OneLine.append {text text' : List Char} (h : OneLine text) (h' : OneLine text') :
    OneLine (text ++ text') := by
  intro c hmem
  rcases List.mem_append.mp hmem with hmem | hmem
  · exact h c hmem
  · exact h' c hmem

theorem OneLine.of_append_left {text text' : List Char} (h : OneLine (text ++ text')) :
    OneLine text := fun c hmem => h c (List.mem_append_left _ hmem)

theorem read_of_not_break (r : Reader) {c : Char} (hc : ¬ IsBreak c) :
    r.read c = { r with line := r.line ++ [c], afterReturn := false } := by
  have hfeed : c ≠ '\n' := fun heq => hc (.inl heq)
  have hreturn : c ≠ '\r' := fun heq => hc (.inr heq)
  rw [read, if_neg hfeed, if_neg hreturn]

theorem readAll_oneLine {r : Reader} (hreturn : r.afterReturn = false) {text : List Char}
    (h : OneLine text) : r.readAll text = { r with line := r.line ++ text } := by
  induction text generalizing r with
  | nil =>
    rw [readAll_nil, List.append_nil]
  | cons c text ih =>
    rw [readAll_cons, read_of_not_break r (h c List.mem_cons_self),
      ih rfl fun c hmem => h c (List.mem_cons_of_mem _ hmem), List.append_assoc, ← hreturn]
    rfl

theorem AtLine.readAll_line {r : Reader} (hr : r.AtLine) {line : List Char} (h : OneLine line) :
    r.readAll (line ++ ['\n']) = r.endLine line := by
  rw [readAll_append, readAll_oneLine hr.afterReturn h, hr.line, List.nil_append, readAll_cons,
    readAll_nil, read, if_pos rfl]
  have hreturn : ({ r with line := line } : Reader).afterReturn = false := hr.afterReturn
  rw [if_neg (by rw [hreturn]; decide), ← hr.line]

theorem AtLine.field {r : Reader} (hr : r.AtLine) (name value : List Char) :
    (r.field name value).AtLine := by
  unfold Reader.field
  split_ifs <;> exact ⟨hr.line, hr.afterReturn⟩

theorem AtLine.dispatch {r : Reader} (hr : r.AtLine) : r.dispatch.AtLine := by
  unfold Reader.dispatch
  split_ifs <;> exact ⟨hr.line, hr.afterReturn⟩

theorem AtLine.endLine {r : Reader} (hr : r.AtLine) (line : List Char) : (r.endLine line).AtLine := by
  unfold Reader.endLine
  split_ifs
  · exact hr.dispatch
  · exact hr.field _ _

@[simp] theorem messages_field (r : Reader) (name value : List Char) :
    (r.field name value).messages = r.messages := by
  unfold field
  split_ifs <;> rfl

@[simp] theorem lastEventId_field (r : Reader) (name value : List Char) :
    (r.field name value).lastEventId = r.lastEventId := by
  unfold field
  split_ifs <;> rfl

/-! ## Blocks -/

end Reader

/-- Some lines, with a blank line behind them. -/
structure Block where
  lines : List (List Char)
  oneLine : ∀ line ∈ lines, Reader.OneLine line
  notBlank : ∀ line ∈ lines, line ≠ []

def linesText (lines : List (List Char)) : List Char := lines.flatMap (· ++ ['\n'])

def Block.text (block : Block) : List Char := linesText block.lines ++ ['\n']

namespace Reader

/-- A reader with what the block holds. -/
def readBlock (r : Reader) (block : Block) : Reader := (block.lines.foldl endLine r).dispatch

theorem AtLine.foldl_endLine {r : Reader} (hr : r.AtLine) (lines : List (List Char)) :
    (lines.foldl Reader.endLine r).AtLine := by
  induction lines generalizing r with
  | nil => exact hr
  | cons line lines ih => exact ih (hr.endLine line)

theorem AtLine.readAll_linesText {r : Reader} (hr : r.AtLine) {lines : List (List Char)}
    (h : ∀ line ∈ lines, OneLine line) :
    r.readAll (linesText lines) = lines.foldl Reader.endLine r := by
  induction lines generalizing r with
  | nil => rfl
  | cons line lines ih =>
    rw [List.forall_mem_cons] at h
    rw [linesText, List.flatMap_cons, readAll_append, hr.readAll_line h.1, List.foldl_cons]
    exact ih (hr.endLine line) h.2

theorem AtLine.readAll_block {r : Reader} (hr : r.AtLine) (block : Block) :
    r.readAll block.text = r.readBlock block := by
  have hblank : OneLine [] := fun c hmem => by cases hmem
  have hlines := hr.foldl_endLine block.lines
  rw [Block.text, readAll_append, hr.readAll_linesText block.oneLine]
  have hread := hlines.readAll_line hblank
  rw [List.nil_append] at hread
  rw [hread]
  rfl

theorem AtLine.readBlock {r : Reader} (hr : r.AtLine) (block : Block) : (r.readBlock block).AtLine :=
  (hr.foldl_endLine block.lines).dispatch

/-- Two readers have dispatched the same. -/
structure SameDispatched (r r' : Reader) : Prop where
  messages : r'.messages = r.messages
  lastEventId : r'.lastEventId = r.lastEventId

theorem SameDispatched.trans {a b c : Reader} (hab : SameDispatched a b) (hbc : SameDispatched b c) :
    SameDispatched a c :=
  ⟨hbc.messages.trans hab.messages, hbc.lastEventId.trans hab.lastEventId⟩

theorem sameDispatched_endLine (r : Reader) {line : List Char} (h : line ≠ []) :
    SameDispatched r (r.endLine line) := by
  rw [endLine, if_neg h]
  exact ⟨messages_field r _ _, lastEventId_field r _ _⟩

/-- A part of a block that stops before the blank line dispatches nothing. -/
theorem AtLine.sameDispatched {r : Reader} (hr : r.AtLine) {lines : List (List Char)}
    (honeLine : ∀ line ∈ lines, OneLine line) (hnotBlank : ∀ line ∈ lines, line ≠ [])
    {part : List Char} (hpart : part <+: linesText lines) : SameDispatched r (r.readAll part) := by
  induction lines generalizing r part with
  | nil =>
    rw [List.prefix_nil.mp hpart]
    exact ⟨rfl, rfl⟩
  | cons line lines ih =>
    rw [List.forall_mem_cons] at honeLine hnotBlank
    rw [linesText, List.flatMap_cons] at hpart
    rcases Nat.lt_or_ge part.length (line ++ ['\n']).length with hlt | hge
    · -- still in the first line
      have hwithin : part <+: line ++ ['\n'] :=
        List.prefix_of_prefix_length_le hpart (List.prefix_append _ _) (Nat.le_of_lt hlt)
      rw [List.length_append, List.length_singleton] at hlt
      have hline : part <+: line :=
        List.prefix_of_prefix_length_le hwithin (List.prefix_append _ _) (Nat.le_of_lt_succ hlt)
      obtain ⟨rest, rfl⟩ := hline
      rw [readAll_oneLine hr.afterReturn honeLine.1.of_append_left]
      exact ⟨rfl, rfl⟩
    · obtain ⟨rest, rfl⟩ :=
        List.prefix_of_prefix_length_le (List.prefix_append _ _) hpart hge
      rw [List.prefix_append_right_inj] at hpart
      rw [readAll_append, hr.readAll_line honeLine.1]
      exact (sameDispatched_endLine r hnotBlank.1).trans
        (ih (hr.endLine line) honeLine.2 hnotBlank.2 hpart)

/-- **A stream that is cut anywhere.** The blocks in front of the cut are read, the others are not. -/
theorem AtLine.readAll_blocks {r : Reader} (hr : r.AtLine) (blocks : List Block) (n : Nat) :
    ∃ done rest, blocks = done ++ rest ∧ (done.flatMap Block.text).length ≤ n ∧
      (∀ block ∈ rest.head?, n < (done.flatMap Block.text).length + block.text.length) ∧
      SameDispatched (done.foldl Reader.readBlock r)
        (r.readAll ((blocks.flatMap Block.text).take n)) := by
  induction blocks generalizing r n with
  | nil =>
    refine ⟨[], [], rfl, Nat.zero_le n, fun _ h => (by cases h), ?_⟩
    rw [List.flatMap_nil, List.take_nil]
    exact ⟨rfl, rfl⟩
  | cons block blocks ih =>
    rcases Nat.lt_or_ge n block.text.length with hlt | hge
    · refine ⟨[], block :: blocks, rfl, Nat.zero_le n, ?_, ?_⟩
      · rintro _ ⟨⟩
        rw [List.flatMap_nil, List.length_nil, Nat.zero_add]
        exact hlt
      · have hpart : (block.text ++ blocks.flatMap Block.text).take n <+: linesText block.lines := by
          rw [List.take_append_of_le_length (Nat.le_of_lt hlt)]
          refine List.prefix_of_prefix_length_le (List.take_prefix n block.text)
            (List.prefix_append _ _) ?_
          rw [Block.text, List.length_append, List.length_singleton] at hlt
          exact Nat.le_trans (List.length_take_le _ _) (Nat.le_of_lt_succ hlt)
        exact hr.sameDispatched block.oneLine block.notBlank hpart
    · obtain ⟨done, rest, rfl, hdone, hrest, hread⟩ :=
        ih (hr.readBlock block) (n - block.text.length)
      refine ⟨block :: done, rest, rfl, ?_, ?_, ?_⟩
      · rw [List.flatMap_cons, List.length_append]
        omega
      · intro next hnext
        have hlt := hrest next hnext
        rw [List.flatMap_cons, List.length_append]
        omega
      · rw [List.flatMap_cons, List.take_append, List.take_of_length_le hge, readAll_append,
          hr.readAll_block]
        exact hread

/-! ## Fields -/

theorem fieldName_append {name : List Char} (h : ':' ∉ name) (rest : List Char) :
    fieldName (name ++ ':' :: rest) = name := by
  have hname : ∀ c ∈ name, decide (c ≠ ':') = true := by
    intro c hmem
    rw [decide_eq_true_eq]
    rintro rfl
    exact h hmem
  rw [fieldName, List.takeWhile_append_of_pos hname, List.takeWhile_cons_of_neg (by simp),
    List.append_nil]

theorem fieldValue_append {name : List Char} (h : ':' ∉ name) (value : List Char) :
    fieldValue (name ++ ':' :: ' ' :: value) = value := by
  have hname : ∀ c ∈ name, decide (c ≠ ':') = true := by
    intro c hmem
    rw [decide_eq_true_eq]
    rintro rfl
    exact h hmem
  rw [fieldValue, List.dropWhile_append_of_pos hname, List.dropWhile_cons_of_neg (by simp)]
  rfl

theorem mem_of_mem_fieldValue {line : List Char} {c : Char} (h : c ∈ fieldValue line) : c ∈ line := by
  have hdrop : ∀ d ∈ line.dropWhile (· ≠ ':'), d ∈ line :=
    fun d hmem => (List.dropWhile_sublist _).subset hmem
  unfold fieldValue at h
  split at h
  · next hline =>
    exact hdrop c (hline ▸ List.mem_cons_of_mem _ (List.mem_cons_of_mem _ h))
  · next hline =>
    exact hdrop c (hline ▸ List.mem_cons_of_mem _ h)
  · cases h

/-- A line that gives a field a value. -/
theorem endLine_field (r : Reader) {name : List Char} (h : ':' ∉ name) (value : List Char) :
    r.endLine (name ++ ':' :: ' ' :: value) = r.field name value := by
  rw [endLine, if_neg (by simp), fieldName_append h, fieldValue_append h]

/-- A line that starts with a colon is a comment. -/
theorem endLine_comment (r : Reader) (text : List Char) : r.endLine (':' :: text) = r := by
  rw [endLine, if_neg (List.cons_ne_nil _ _)]
  rfl

theorem field_event (r : Reader) (value : List Char) :
    r.field "event".toList value = { r with type := value } := if_pos rfl

theorem field_data (r : Reader) (value : List Char) :
    r.field "data".toList value = { r with data := r.data ++ value ++ ['\n'] } := by
  rw [field, if_neg (by decide), if_pos rfl]

theorem field_id (r : Reader) {value : List Char} (h : Char.ofNat 0 ∉ value) :
    r.field "id".toList value = { r with id := value } := by
  rw [field, if_neg (by decide), if_neg (by decide), if_pos rfl, if_neg h]

/-! ## What no stream can give

Ids are taken from lines, and an id with a null character is not taken at all. -/

/-- An id that a reader can have got from a stream. -/
def IsId (id : List Char) : Prop := OneLine id ∧ Char.ofNat 0 ∉ id

instance : DecidablePred IsId := fun id =>
  inferInstanceAs (Decidable (OneLine id ∧ Char.ofNat 0 ∉ id))

/-- A reader whose ids are from a stream. -/
structure Fed (r : Reader) : Prop where
  line : OneLine r.line
  id : IsId r.id
  messages : ∀ message ∈ r.messages, IsId message.lastEventId

theorem fed_start {lastEventId : List Char} (h : IsId lastEventId) : (start lastEventId).Fed where
  line c hmem := by cases hmem
  id := h
  messages message hmem := by cases hmem

namespace Fed

variable {r : Reader}

theorem field (h : r.Fed) {name value : List Char} (hvalue : OneLine value) :
    (r.field name value).Fed := by
  unfold Reader.field
  split_ifs with _ _ _ hnull
  · exact ⟨h.line, h.id, h.messages⟩
  · exact ⟨h.line, h.id, h.messages⟩
  · exact h
  · exact ⟨h.line, ⟨hvalue, hnull⟩, h.messages⟩
  · exact h

theorem dispatch (h : r.Fed) : r.dispatch.Fed := by
  by_cases hdata : r.data = []
  · rw [Reader.dispatch, if_pos hdata]
    exact ⟨h.line, h.id, h.messages⟩
  · rw [Reader.dispatch, if_neg hdata]
    refine ⟨h.line, h.id, fun message hmem => ?_⟩
    rcases List.mem_append.mp hmem with hold | hnew
    · exact h.messages message hold
    · rw [List.mem_singleton.mp hnew]
      exact h.id

theorem endLine (h : r.Fed) {line : List Char} (hline : OneLine line) : (r.endLine line).Fed := by
  unfold Reader.endLine
  split_ifs
  · exact h.dispatch
  · exact h.field fun c hmem => hline c (mem_of_mem_fieldValue hmem)

theorem read (h : r.Fed) (c : Char) : (r.read c).Fed := by
  have hempty : OneLine [] := fun c hmem => by cases hmem
  have hfresh : ({ r with line := [] } : Reader).Fed := ⟨hempty, h.id, h.messages⟩
  have hended := hfresh.endLine h.line
  unfold Reader.read
  split_ifs with hfeed _ hreturn
  · exact ⟨h.line, h.id, h.messages⟩
  · exact hended
  · exact ⟨hended.line, hended.id, hended.messages⟩
  · refine ⟨h.line.append fun d hmem => ?_, h.id, h.messages⟩
    rw [List.mem_singleton.mp hmem]
    exact fun hbreak => hbreak.elim hfeed hreturn

theorem readAll (h : r.Fed) (text : List Char) : (r.readAll text).Fed := by
  induction text generalizing r with
  | nil => exact h
  | cons c text ih => exact ih (h.read c)

end Fed

end Reader

end ChangeOps.EventStream
