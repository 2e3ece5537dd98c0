import ChangeOps.Admission.Service
import ChangeOps.Lib.Interaction

/-!
# ChangeOps.Admission — the two stores

`control_api/admission/store.py`: `MemoryStore` runs an operation on a copy of its documents and
keeps the copy; `FirestoreStore` buffers the writes, reads through the buffer, and sends it when the
operation has returned. The database is a map from paths to documents. A transaction of the client
reads it as it was at the start; its sets are applied in order and together, or not at all when the
function raises. Which texts are paths of documents, the client says; the memory store takes any.

An operation is an `Interaction`: it may read and write any paths in any order and look at what it
has read. The transactions of the service are interactions on the memory store.
-/

namespace ChangeOps.Admission

/-- An operation that is given to `transact`. -/
abbrev Operation (ε α : Type) := Interaction String Document ε α

/-- What `transact` comes to: the answers of the `get` calls, the end, and the documents after it. -/
structure Transacted (ε α : Type) where
  answers : List (Option Document)
  outcome : Except ε α
  documents : Dict String Document

/-! ## The store in memory -/

/-- `MemoryTransaction`; values are copies. -/
structure MemoryTransaction where
  documents : Dict String Document

namespace MemoryTransaction

def get (tx : MemoryTransaction) (path : String) : Option Document := tx.documents.get? path

def put (tx : MemoryTransaction) (path : String) (document : Document) : MemoryTransaction :=
  ⟨tx.documents.set path document⟩

def server (ε : Type) : Server String Document ε MemoryTransaction where
  get tx path := .ok (tx.get path)
  put := put

end MemoryTransaction

/-- `MemoryStore.transact`. -/
def MemoryStore.transact {ε α : Type} (documents : MemoryStore) (operation : Operation ε α) :
    Transacted ε α :=
  let course := operation.run (MemoryTransaction.server ε) ⟨documents⟩
  match course.outcome with
  | .ok (result, tx) => ⟨course.answers, .ok result, tx.documents⟩
  | .error e => ⟨course.answers, .error e, documents⟩

/-! ## The store in Firestore -/

/-- What the store asks the client: `client.document(path)` refuses a text that is not the path of a
document. -/
structure FirestoreClient (ε : Type) where
  document : String → Except ε Unit

/-- The client takes the path. -/
def FirestoreClient.IsDocument {ε : Type} (client : FirestoreClient ε) (path : String) : Prop :=
  client.document path = .ok ()

/-- `DocumentSnapshot` of the client: `exists`, and what `to_dict` returns. -/
structure DocumentSnapshot where
  existing : Bool
  toDict : Option Document

/-- `client.document(path).get(transaction=…)`. -/
def documentSnapshot {ε : Type} (client : FirestoreClient ε) (documents : Dict String Document)
    (path : String) : Except ε DocumentSnapshot := do
  client.document path
  return ⟨(documents.get? path).isSome, documents.get? path⟩

/-- `FirestoreTransaction`: the documents that its reads see, and `_writes`. -/
structure FirestoreTransaction where
  documents : Dict String Document
  writes : Dict String Document

namespace FirestoreTransaction

variable {ε : Type} (client : FirestoreClient ε) (corrupt : ε)

/-- `corrupt` is the `RuntimeError` about a document without fields. -/
def get (tx : FirestoreTransaction) (path : String) : Except ε (Option Document) :=
  match tx.writes.get? path with
  | some document => .ok (some document)
  | none => do
      let document ← documentSnapshot client tx.documents path
      if !document.existing then return none
      else match document.toDict with
        | none => .error corrupt
        | some result => return some result

def put (tx : FirestoreTransaction) (path : String) (document : Document) : FirestoreTransaction :=
  { tx with writes := tx.writes.set path document }

/-- The sets that `flush` sends, in the order of the buffer. -/
def flush (tx : FirestoreTransaction) : Except ε (List (String × Document)) :=
  tx.writes.entries.mapM fun entry => do
    client.document entry.1
    return entry

def server : Server String Document ε FirestoreTransaction where
  get := get client corrupt
  put := put

end FirestoreTransaction

/-- `FirestoreStore.transact`: the sets of a function that returns are applied together. -/
def FirestoreStore.transact {ε α : Type} (client : FirestoreClient ε) (corrupt : ε)
    (documents : Dict String Document) (operation : Operation ε α) : Transacted ε α :=
  let course := operation.run (FirestoreTransaction.server client corrupt) ⟨documents, .empty⟩
  match course.outcome with
  | .ok (result, tx) =>
      match tx.flush client with
      | .ok sets => ⟨course.answers, .ok result, documents.setAll sets⟩
      | .error e => ⟨course.answers, .error e, documents⟩
  | .error e => ⟨course.answers, .error e, documents⟩

/-! ## Neither can be told from the other -/

/-- The same document under every path. -/
def SameDocuments (documents documents' : Dict String Document) : Prop :=
  ∀ path, documents.get? path = documents'.get? path

section Agree

variable {ε : Type} {client : FirestoreClient ε} (corrupt : ε)

/-- A document that exists has fields. -/
theorem FirestoreTransaction.get_eq (tx : FirestoreTransaction) {path : String}
    (hpath : client.IsDocument path) :
    tx.get client corrupt path = .ok ((tx.writes.get? path).or (tx.documents.get? path)) := by
  have hdocument : client.document path = .ok () := hpath
  unfold get documentSnapshot
  cases tx.writes.get? path with
  | some document => rfl
  | none =>
    dsimp only
    rw [hdocument]
    cases tx.documents.get? path <;> rfl

/-- Paths that the client takes are sent. -/
theorem FirestoreTransaction.flush_eq {tx : FirestoreTransaction}
    (hpaths : ∀ {path document}, tx.writes.get? path = some document → client.IsDocument path) :
    tx.flush client = .ok tx.writes.entries := by
  have hentries : ∀ entry ∈ tx.writes.entries, client.IsDocument entry.1 :=
    fun entry hmem => hpaths (Dict.get?_of_mem hmem)
  unfold flush
  generalize tx.writes.entries = entries at hentries
  induction entries with
  | nil => rfl
  | cons entry rest ih =>
    have hdocument : client.document entry.1 = .ok () := hentries entry List.mem_cons_self
    rw [List.mapM_cons, ih fun other hmem => hentries other (List.mem_cons_of_mem _ hmem), hdocument]
    rfl

/-- The copy of one side holds what the other side would hold if its buffer were sent now; the client
takes the paths of the buffer. -/
structure Buffered (client : FirestoreClient ε) (start : Dict String Document)
    (memory : MemoryTransaction) (firestore : FirestoreTransaction) : Prop where
  started : firestore.documents = start
  same : SameDocuments memory.documents (start.setAll firestore.writes.entries)
  paths : ∀ {path document}, firestore.writes.get? path = some document → client.IsDocument path

variable {start : Dict String Document} {memory : MemoryTransaction}
  {firestore : FirestoreTransaction}

theorem Buffered.get (h : Buffered client start memory firestore) (path : String) :
    memory.get path = (firestore.writes.get? path).or (firestore.documents.get? path) := by
  rw [MemoryTransaction.get, h.same path, h.started, Dict.get?_setAll_entries]

theorem Buffered.put (h : Buffered client start memory firestore) {path : String}
    (document : Document) (hpath : client.IsDocument path) :
    Buffered client start (memory.put path document) (firestore.put path document) := by
  refine ⟨h.started, fun other => ?_, fun {other stored} hget => ?_⟩
  · have hother := h.same other
    rw [Dict.get?_setAll_entries] at hother ⊢
    show (memory.documents.set path document).get? other =
      ((firestore.writes.set path document).get? other).or (start.get? other)
    rw [Dict.get?_set, Dict.get?_set, hother]
    split_ifs <;> rfl
  · have hset : (firestore.writes.set path document).get? other = some stored := hget
    rw [Dict.get?_set] at hset
    split_ifs at hset with hsame
    · rw [hsame]
      exact hpath
    · exact h.paths hset

theorem server_alike (client : FirestoreClient ε) (start : Dict String Document) :
    (MemoryTransaction.server ε).Alike (FirestoreTransaction.server client corrupt) client.IsDocument
      (Buffered client start) where
  get := by
    intro memory firestore h path hpath
    show Except.ok (memory.get path) = firestore.get client corrupt path
    rw [FirestoreTransaction.get_eq corrupt firestore hpath, h.get path]
  put h _ document hpath := h.put document hpath

/-- **Two stores, one meaning.** On equal documents, and as long as the client takes the paths, both
stores give every `get` of an operation the same value, end in the same result or exception, and are
left with equal documents. -/
theorem transact_agree {α : Type} (client : FirestoreClient ε) (corrupt : ε)
    {memory firestore : Dict String Document} (h : SameDocuments memory firestore)
    (operation : Operation ε α)
    (hpaths : operation.Keeps (MemoryTransaction.server ε) client.IsDocument ⟨memory⟩) :
    let onMemory := MemoryStore.transact memory operation
    let onFirestore := FirestoreStore.transact client corrupt firestore operation
    onMemory.answers = onFirestore.answers ∧ onMemory.outcome = onFirestore.outcome ∧
      SameDocuments onMemory.documents onFirestore.documents := by
  have hstart : Buffered client firestore ⟨memory⟩ ⟨firestore, .empty⟩ := ⟨rfl, h, nofun⟩
  obtain ⟨hanswers, hend⟩ := operation.run_alike (server_alike corrupt client firestore) hpaths hstart
  unfold MemoryStore.transact FirestoreStore.transact
  generalize operation.run (MemoryTransaction.server ε) ⟨memory⟩ = course at hanswers hend ⊢
  generalize operation.run (FirestoreTransaction.server client corrupt) ⟨firestore, .empty⟩ = course'
    at hanswers hend ⊢
  obtain ⟨answers, outcome⟩ := course
  obtain ⟨answers', outcome'⟩ := course'
  cases hend with
  | raised e => exact ⟨hanswers, rfl, h⟩
  | returned result hbuffered =>
    dsimp only
    rw [FirestoreTransaction.flush_eq hbuffered.paths]
    exact ⟨hanswers, rfl, hbuffered.same⟩

end Agree

namespace StoresDemo

/-- The client's own rule: a document has an even number of path elements. -/
def client : FirestoreClient String where
  document path :=
    if path.toList.count '/' % 2 = 1 then .ok ()
    else .error "A document must have an even number of path elements"

def stored : Document := ofFields [("version", .int 1)]

def written : Document := ofFields [("version", .int 2)]

/-- Reads a document, writes it twice with a read between, and reads another path. -/
def operation : Operation String (Option Document × Option Document) :=
  .get "admission_users/a" fun _ =>
    .put "admission_users/a" written (.get "admission_users/a" fun between =>
      .put "admission_users/a" stored (.get "admission_users/b" fun other => .ret (between, other)))

/-- Reads at the path of a collection. -/
def collectionRead : Operation String (Option Document) :=
  .get "admission_users" fun document => .ret document

end StoresDemo

open StoresDemo in
/-- A write is read back before it is sent, and a second write of the path wins. -/
theorem transact_agree_rewritten :
    let documents := Dict.empty.set "admission_users/a" stored
    let onMemory := MemoryStore.transact documents operation
    let onFirestore := FirestoreStore.transact client "corrupt" documents operation
    onMemory.answers = onFirestore.answers ∧ onMemory.outcome = onFirestore.outcome ∧
      SameDocuments onMemory.documents onFirestore.documents := by
  have huser : client.document "admission_users/a" = .ok () := by decide +kernel
  have hother : client.document "admission_users/b" = .ok () := by decide +kernel
  exact transact_agree client "corrupt" (fun _ => rfl) operation
    ⟨huser, fun _ _ => ⟨huser, huser, fun _ _ => ⟨huser, hother, fun _ _ => trivial⟩⟩⟩

open StoresDemo in
/-- The memory store takes the path of a collection for that of a document that is not there; the
client refuses it. -/
theorem not_transact_agree_collection :
    ¬ ∀ (documents : Dict String Document) (operation : Operation String (Option Document)),
      (MemoryStore.transact documents operation).outcome =
        (FirestoreStore.transact client "corrupt" documents operation).outcome := by
  intro h
  have hagree := h .empty collectionRead
  have hmemory : (MemoryStore.transact .empty collectionRead).outcome = .ok none := rfl
  have hrefused : client.document "admission_users" =
      .error "A document must have an even number of path elements" := by decide +kernel
  have hget : FirestoreTransaction.get client "corrupt" ⟨.empty, .empty⟩ "admission_users" =
      .error "A document must have an even number of path elements" := by
    unfold FirestoreTransaction.get documentSnapshot
    rw [hrefused]
    rfl
  rw [hmemory] at hagree
  unfold FirestoreStore.transact collectionRead Interaction.run FirestoreTransaction.server at hagree
  dsimp only at hagree
  rw [hget] at hagree
  cases hagree

/-! ## The transactions of the service -/

/-- An interaction as a transaction. -/
def asTransaction {α : Type} : Operation AdmissionError α → Tx α
  | .ret a => pure a
  | .raise e => Transaction.raise e
  | .get path next => do asTransaction (next (← Transaction.get path))
  | .put path document next => do
      Transaction.put path document
      asTransaction next

theorem asTransaction_apply {α : Type} (operation : Operation AdmissionError α)
    (documents : Dict String Document) (n : Nat) :
    ∃ n', asTransaction operation (fun _ => none) ⟨documents, n⟩ =
      (operation.run (MemoryTransaction.server AdmissionError) ⟨documents⟩).outcome.map
        fun result => (result.1, ⟨result.2.documents, n'⟩) := by
  induction operation generalizing documents n with
  | ret a => exact ⟨n, rfl⟩
  | raise e => exact ⟨n, rfl⟩
  | get path next ih => exact ih (documents.get? path) documents (n + 1)
  | put path document next ih => exact ih (documents.set path document) (n + 1)

/-- What the service's transactions do when no access fails is what the memory store does. -/
theorem transact_asTransaction {α : Type} (operation : Operation AdmissionError α)
    (documents : MemoryStore) :
    (asTransaction operation).transact (fun _ => none) documents =
      ((MemoryStore.transact documents operation).outcome,
        (MemoryStore.transact documents operation).documents) := by
  obtain ⟨n', happly⟩ := asTransaction_apply operation documents 0
  unfold Transaction.transact MemoryStore.transact
  rw [happly]
  generalize operation.run (MemoryTransaction.server AdmissionError) ⟨documents⟩ = course
  obtain ⟨answers, outcome⟩ := course
  cases outcome with
  | error e => rfl
  | ok result => rfl

end ChangeOps.Admission
