import Mathlib.Data.String.Basic
import ChangeOps.Lib.Cursor
import ChangeOps.Admission.Atomicity
import ChangeOps.Admission.Invitations
import ChangeOps.Admission.Refusals

/-!
# ChangeOps.Admission — listings, page by page

A client follows `next_cursor` (`control_api/admission/routes.py`) from the first page of a listing
to the end, while others call the service. `MemoryStore.list` sorts by whole paths and cuts by record
ids; within a collection the two orders are the same (`append_lt_append_iff`), so a page is what
`Cursor.IsPage` says. No call removes a document, so the rest is `Cursor.Reads`.

That a client can go on at all needs the cursors to fit the routes' pattern. Record ids are
identifiers and digests.
-/

namespace ChangeOps.Admission

/-! ## The routes -/

/-- A listing for administrators. -/
inductive Listing where
  | records (kind : String)
  | members (organizationId : Identifier)

def Listing.collection : Listing → String
  | .records kind => "admission_" ++ kind
  | .members organizationId => organizationPath (organizationId.1 ++ "/members")

/-- `Query(pattern=r"^[A-Za-z0-9_-]{0,128}$")`. -/
def isCursor (text : String) : Bool :=
  decide (text.length ≤ 128) && text.toList.all isIdentifierChar

/-- `items[-1]["record_id"] if len(items) == 50 else None`. -/
def nextCursor (items : List Document) : Option Value :=
  if items.length = 50 then items.getLast?.bind fun record => record.get? "record_id" else none

section

variable [Sha256]

/-- The items of a page. -/
def Listing.read (a : Ambient) (identity : Identity) (cursor : String) (store : MemoryStore) :
    Listing → Except AdmissionError (List Document)
  | .records kind => listRecords a identity kind cursor store
  | .members organizationId => listMembers a identity organizationId.1 cursor store

/-- The pages that a client is given until there is no next cursor; any calls may come in between. -/
inductive Reads [Casing] (listing : Listing) : History → String → List (List Document) → Prop where
  | last {history : History} {cursor : String} {page : List Document} (a : Ambient)
      (identity : Identity) (hcursor : isCursor cursor = true)
      (hread : listing.read a identity cursor (after history) = .ok page)
      (hend : nextCursor page = none) : Reads listing history cursor [page]
  | next {history : History} {cursor next : String} {page : List Document}
      {pages : List (List Document)} (a : Ambient) (identity : Identity)
      (hcursor : isCursor cursor = true)
      (hread : listing.read a identity cursor (after history) = .ok page)
      (hnext : nextCursor page = some (.str next)) (more : History)
      (hrest : Reads listing (more ++ history) next pages) :
      Reads listing history cursor (page :: pages)

end

/-- There is a record directly in the collection. -/
def Stored (collection : String) (store : MemoryStore) (id : String) : Prop :=
  '/' ∉ id.toList ∧ (store.get? (collection ++ "/" ++ id)).isSome

/-! ## Paths and record ids -/

theorem append_lt_append_iff (text a b : String) : text ++ a < text ++ b ↔ a < b := by
  have hmono : ∀ {a b : String}, a < b → text ++ a < text ++ b := by
    intro a b h
    rw [String.lt_iff_toList_lt] at h ⊢
    rw [String.toList_append, String.toList_append]
    exact List.append_left_lt h
  refine ⟨fun h => ?_, hmono⟩
  rcases lt_trichotomy a b with hlt | rfl | hgt
  · exact hlt
  · exact absurd h (lt_irrefl _)
  · exact absurd (hmono hgt) h.asymm

theorem recordId_append {collection id : String} (h : '/' ∉ id.toList) :
    recordId collection (collection ++ "/" ++ id) = some id := by
  have hpre : (collection ++ "/").toList.isPrefixOf (collection ++ "/" ++ id).toList = true := by
    rw [List.isPrefixOf_iff_prefix, String.toList_append (s := collection ++ "/")]
    exact List.prefix_append _ _
  have hdrop : (collection ++ "/" ++ id).toList.drop (collection ++ "/").toList.length = id.toList := by
    rw [String.toList_append (s := collection ++ "/"), List.drop_left]
  have hslash : id.toList.contains '/' = false := by simpa using h
  unfold recordId
  dsimp only
  rw [hpre, hdrop, hslash]
  simp

theorem recordId_iff {collection path id : String} :
    recordId collection path = some id ↔ path = collection ++ "/" ++ id ∧ '/' ∉ id.toList := by
  constructor
  · intro h
    refine ⟨recordId_eq_some h, ?_⟩
    unfold recordId at h
    dsimp only at h
    split_ifs at h with hdirect
    rw [Bool.and_eq_true, Bool.not_eq_true'] at hdirect
    rw [Option.some.injEq] at h
    rw [← h, String.toList_ofList]
    simpa using hdirect.2
  · rintro ⟨rfl, h⟩
    exact recordId_append h

/-! ## One page -/

/-- The record ids of a collection, in the order of the paths. -/
def recordIds (collection : String) (store : MemoryStore) : List String :=
  (store.entries.mergeSort fun x y => decide (x.1 ≤ y.1)).filterMap fun entry =>
    recordId collection entry.1

/-- The entries in the order of their paths, no two of which are the same. -/
theorem sorted_entries (store : MemoryStore) :
    (store.entries.mergeSort fun x y => decide (x.1 ≤ y.1)).Pairwise fun x y => x.1 < y.1 := by
  have hsorted : (store.entries.mergeSort fun x y => decide (x.1 ≤ y.1)).Pairwise
      fun x y => decide (x.1 ≤ y.1) = true :=
    List.pairwise_mergeSort (by simpa using fun _ _ _ => le_trans)
      (by simpa using fun _ _ => le_total _ _) _
  have hperm := List.mergeSort_perm store.entries fun x y => decide (x.1 ≤ y.1)
  have hnodup : ((store.entries.mergeSort fun x y => decide (x.1 ≤ y.1)).map Prod.fst).Nodup :=
    (hperm.map Prod.fst).nodup_iff.mpr store.nodup
  rw [List.Nodup, List.pairwise_map] at hnodup
  exact hsorted.imp₂ (fun x y hle hne => lt_of_le_of_ne (of_decide_eq_true hle) hne) hnodup

theorem recordIds_sorted (collection : String) (store : MemoryStore) :
    (recordIds collection store).Pairwise (· < ·) := by
  unfold recordIds
  rw [List.pairwise_filterMap]
  refine (sorted_entries store).imp fun {x y} hlt id hid id' hid' => ?_
  rw [(recordId_iff.mp hid).1, (recordId_iff.mp hid').1, append_lt_append_iff] at hlt
  exact hlt

theorem mem_recordIds {collection : String} {store : MemoryStore} {id : String} :
    id ∈ recordIds collection store ↔ Stored collection store id := by
  unfold recordIds Stored
  rw [List.mem_filterMap]
  constructor
  · rintro ⟨⟨path, document⟩, hmem, hid⟩
    obtain ⟨hpath, hslash⟩ := recordId_iff.mp hid
    have hget := Dict.get?_of_mem (List.mem_mergeSort.mp hmem)
    dsimp only at hpath
    rw [hpath] at hget
    exact ⟨hslash, by rw [hget]; rfl⟩
  · rintro ⟨hslash, hstored⟩
    obtain ⟨document, hget⟩ := Option.isSome_iff_exists.mp hstored
    exact ⟨_, List.mem_mergeSort.mpr (Dict.mem_of_get? hget), recordId_append hslash⟩

/-- The documents of a page carry the first record ids after the cursor. -/
theorem recordIds_list (store : MemoryStore) (collection cursor : String) (limit : Nat) :
    (store.list collection cursor limit).map (·.get? "record_id") =
      (((recordIds collection store).filter fun id => decide (cursor < id)).take limit).map
        fun id => some (.str id) := by
  unfold MemoryStore.list recordIds
  dsimp only
  rw [List.map_take, List.map_take, List.map_filterMap, List.filter_filterMap, List.map_filterMap]
  congr 1
  refine List.filterMap_congr fun entry _ => ?_
  cases recordId collection entry.1 with
  | none => rfl
  | some id =>
    dsimp only
    rw [Option.filter_some]
    by_cases hafter : cursor < id
    · rw [if_pos hafter, if_pos (decide_eq_true hafter)]
      exact congrArg some (Dict.get?_set_self _ _ _)
    · rw [if_neg hafter, if_neg (by rw [decide_eq_false hafter]; decide)]
      rfl

/-- A page without its documents. -/
theorem isPage_recordIds (store : MemoryStore) (collection cursor : String) (limit : Nat) :
    Cursor.IsPage limit {id | Stored collection store id} cursor
      (((recordIds collection store).filter fun id => decide (cursor < id)).take limit) := by
  refine Cursor.isPage_take ((recordIds_sorted collection store).filter _) fun id => ?_
  rw [List.mem_filter, mem_recordIds, decide_eq_true_eq]
  rfl

section

variable [Sha256]

omit [Sha256] in
/-- The listing of invitations keeps their record ids. -/
theorem recordId_invitationRecord {now : Time} {record shown : Document}
    (h : invitationRecord now record = .ok shown) :
    shown.get? "record_id" = record.get? "record_id" := by
  obtain ⟨invitation, -, h⟩ := Fallible.bind_eq_ok_iff.mp h
  obtain ⟨id, hid, h⟩ := Fallible.bind_eq_ok_iff.mp h
  cases h
  unfold item at hid
  cases hget : record.get? "record_id" with
  | none =>
    rw [hget] at hid
    cases hid
  | some value =>
    rw [hget] at hid
    cases hid
    rw [Dict.get?_set_ne _ _ (by decide), Dict.get?_set_self]

omit [Sha256] in
theorem recordId_mapM {now : Time} {records shown : List Document}
    (h : records.mapM (invitationRecord now) = .ok shown) :
    shown.map (·.get? "record_id") = records.map (·.get? "record_id") := by
  induction records generalizing shown with
  | nil =>
    cases h
    rfl
  | cons record rest ih =>
    rw [List.mapM_cons] at h
    obtain ⟨first, hfirst, h⟩ := Fallible.bind_eq_ok_iff.mp h
    obtain ⟨others, hothers, h⟩ := Fallible.bind_eq_ok_iff.mp h
    cases h
    rw [List.map_cons, List.map_cons, recordId_invitationRecord hfirst, ih hothers]

omit [Sha256] in
theorem listing_eq_ok {a : Ambient} {store : MemoryStore} {collection cursor : String}
    {records : List Document} (h : listing a store collection cursor = .ok records) :
    records = store.list collection cursor 50 := by
  unfold listing at h
  cases hfault : a.viewFaults 0 with
  | some e =>
    rw [hfault] at h
    cases h
  | none =>
    rw [hfault] at h
    cases h
    rfl

/-- What is read is a page of the collection. -/
theorem Listing.read_ids {listing : Listing} {a : Ambient} {identity : Identity} {cursor : String}
    {store : MemoryStore} {page : List Document} (h : listing.read a identity cursor store = .ok page) :
    page.map (·.get? "record_id") =
      (((recordIds listing.collection store).filter fun id => decide (cursor < id)).take 50).map
        fun id => some (.str id) := by
  rw [← recordIds_list]
  cases listing with
  | members organizationId =>
    obtain ⟨_, -, h⟩ := Fallible.bind_eq_ok_iff.mp h
    rw [listing_eq_ok h]
    rfl
  | records kind =>
    change listRecords a identity kind cursor store = .ok page at h
    unfold listRecords at h
    split_ifs at h with hkind hinvitations
    · obtain ⟨_, -, h⟩ := Fallible.bind_eq_ok_iff.mp h
      obtain ⟨records, hrecords, h⟩ := Fallible.bind_eq_ok_iff.mp h
      rw [recordId_mapM h, listing_eq_ok hrecords]
      rfl
    · obtain ⟨_, -, h⟩ := Fallible.bind_eq_ok_iff.mp h
      obtain ⟨records, hrecords, h⟩ := Fallible.bind_eq_ok_iff.mp h
      cases h
      rw [listing_eq_ok hrecords]
      rfl

/-! ## The documents stay -/

variable [Casing]

theorem Effect.document_stays {a : Ambient} {R R' : Registry} {call : Call} (h : Effect a R call R')
    (site : Site) (hsome : (R.document site).isSome) : (R'.document site).isSome := by
  cases site with
  | bootstrap =>
    rcases h.bootstrap_cases with hsame | ⟨subject, -, -, hwritten⟩
    · simpa [Registry.document, hsame] using hsome
    · simp [Registry.document, hwritten]
  | user key =>
    rcases h.user_cases key with hsame | ⟨_, -, -, -, -, hwritten⟩ | ⟨_, _, _, _, -, -, hwritten⟩ |
      ⟨_, _, _, _, -, -, -, -, -, hwritten⟩ | ⟨_, _, _, _, -, -, -, -, -, -, hwritten⟩
    · simpa [Registry.document, hsame] using hsome
    all_goals simp [Registry.document, hwritten]
  | organization organizationId =>
    rcases h.organization_cases organizationId with hsame | ⟨_, _, _, _, -, -, -, hwritten⟩ |
      ⟨_, _, _, _, -, -, -, -, hwritten⟩
    · simpa [Registry.document, hsame] using hsome
    all_goals simp [Registry.document, hwritten]
  | member organizationId key =>
    rcases h.member_cases organizationId key with hsame | ⟨_, _, _, -, -, -, -, -, -, hwritten⟩ |
      ⟨_, _, _, _, -, -, -, -, hwritten⟩ | ⟨_, _, _, _, -, -, -, -, -, hwritten⟩
    · simpa [Registry.document, hsame] using hsome
    all_goals simp [Registry.document, hwritten]
  | invitation hash =>
    rcases h.invitation_cases hash with hsame | ⟨_, _, _, _, -, -, -, hwritten⟩ |
      ⟨_, _, _, -, -, -, -, hwritten⟩ | ⟨_, _, _, _, -, -, -, -, -, -, hwritten⟩
    · simpa [Registry.document, hsame] using hsome
    all_goals simp [Registry.document, hwritten]
  | audit eventId =>
    rw [Registry.document, h.audit_eq]
    exact hsome

/-- No call removes a document. -/
theorem get?_stays (event : Event) (history : History) {path : String}
    (hsome : ((after history).get? path).isSome) : ((after (event :: history)).get? path).isSome := by
  rcases after_cons event history with ⟨hsame, -⟩ | ⟨R', heffect, ⟨hshaped, audit, -, heq⟩, -⟩
  · rw [hsame]
    exact hsome
  · obtain ⟨document, hget⟩ := Option.isSome_iff_exists.mp hsome
    obtain ⟨site, rfl, -⟩ := shaped_after history _ _ hget
    rw [(shaped_after history).get?_path] at hsome
    have hstays := heffect.document_stays site hsome
    rw [hshaped.get?_path, heq]
    cases site with
    | audit eventId =>
      rw [Registry.document, Registry.putAudit_audit, Function.update_apply]
      split_ifs
      · rfl
      · exact hstays
    | bootstrap | user | organization | member | invitation => exact hstays

theorem stored_stays {collection id : String} {more history : History}
    (h : Stored collection (after history) id) : Stored collection (after (more ++ history)) id := by
  induction more with
  | nil => exact h
  | cons event more ih => exact ⟨h.1, get?_stays event (more ++ history) ih.2⟩

/-! ## Record ids fit the pattern -/

omit [Casing] in
/-- The digests are hexadecimal texts of 64 digits. -/
def HexDigests : Prop :=
  ∀ text, (Sha256.hexdigest text).length = 64 ∧
    (Sha256.hexdigest text).toList.all isHexDigit = true

/-- A cursor that is not the one of the first page. -/
def IsRecordId (id : String) : Prop := isCursor id = true ∧ id ≠ ""

omit [Sha256] [Casing] in
theorem isRecordId_identifier (id : Identifier) : IsRecordId id.1 := by
  have hall := isIdentifier_all id.2
  have hid := id.2
  unfold isIdentifier at hid
  split at hid
  · cases hid
  next first rest htext =>
    simp only [Bool.and_eq_true, decide_eq_true_eq] at hid
    have hlength : id.1.length = rest.length + 1 := by
      rw [← String.length_toList, htext, List.length_cons]
    constructor
    · rw [isCursor, Bool.and_eq_true, decide_eq_true_eq]
      exact ⟨by omega, hall⟩
    · intro hempty
      rw [hempty] at hlength
      simp at hlength

omit [Casing] in
theorem isRecordId_hexdigest (hhex : HexDigests) (text : String) :
    IsRecordId (Sha256.hexdigest text) := by
  obtain ⟨hlength, hall⟩ := hhex text
  constructor
  · rw [isCursor, Bool.and_eq_true, decide_eq_true_eq]
    refine ⟨by omega, List.all_eq_true.mpr fun c hc => ?_⟩
    exact isIdentifierChar_of_isHexDigit (List.all_eq_true.mp hall c hc)
  · intro hempty
    rw [hempty] at hlength
    simp at hlength

/-- The collection is one that can be listed. -/
def Listing.Allowed : Listing → Prop
  | .records kind => ["organizations", "users", "audit", "invitations"].contains kind = true
  | .members _ => True

omit [Sha256] [Casing] in
theorem Site.letter_of_path {site : Site} (label : String) {text : String} {c : Char}
    (hlabel : (label.toList.drop 10).head? = some c) (hpath : label ++ text = site.path) :
    site.letter = c := by
  have hhead := site.path_letter
  rw [← hpath, head?_drop_append label c hlabel, Option.some.injEq] at hhead
  exact hhead.symm

omit [Sha256] [Casing] in
theorem collection_members (organizationId : Identifier) (id : String) :
    (Listing.members organizationId).collection ++ "/" ++ id =
      "admission_organizations/" ++ (organizationId.1 ++ "/members/" ++ id) := by
  have hlabel : "/members/" = "/members" ++ "/" := by
    apply String.toList_injective
    rw [String.toList_append]
    decide
  show "admission_organizations/" ++ (organizationId.1 ++ "/members") ++ "/" ++ id = _
  generalize "/members/" = members at hlabel ⊢
  subst hlabel
  simp only [String.append_assoc]

/-- The last part of a path in one of the collections. -/
theorem isRecordId_of_stored (hhex : HexDigests) {listing : Listing} (hallowed : listing.Allowed)
    {history : History} {id : String} (h : Stored listing.collection (after history) id) :
    IsRecordId id := by
  obtain ⟨hslash, hsome⟩ := h
  obtain ⟨document, hget⟩ := Option.isSome_iff_exists.mp hsome
  obtain ⟨site, hpath, hholds⟩ := shaped_after history _ _ hget
  cases listing with
  | members organizationId =>
    rw [collection_members] at hpath
    have hletter := Site.letter_of_path "admission_organizations/" (c := 'o') (by decide) hpath
    cases site <;> simp only [Site.letter, Char.reduceEq] at hletter
    · case organization organizationId' =>
      exact (identifier_ne_members _ _ _ ((String.append_right_inj _).mp hpath).symm).elim
    · case member organizationId' key =>
      obtain ⟨-, rfl⟩ := members_inj ((String.append_right_inj _).mp hpath)
      obtain ⟨member, -, -, rfl⟩ := hholds
      exact isRecordId_hexdigest hhex _
  | records kind =>
    rw [Listing.collection] at hpath
    simp only [Listing.Allowed, List.contains_eq_mem, decide_eq_true_eq, List.mem_cons,
      List.not_mem_nil, or_false] at hallowed
    rcases hallowed with rfl | rfl | rfl | rfl
    · -- the nested paths of members are not in the collection of organizations
      have hletter := Site.letter_of_path "admission_organizations/" (c := 'o') (by decide) hpath
      cases site <;> simp only [Site.letter, Char.reduceEq] at hletter
      · case organization organizationId =>
        rw [(String.append_right_inj "admission_organizations/").mp hpath]
        exact isRecordId_identifier organizationId
      · case member organizationId key =>
        rw [(String.append_right_inj "admission_organizations/").mp hpath] at hslash
        exact absurd (slash_mem_members _ _) hslash
    · have hletter := Site.letter_of_path "admission_users/" (c := 'u') (by decide) hpath
      cases site <;> simp only [Site.letter, Char.reduceEq] at hletter
      case user key =>
        rw [(String.append_right_inj "admission_users/").mp hpath]
        obtain ⟨user, -, subject, rfl, -⟩ := hholds
        exact isRecordId_hexdigest hhex subject
    · have hletter := Site.letter_of_path "admission_audit/" (c := 'a') (by decide) hpath
      cases site <;> simp only [Site.letter, Char.reduceEq] at hletter
      case audit eventId =>
        rw [(String.append_right_inj "admission_audit/").mp hpath]
        exact isRecordId_identifier eventId
    · have hletter :=
        Site.letter_of_path "admission_invitations/" (c := 'i') (by decide) hpath
      cases site <;> simp only [Site.letter, Char.reduceEq] at hletter
      case invitation hash =>
        rw [(String.append_right_inj "admission_invitations/").mp hpath]
        obtain ⟨invitation, rfl⟩ := hholds
        -- the key of an invitation is the digest of its token
        have hregistry : (registry (after history)).invitation hash = some invitation := by
          exact readAs_of_get? (.invitation hash) (hpath ▸ hget) invitation.modelValidate_modelDump
        obtain ⟨event, -, hevent⟩ := List.mem_filterMap.mp (tokenHash_mem hregistry)
        unfold Event.tokenHash? at hevent
        split at hevent
        · cases hevent
          exact isRecordId_hexdigest hhex _
        · cases hevent

/-! ## A run of pages -/

omit [Casing] in
theorem Listing.read_allowed {listing : Listing} {a : Ambient} {identity : Identity} {cursor : String}
    {store : MemoryStore} {page : List Document} (h : listing.read a identity cursor store = .ok page) :
    listing.Allowed := by
  cases listing with
  | members organizationId => trivial
  | records kind =>
    change listRecords a identity kind cursor store = .ok page at h
    unfold listRecords at h
    split_ifs at h with hkind
    · exact hkind
    · exact hkind

omit [Sha256] [Casing] in
/-- The cursor after a full page is its last record id, and there is none after another page. -/
theorem nextCursor_of_ids {page : List Document} {ids : List String}
    (h : page.map (·.get? "record_id") = ids.map fun id => some (.str id)) :
    nextCursor page = if ids.length = 50 then ids.getLast?.map .str else none := by
  have hlength : page.length = ids.length := by
    have heq := congrArg List.length h
    rwa [List.length_map, List.length_map] at heq
  have hlast := congrArg List.getLast? h
  rw [List.getLast?_map, List.getLast?_map] at hlast
  unfold nextCursor
  rw [hlength]
  split_ifs
  · cases hpage : page.getLast? with
    | none =>
      rw [hpage, Option.map_none] at hlast
      rw [Option.map_eq_none_iff.mp hlast.symm]
      rfl
    | some record =>
      rw [hpage, Option.map_some] at hlast
      obtain ⟨id, hid, heq⟩ := Option.map_eq_some_iff.mp hlast.symm
      rw [hid, Option.bind_some, Option.map_some]
      exact heq.symm
  · rfl

/-- A page, as its record ids. -/
theorem Listing.read_isPage {listing : Listing} {a : Ambient} {identity : Identity} {cursor : String}
    {history : History} {page : List Document}
    (h : listing.read a identity cursor (after history) = .ok page) :
    ∃ ids : List String, page.map (·.get? "record_id") = ids.map (fun id => some (.str id)) ∧
      Cursor.IsPage 50 {id | Stored listing.collection (after history) id} cursor ids :=
  ⟨_, Listing.read_ids h, isPage_recordIds _ _ _ _⟩

/-- What a run gives, as record ids. -/
theorem Reads.ids {listing : Listing} {history : History} {cursor : String}
    {pages : List (List Document)} (h : Reads listing history cursor pages) :
    ∃ ids : List (List String),
      pages.map (·.map (·.get? "record_id")) = ids.map (·.map fun id => some (.str id)) ∧
        Cursor.Reads 50 {id | Stored listing.collection (after history) id} cursor ids := by
  induction h with
  | last a identity hcursor hread hend =>
    obtain ⟨ids, hids, hpage⟩ := Listing.read_isPage hread
    refine ⟨[ids], by rw [List.map_singleton, List.map_singleton, hids], .last hpage ?_⟩
    intro hfull
    rw [nextCursor_of_ids hids, if_pos hfull, Option.map_eq_none_iff, List.getLast?_eq_none_iff] at hend
    rw [hend] at hfull
    cases hfull
  | next a identity hcursor hread hnext more hrest ih =>
    obtain ⟨ids, hids, hpage⟩ := Listing.read_isPage hread
    obtain ⟨rest, hrests, hreads⟩ := ih
    rw [nextCursor_of_ids hids] at hnext
    split_ifs at hnext
    obtain ⟨last, hlast, heq⟩ := Option.map_eq_some_iff.mp hnext
    cases heq
    refine ⟨ids :: rest, by rw [List.map_cons, List.map_cons, hids, hrests], ?_⟩
    exact .next hpage hlast (fun id hid => stored_stays hid) hreads

/-- Every page of a run but the last one is full, and the last one is not. -/
theorem Reads.lengths {listing : Listing} {history : History} {cursor : String}
    {pages : List (List Document)} (h : Reads listing history cursor pages) :
    ∃ full last, pages = full ++ [last] ∧ (∀ page ∈ full, page.length = 50) ∧ last.length < 50 := by
  induction h with
  | @last history cursor page a identity hcursor hread hend =>
    obtain ⟨ids, hids, hpage⟩ := Listing.read_isPage hread
    have hlength := congrArg List.length hids
    rw [List.length_map, List.length_map] at hlength
    refine ⟨[], page, rfl, fun _ h => absurd h List.not_mem_nil, ?_⟩
    have hle := hpage.length_le
    have hne : ids.length ≠ 50 := by
      intro hfull
      rw [nextCursor_of_ids hids, if_pos hfull, Option.map_eq_none_iff, List.getLast?_eq_none_iff] at hend
      rw [hend] at hfull
      cases hfull
    omega
  | @next history cursor next page pages a identity hcursor hread hnext more hrest ih =>
    obtain ⟨full, last, rfl, hfull, hlast⟩ := ih
    refine ⟨page :: full, last, rfl, ?_, hlast⟩
    intro other hother
    rcases List.mem_cons.mp hother with rfl | hmem
    · unfold nextCursor at hnext
      split_ifs at hnext with hlength
      exact hlength
    · exact hfull other hmem

/-- The route takes every cursor that it has given. -/
theorem Reads.cursors (hhex : HexDigests) {listing : Listing} {history : History} {cursor : String}
    {pages : List (List Document)} (h : Reads listing history cursor pages) :
    ∀ page ∈ pages, ∀ next, nextCursor page = some next →
      ∃ id, next = .str id ∧ isCursor id = true := by
  have hone : ∀ {a identity cursor history page}, listing.read a identity cursor (after history) = .ok page →
      ∀ next, nextCursor page = some next → ∃ id, next = .str id ∧ isCursor id = true := by
    intro a identity cursor history page hread next hnext
    obtain ⟨ids, hids, hpage⟩ := Listing.read_isPage hread
    rw [nextCursor_of_ids hids] at hnext
    split_ifs at hnext
    obtain ⟨id, hlast, rfl⟩ := Option.map_eq_some_iff.mp hnext
    have hstored := (hpage.sound id (List.mem_of_getLast? hlast)).1
    exact ⟨id, rfl, (isRecordId_of_stored hhex (Listing.read_allowed hread) hstored).1⟩
  induction h with
  | last a identity hcursor hread hend =>
    intro page hmem
    rw [List.mem_singleton.mp hmem]
    exact hone hread
  | next a identity hcursor hread hnext more hrest ih =>
    intro page hmem
    rcases List.mem_cons.mp hmem with rfl | hmem
    · exact hone hread
    · exact ih page hmem

/-- Only direct children of the collection are given. -/
theorem Reads.stored {listing : Listing} {history : History} {cursor : String}
    {pages : List (List Document)} (h : Reads listing history cursor pages) :
    ∀ page ∈ pages, ∀ record ∈ page, ∃ id more, record.get? "record_id" = some (.str id) ∧
      Stored listing.collection (after (more ++ history)) id := by
  have hone : ∀ {a identity cursor history page}, listing.read a identity cursor (after history) = .ok page →
      ∀ record ∈ page, ∃ id, record.get? "record_id" = some (.str id) ∧
        Stored listing.collection (after history) id := by
    intro a identity cursor history page hread record hrecord
    obtain ⟨ids, hids, hpage⟩ := Listing.read_isPage hread
    have hmem := List.mem_map_of_mem (f := (·.get? "record_id")) hrecord
    rw [hids] at hmem
    obtain ⟨id, hid, heq⟩ := List.mem_map.mp hmem
    exact ⟨id, heq.symm, (hpage.sound id hid).1⟩
  induction h with
  | last a identity hcursor hread hend =>
    intro page hmem record hrecord
    rw [List.mem_singleton.mp hmem] at hrecord
    obtain ⟨id, hid, hstored⟩ := hone hread record hrecord
    exact ⟨id, [], hid, hstored⟩
  | next a identity hcursor hread hnext more hrest ih =>
    intro page hmem record hrecord
    rcases List.mem_cons.mp hmem with rfl | hmem
    · obtain ⟨id, hid, hstored⟩ := hone hread record hrecord
      exact ⟨id, [], hid, hstored⟩
    · obtain ⟨id, more', hid, hstored⟩ := ih page hmem record hrecord
      refine ⟨id, more' ++ more, hid, ?_⟩
      rw [List.append_assoc]
      exact hstored

/-- **Following `next_cursor`.** With any calls between the pages, the record ids come in ascending
order, those that were there at the first page exactly once, and only those of the collection. Every
page but the last has 50 records, and the route takes the cursors. -/
theorem Reads.pages_complete (hhex : HexDigests) {listing : Listing} {history : History}
    {pages : List (List Document)} (h : Reads listing history "" pages) :
    ∃ ids : List (List String),
      pages.map (·.map (·.get? "record_id")) = ids.map (·.map fun id => some (.str id)) ∧
      ids.flatten.Pairwise (· < ·) ∧
      (∀ id, Stored listing.collection (after history) id → ids.flatten.count id = 1) ∧
      (∀ page ∈ pages, ∀ record ∈ page, ∃ id more, record.get? "record_id" = some (.str id) ∧
        Stored listing.collection (after (more ++ history)) id) ∧
      (∃ full last, pages = full ++ [last] ∧ (∀ page ∈ full, page.length = 50) ∧ last.length < 50) ∧
      ∀ page ∈ pages, ∀ next, nextCursor page = some next →
        ∃ id, next = .str id ∧ isCursor id = true := by
  obtain ⟨ids, hids, hreads⟩ := h.ids
  have hsorted := hreads.sorted
  refine ⟨ids, hids, hsorted, ?_, h.stored, h.lengths, h.cursors hhex⟩
  intro id hstored
  have hallowed : listing.Allowed := by
    cases h with
    | last a identity hcursor hread hend => exact Listing.read_allowed hread
    | next a identity hcursor hread hnext more hrest => exact Listing.read_allowed hread
  have hid := (isRecordId_of_stored hhex hallowed hstored).2
  -- the cursor of the first page is before every record id
  have hfirst : "" < id := by
    rw [String.lt_iff_toList_lt]
    cases htext : id.toList with
    | nil => exact absurd (String.toList_injective htext) hid
    | cons c rest => exact List.nil_lt_cons c rest
  exact List.count_eq_one_of_mem (hsorted.imp fun hlt => hlt.ne) (hreads.complete hstored hfirst)

end

/-! ### A page of users -/

namespace Reader

/-- SHA-256 on the texts of the example, and some digest on the others. -/
def digest (text : String) : String :=
  if text = "owner" ∨ text = "alice" ∨ text = Demo.token then Demo.hexdigest text
  else String.ofList (List.replicate 64 '0')

local instance : Sha256 := ⟨digest⟩

local instance : Casing := Demo.casing

theorem hexDigests_digest : HexDigests := by
  intro text
  show (digest text).length = 64 ∧ (digest text).toList.all isHexDigit = true
  unfold digest
  split_ifs with h
  · rcases h with rfl | rfl | rfl <;> decide +kernel
  · decide +kernel

theorem reads_users : ∃ page, Reads (.records "users") Demo.history "" [page] := by
  have hrun : Query.run (Demo.ambient '4' (by decide)) (after Demo.history)
      (.listRecords Demo.owner "users" "") = .ok () := by decide +kernel
  cases hread : listRecords (Demo.ambient '4' (by decide)) Demo.owner "users" ""
      (after Demo.history) with
  | error e =>
    rw [Query.run, hread] at hrun
    cases hrun
  | ok page =>
    have hread : (Listing.records "users").read (Demo.ambient '4' (by decide)) Demo.owner ""
        (after Demo.history) = .ok page := hread
    refine ⟨page, .last _ _ (by decide) hread ?_⟩
    -- there are not so many documents
    have hfew : page.length ≤ (after Demo.history).entries.length := by
      have hlength := congrArg List.length (Listing.read_ids hread)
      rw [List.length_map, List.length_map] at hlength
      rw [hlength]
      calc _ ≤ _ := List.length_take_le' _ _
        _ ≤ _ := List.length_filter_le _ _
        _ ≤ _ := List.length_filterMap_le _ _
        _ = _ := List.length_mergeSort _
    have hentries : (after Demo.history).entries.length < 50 := by decide +kernel
    rw [nextCursor, if_neg (by omega)]

end Reader

section

local instance : Sha256 := ⟨Reader.digest⟩

local instance : Casing := Demo.casing

theorem Reads.pages_complete_users : ∃ pages, Reads (.records "users") Demo.history "" pages ∧
    ∃ ids : List (List String),
      pages.map (·.map (·.get? "record_id")) = ids.map (·.map fun id => some (.str id)) ∧
      ids.flatten.count (Demo.hexdigest "alice") = 1 := by
  obtain ⟨page, hreads⟩ := Reader.reads_users
  obtain ⟨ids, hids, -, hcount, -⟩ := Reads.pages_complete Reader.hexDigests_digest hreads
  exact ⟨[page], hreads, ids, hids, hcount _ ⟨by decide +kernel, by decide +kernel⟩⟩

end

end ChangeOps.Admission
