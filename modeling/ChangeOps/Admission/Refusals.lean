import ChangeOps.Admission.History
import ChangeOps.Lib.Fallible

/-!
# ChangeOps.Admission — what a call may raise

On a shaped store every document validates, so an operation raises its own `ControlApiError` or what
an access of the store fails with. Two constructions of a model from new values are not guarded by a
check of the operation: `redeem` appends an organization to a list that holds at most 50, and
`invite` lowers an address, which may lengthen it.
-/

namespace ChangeOps.Admission

open Transaction (get put raise ofExcept Takes Completes Stops RaisesOnly firstFault)

/-- A `ControlApiError`. -/
def AdmissionError.IsControlApi (e : AdmissionError) : Prop :=
  ∃ code message statusCode, e = .controlApi code message statusCode

theorem isControlApi_denied : denied.IsControlApi := ⟨_, _, _, rfl⟩

theorem isControlApi_alreadyBootstrapped : alreadyBootstrapped.IsControlApi := ⟨_, _, _, rfl⟩

theorem isControlApi_versionConflict : versionConflict.IsControlApi := ⟨_, _, _, rfl⟩

/-- A `ControlApiError`, or what an access of the store failed with. -/
def AdmissionError.Allowed (a : Ambient) (e : AdmissionError) : Prop :=
  e.IsControlApi ∨ (∃ n, a.faults n = some e) ∨ ∃ n, a.viewFaults n = some e

/-- A call succeeds, or raises one of these. -/
def Proper {α : Type} (a : Ambient) (r : Except AdmissionError α) : Prop :=
  Fallible.Raises (AdmissionError.Allowed a) r

/-- The store fails with exceptions of its own. -/
def StorageFaults (a : Ambient) : Prop :=
  ∀ n e, a.faults n = some e ∨ a.viewFaults n = some e → ∃ message, e = .storage message

/-- What the routes check of the arguments beyond their types. -/
def Call.RouteValidated : Call → Prop
  | .createOrganization _ name =>
    2 ≤ (stripWhitespace name).length ∧ (stripWhitespace name).length ≤ 120
  | _ => True

section Refusals

variable [Sha256] [Casing]

/-- The record that the call constructs is not valid: the caller of a `redeem` that passes its checks
has joined 50 organizations, or an `invite` is to last longer than the datetimes do or its lowered
address is no address. -/
def Call.Overflows (a : Ambient) (R : Registry) : Call → Prop
  | .redeem identity token => ∃ invitation, R.invitation (Sha256.hexdigest token) = some invitation ∧
      Checked R a identity invitation ∧ 50 ≤ (R.userOf identity.subject).organizationIds.length ∧
      firstFault a.faults 0 5 = none
  | .invite _ request => datetimeEnd ≤ a.now + invitationLifetime ∨
    isEmail (stripWhitespace (Casing.lower request.email.1)) = false
  | _ => False

end Refusals

/-! ## Proper results -/

section Proper

variable {α : Type} {a : Ambient}

theorem Proper.denied : Proper a (.error denied : Except AdmissionError α) :=
  Fallible.raises_error (.inl isControlApi_denied)

/-- A transaction of the call. -/
theorem Proper.transact {p : Tx α} {store : MemoryStore}
    (h : p.RaisesOnly AdmissionError.IsControlApi store) : Proper a (p.transact a.faults store).1 := by
  intro e hraise
  rcases h.transact hraise with h | h
  · exact .inl h
  · exact .inr (.inl h)

/-- Neither a `ControlApiError` nor what the store fails with. -/
theorem not_proper_error {e : AdmissionError} (hfaults : StorageFaults a) (hown : ¬ e.IsControlApi)
    (hstorage : ∀ message, e ≠ .storage message) :
    ¬ Proper a (.error e : Except AdmissionError α) := by
  intro h
  rcases h _ rfl with hcontrol | ⟨n, hfault⟩ | ⟨n, hfault⟩
  · exact hown hcontrol
  · obtain ⟨message, heq⟩ := hfaults n _ (.inl hfault)
    exact hstorage message heq
  · obtain ⟨message, heq⟩ := hfaults n _ (.inr hfault)
    exact hstorage message heq

theorem not_proper_validation (hfaults : StorageFaults a) (message : String) :
    ¬ Proper a (.error (.validation message) : Except AdmissionError α) :=
  not_proper_error hfaults (fun ⟨_, _, _, h⟩ => by cases h) fun _ h => by cases h

theorem not_proper_overflow (hfaults : StorageFaults a) :
    ¬ Proper a (.error .overflow : Except AdmissionError α) :=
  not_proper_error hfaults (fun ⟨_, _, _, h⟩ => by cases h) fun _ h => by cases h

end Proper

/-! ## The transactions -/

section Transactions

variable {α : Type} {store : MemoryStore}

/-- A check of the operation, and what follows it. -/
theorem raiseIf_raisesOnly {refused : Bool} {e : AdmissionError} {f : Unit → Tx α}
    (he : e.IsControlApi)
    (hf : refused = false → (f ()).RaisesOnly AdmissionError.IsControlApi store) :
    (raiseIf refused e >>= f).RaisesOnly AdmissionError.IsControlApi store := by
  cases refused with
  | true => exact RaisesOnly.of_stops (Stops.bind_left (Stops.raise e) f) he
  | false => exact RaisesOnly.bind (Takes.pure ()) (hf rfl)

theorem audit_takes (a : Ambient) (actor action resourceId : String) :
    (audit a actor action resourceId).Takes store 1 () (store.set
      (auditPath (auditEvent a actor action resourceId).eventId.1)
      (auditEvent a actor action resourceId).modelDump) :=
  Takes.put _ _

/-- The last writes of an operation. -/
theorem put_audit_raisesOnly (a : Ambient) (path : String) (document : Document)
    (actor action resourceId : String) :
    (do put path document; audit a actor action resourceId : Tx Unit).RaisesOnly
      AdmissionError.IsControlApi store :=
  RaisesOnly.bind (Takes.put _ _) (RaisesOnly.of_takes (audit_takes a _ _ _))

/-- An organization with a name that the route accepts is valid. -/
theorem Organization.modelValidate_new (id : Identifier) {name : String}
    (h : 2 ≤ (stripWhitespace name).length ∧ (stripWhitespace name).length ≤ 120) :
    Organization.modelValidate (ofFields [("organization_id", .str id.1), ("name", .str name)]) =
      .ok ⟨id, Text.strip name, true, 1, h, le_rfl⟩ := by
  have hid : identifier (ofFields [("organization_id", .str id.1), ("name", .str name)])
      "organization_id" = .ok id := by
    simp [identifier, text, ofFields, Dict.get?_set, Text.strip, stripWhitespace_identifier,
      Identifier.validate_self]
  have hname : text (ofFields [("organization_id", .str id.1), ("name", .str name)]) "name" =
      .ok (Text.strip name) := by
    simp [text, ofFields]
  have hextra : forbidExtra (ofFields [("organization_id", .str id.1), ("name", .str name)])
      ["organization_id", "name", "active", "version"] = .ok () := by
    simp [forbidExtra, ofFields, Dict.set, Dict.put, Dict.empty]
  have hactive : flag (ofFields [("organization_id", .str id.1), ("name", .str name)]) "active" true =
      .ok true := by
    simp [flag, ofFields, Dict.get?_set]
  have hversion : versionOf (ofFields [("organization_id", .str id.1), ("name", .str name)]) =
      .ok 1 := by
    simp [versionOf, ofFields, Dict.get?_set]
  have hmin : 2 ≤ (Text.strip name).1.length := h.1
  have hmax : (Text.strip name).1.length ≤ 120 := h.2
  unfold Organization.modelValidate
  rw [hextra, hid, hname, hactive, hversion]
  simp only [Except.ok_bind, dif_pos hmin, dif_pos hmax, dif_pos (le_refl 1)]
  rfl

variable [Sha256] (hs : Shaped store)
include hs

theorem requireAdmin_takes {identity : Identity} {admin : User}
    (hadmin : (registry store).Admin identity admin) :
    (requireAdmin identity).Takes store 1 admin store := by
  obtain ⟨huser, hactive, hplatform, hmfa⟩ := hadmin
  have hrefused : (!admin.active || !admin.platformAdmin || !identity.mfa) = false := by
    rw [hactive, hplatform, hmfa]
    rfl
  refine Takes.bind (k := 0) (readUser_takes hs identity.subject.1) ?_
  rw [huser]
  exact Takes.bind (k := 0) (raiseIf_takes hrefused _ _) (Takes.pure _)

/-- The caller is an administrator, or is refused. -/
theorem requireAdmin_cases (identity : Identity) :
    (∃ admin, (registry store).Admin identity admin) ∨
      (requireAdmin identity).Stops store 1 denied := by
  have hread := readUser_takes hs identity.subject.1
  unfold requireAdmin
  cases huser : (registry store).user (userKey identity.subject.1) with
  | none =>
    rw [huser] at hread
    exact .inr (Stops.bind (k := 0) hread (Stops.raise _))
  | some user =>
    rw [huser] at hread
    by_cases hrefused : (!user.active || !user.platformAdmin || !identity.mfa) = true
    · refine .inr (Stops.bind (k := 0) hread (Stops.bind_left ?_ _))
      rw [hrefused]
      exact Stops.raise _
    · simp only [Bool.or_eq_true, Bool.not_eq_true', not_or, Bool.not_eq_false] at hrefused
      exact .inl ⟨user, huser, hrefused.1.1, hrefused.1.2, hrefused.2⟩

theorem requireAdmin_raisesOnly {identity : Identity} {f : User → Tx α}
    (hf : ∀ admin, (registry store).Admin identity admin →
      (f admin).RaisesOnly AdmissionError.IsControlApi store) :
    (requireAdmin identity >>= f).RaisesOnly AdmissionError.IsControlApi store := by
  rcases requireAdmin_cases hs identity with ⟨admin, hadmin⟩ | hstops
  · exact RaisesOnly.bind (requireAdmin_takes hs hadmin) (hf admin hadmin)
  · exact RaisesOnly.of_stops (hstops.bind_left f) isControlApi_denied

/-! ### Operation by operation -/

variable (a : Ambient)

theorem bootstrapOwner_proper (subject : String) : Proper a (bootstrapOwner a subject store).1 := by
  refine Proper.transact (RaisesOnly.bind (Takes.get _) ?_)
  cases store.get? bootstrapPath with
  | some document => exact RaisesOnly.raise isControlApi_alreadyBootstrapped
  | none =>
    refine RaisesOnly.bind (readUser_takes hs subject) ?_
    cases (registry store).user (userKey subject) with
    | some user => exact RaisesOnly.raise isControlApi_alreadyBootstrapped
    | none => exact RaisesOnly.bind (Takes.put _ _) (put_audit_raisesOnly a _ _ _ _ _)

theorem access_proper (identity : Identity) : Proper a (access a.faults identity store).1 :=
  Proper.transact (RaisesOnly.of_takes (accessOperation_takes hs identity))

theorem createOrganization_proper (identity : Identity) {name : String}
    (hname : 2 ≤ (stripWhitespace name).length ∧ (stripWhitespace name).length ≤ 120) :
    Proper a (createOrganization a identity name store).1 := by
  unfold createOrganization
  rw [Organization.modelValidate_new _ hname]
  refine Proper.transact (requireAdmin_raisesOnly hs fun admin _ => ?_)
  refine RaisesOnly.bind (Takes.put _ _) (RaisesOnly.bind (Takes.put _ _) (RaisesOnly.pure _))

theorem setStatus_proper (identity : Identity) (kind identifier : String) (request : StatusUpdate) :
    Proper a (setStatus a identity kind identifier request store).1 := by
  by_cases hkind : kind ≠ "organizations" ∧ kind ≠ "users"
  · unfold setStatus
    rw [if_pos hkind]
    exact Proper.denied
  rw [not_and_or, not_not, not_not] at hkind
  have hversion : ∀ {document : Document} {version : Nat} {path actor action : String},
      document.get? "version" = some (.int version) →
      (do
        raiseIf (decide ((← ofExcept (item document "version")) ≠ .int request.expectedVersion))
          versionConflict
        put path (setStatusOf document request)
        audit a actor action path : Tx Unit).RaisesOnly AdmissionError.IsControlApi store := by
    intro document version path actor action hget
    have hitem : item document "version" = .ok (.int version) := by
      unfold item
      rw [hget]
    exact RaisesOnly.bind (Takes.ofExcept hitem)
      (raiseIf_raisesOnly isControlApi_versionConflict fun _ => put_audit_raisesOnly a _ _ _ _ _)
  rcases hkind with rfl | rfl
  · refine Proper.transact (requireAdmin_raisesOnly hs fun admin _ => RaisesOnly.bind (Takes.get _) ?_)
    rw [organizationPath_eq]
    cases hdocument : store.get? (organizationPath identifier) with
    | none => exact RaisesOnly.raise isControlApi_denied
    | some document =>
      rcases hs.under_organizations hdocument with
        ⟨organization, -, rfl, -⟩ | ⟨id, key, member, -, rfl, -⟩
      · exact hversion organization.version_modelDump
      · exact hversion member.version_modelDump
  · refine Proper.transact (requireAdmin_raisesOnly hs fun admin _ => RaisesOnly.bind (Takes.get _) ?_)
    rw [usersPath_eq, hs.get?_user]
    cases (registry store).user identifier with
    | none => exact RaisesOnly.raise isControlApi_denied
    | some target =>
      refine RaisesOnly.bind (Takes.ofExcept target.modelValidate_modelDump) ?_
      exact raiseIf_raisesOnly isControlApi_denied fun _ => hversion target.version_modelDump

theorem revokeInvitation_proper (identity : Identity) (identifier : String)
    (request : InvitationRevoke) :
    Proper a (revokeInvitation a identity identifier request store).1 := by
  refine Proper.transact (requireAdmin_raisesOnly hs fun admin _ => RaisesOnly.bind (Takes.get _) ?_)
  rw [hs.get?_invitation]
  cases (registry store).invitation identifier with
  | none => exact RaisesOnly.raise isControlApi_denied
  | some invitation =>
    refine RaisesOnly.bind (Takes.ofExcept invitation.modelValidate_modelDump) ?_
    exact raiseIf_raisesOnly isControlApi_versionConflict fun _ => put_audit_raisesOnly a _ _ _ _ _

theorem setAdministrator_proper (identity : Identity) (identifier : String) (request : StatusUpdate) :
    Proper a (setAdministrator a identity identifier request store).1 := by
  refine Proper.transact (requireAdmin_raisesOnly hs fun admin _ => ?_)
  refine raiseIf_raisesOnly isControlApi_denied fun _ => RaisesOnly.bind (Takes.get _) ?_
  rw [hs.get?_user]
  cases (registry store).user identifier with
  | none => exact RaisesOnly.raise isControlApi_denied
  | some target =>
    refine RaisesOnly.bind (Takes.ofExcept target.modelValidate_modelDump) ?_
    refine raiseIf_raisesOnly isControlApi_denied fun _ => ?_
    exact raiseIf_raisesOnly isControlApi_versionConflict fun _ => put_audit_raisesOnly a _ _ _ _ _

theorem updateMembership_proper (identity : Identity) (organizationId identifier : String)
    (request : MembershipUpdate) :
    Proper a (updateMembership a identity organizationId identifier request store).1 := by
  refine Proper.transact (requireAdmin_raisesOnly hs fun admin _ => ?_)
  refine RaisesOnly.bind (Takes.get _) (RaisesOnly.bind (Takes.get _) ?_)
  cases hdocument : store.get? (membersPath organizationId identifier) with
  | none => exact RaisesOnly.raise isControlApi_denied
  | some document =>
    cases horg : store.get? (organizationPath organizationId) with
    | none => exact RaisesOnly.raise isControlApi_denied
    | some org =>
      rcases hs.under_organizations hdocument with
        ⟨organization, htext, -⟩ | ⟨id, key, member, htext, rfl, hmember⟩
      · exact (identifier_ne_members _ _ _ htext.symm).elim
      · refine RaisesOnly.bind (Takes.ofExcept member.modelValidate_modelDump) ?_
        refine RaisesOnly.bind (readUser_takes hs _) ?_
        cases (registry store).user (userKey member.subject.1) with
        | none => exact RaisesOnly.raise isControlApi_denied
        | some user =>
          refine raiseIf_raisesOnly isControlApi_denied fun hrefused => ?_
          refine raiseIf_raisesOnly isControlApi_versionConflict fun _ => ?_
          simp only [Bool.or_eq_false_iff, decide_eq_false_iff_not, ne_eq, not_not] at hrefused
          -- the path is that of the member's own organization
          rw [← hrefused.1.1.1, hs.get?_organization] at horg
          obtain ⟨organization, -, rfl⟩ := Option.map_eq_some_iff.mp horg
          by_cases hactive : request.active = true
          · rw [if_pos hactive]
            refine raiseIf_raisesOnly isControlApi_denied fun _ => ?_
            refine RaisesOnly.bind (Takes.ofExcept organization.modelValidate_modelDump) ?_
            exact raiseIf_raisesOnly isControlApi_denied fun _ => put_audit_raisesOnly a _ _ _ _ _
          · rw [if_neg hactive]
            exact put_audit_raisesOnly a _ _ _ _ _

omit [Sha256] hs in
theorem recordRejection_proper (actor reason : String) :
    Proper a (recordRejection a actor reason store).1 :=
  Proper.transact (RaisesOnly.of_takes (audit_takes a _ _ _))

variable [Casing]

theorem invite_proper (identity : Identity) {request : InvitationCreate}
    (hclock : Time.isDatetime (a.now + invitationLifetime) = true)
    (hemail : isEmail (stripWhitespace (Casing.lower request.email.1)) = true) :
    Proper a (invite a identity request store).1 := by
  have hvalid : Email.validate (Casing.lower request.email.1) =
      .ok ⟨stripWhitespace (Casing.lower request.email.1), hemail⟩ := by
    unfold Email.validate
    rw [dif_pos hemail]
  unfold invite
  rw [hclock, if_neg (by decide), hvalid]
  refine Proper.transact (requireAdmin_raisesOnly hs fun admin _ => RaisesOnly.bind (Takes.get _) ?_)
  rw [hs.get?_organization]
  cases (registry store).organization request.organizationId with
  | none => exact RaisesOnly.raise isControlApi_denied
  | some organization =>
    refine RaisesOnly.bind (Takes.ofExcept organization.modelValidate_modelDump) ?_
    refine raiseIf_raisesOnly isControlApi_denied fun _ => ?_
    exact RaisesOnly.bind (Takes.put _ _) (RaisesOnly.bind (Takes.put _ _) (RaisesOnly.pure _))

/-! ### The redemption -/

/-- As long as the caller has room whenever the checks pass. -/
theorem redeemOperation_raisesOnly {identity : Identity} {token : String}
    (hroom : ∀ invitation, (registry store).invitation (Sha256.hexdigest token) = some invitation →
      Checked (registry store) a identity invitation →
      ((registry store).userOf identity.subject).organizationIds.length < 50) :
    (redeemOperation a identity token).RaisesOnly AdmissionError.IsControlApi store := by
  refine RaisesOnly.bind (Takes.get _) ?_
  rw [hs.get?_invitation]
  cases hinvitation : (registry store).invitation (Sha256.hexdigest token) with
  | none => exact RaisesOnly.raise isControlApi_denied
  | some invitation =>
    refine RaisesOnly.bind (Takes.ofExcept invitation.modelValidate_modelDump) ?_
    refine RaisesOnly.bind (readUser_takes hs _) (RaisesOnly.bind (readUser_takes hs _) ?_)
    refine RaisesOnly.bind (Takes.get _) (RaisesOnly.bind (Takes.get _) ?_)
    rw [hs.get?_organization, memberPath, hs.get?_member]
    refine raiseIf_raisesOnly isControlApi_denied fun hrefused => ?_
    cases horganization : (registry store).organization invitation.organizationId with
    | none => exact RaisesOnly.raise isControlApi_denied
    | some organization =>
      refine RaisesOnly.bind (Takes.ofExcept organization.modelValidate_modelDump) ?_
      refine raiseIf_raisesOnly isControlApi_denied fun hactive => ?_
      refine raiseIf_raisesOnly isControlApi_denied fun hadmitted => ?_
      have hlt := hroom invitation hinvitation
        (checked_of_checks a hrefused horganization hactive hadmitted)
      have hvalid : User.modelValidate (joinOf ((registry store).userOf identity.subject)
          invitation.organizationId) =
            .ok (((registry store).userOf identity.subject).join invitation.organizationId hlt) := by
        rw [joinOf_eq_modelDump _ _ hlt, User.modelValidate_modelDump]
      refine RaisesOnly.bind (Takes.ofExcept hvalid) (RaisesOnly.bind (Takes.put _ _) ?_)
      exact RaisesOnly.bind (Takes.put _ _) (put_audit_raisesOnly a _ _ _ _ _)

/-- The fifty-first organization. -/
theorem redeemOperation_stops {identity : Identity} {token : String} {invitation : Invitation}
    (hstored : (registry store).invitation (Sha256.hexdigest token) = some invitation)
    (hchecked : Checked (registry store) a identity invitation)
    (hfull : 50 ≤ ((registry store).userOf identity.subject).organizationIds.length) :
    (redeemOperation a identity token).Stops store 5
      (.validation "Tuple should have at most 50 items after validation") := by
  refine (redeemOperation_leads hs hstored hchecked).stops (k := 0) ?_
  exact Stops.bind_left (Stops.ofExcept (modelValidate_joinOf_full hfull)) _

/-- The view after a redemption that has committed is that of a shaped store. -/
theorem redeem_proper {identity : Identity} {token : String}
    (hroom : ∀ invitation, (registry store).invitation (Sha256.hexdigest token) = some invitation →
      Checked (registry store) a identity invitation →
      ((registry store).userOf identity.subject).organizationIds.length < 50) :
    Proper a (redeem a identity token store).1 := by
  rcases redeemOperation_runs hs a identity token with
    ⟨e, hrun⟩ | ⟨u, store', R', hrun, -, hcommitted⟩
  · have hproper : Proper a ((redeemOperation a identity token).transact a.faults store).1 :=
      Proper.transact (redeemOperation_raisesOnly hs a hroom)
    unfold redeem
    rw [hrun] at hproper ⊢
    intro e' herror
    cases herror
    exact hproper e rfl
  · rw [redeem_of_committed hcommitted.1 hrun]
    intro e herror
    cases hfault : firstFault a.viewFaults 0 ((registry store').viewReads identity.subject) with
    | none =>
      rw [hfault] at herror
      cases herror
    | some fault =>
      rw [hfault] at herror
      cases herror
      exact .inr (.inr (Transaction.exists_of_firstFault hfault))

end Transactions

/-! ## Listings -/

section Listings

variable {store : MemoryStore} {a : Ambient}

/-- A record stands under its id in the collection. -/
theorem recordId_eq_some {collection path id : String} (h : recordId collection path = some id) :
    path = collection ++ "/" ++ id := by
  unfold recordId at h
  dsimp only at h
  split_ifs at h with hprefix
  rw [Bool.and_eq_true, List.isPrefixOf_iff_prefix] at hprefix
  obtain ⟨⟨rest, hpath⟩, -⟩ := hprefix
  rw [← hpath, List.drop_left, Option.some.injEq] at h
  apply String.toList_injective
  have happend : (collection ++ "/" ++ id).toList = (collection ++ "/").toList ++ id.toList :=
    String.toList_append
  rw [happend, ← hpath, ← h, String.toList_ofList]

/-- What is listed is a stored document with its record id. -/
theorem exists_of_mem_list {collection after : String} {limit : Nat} {record : Document}
    (h : record ∈ MemoryStore.list store collection after limit) :
    ∃ id document, store.get? (collection ++ "/" ++ id) = some document ∧
      record = document.set "record_id" (.str id) := by
  obtain ⟨⟨path, document⟩, hmem, hrecord⟩ := List.mem_filterMap.mp (List.mem_of_mem_take h)
  have hget := Dict.get?_of_mem (List.mem_mergeSort.mp hmem)
  dsimp only at hrecord
  cases hid : recordId collection path with
  | none =>
    rw [hid] at hrecord
    cases hrecord
  | some id =>
    rw [hid] at hrecord
    dsimp only at hrecord
    split_ifs at hrecord
    cases hrecord
    rw [recordId_eq_some hid] at hget
    exact ⟨id, document, hget, rfl⟩

theorem listing_proper (collection after : String) : Proper a (listing a store collection after) := by
  unfold listing
  cases hfault : a.viewFaults 0 with
  | none => exact Fallible.raises_ok
  | some e =>
    intro e' herror
    cases herror
    exact .inr (.inr ⟨0, hfault⟩)

/-- A listed invitation is read back. -/
theorem invitationRecord_ok (now : Time) (invitation : Invitation) (id : String) :
    ∃ record, invitationRecord now (invitation.modelDump.set "record_id" (.str id)) = .ok record := by
  have hnone : invitation.modelDump.get? "record_id" = none := by
    simp [Invitation.modelDump, ofFields, Dict.get?_set]
  unfold invitationRecord item
  rw [Dict.erase_set_of_none _ hnone, Invitation.modelValidate_modelDump, Dict.get?_set_self]
  exact ⟨_, rfl⟩

variable [Sha256] (hs : Shaped store)
include hs

theorem requireAdmin_proper (identity : Identity) :
    Proper a ((requireAdmin identity).transact a.faults store).1 := by
  refine Proper.transact ?_
  rcases requireAdmin_cases hs identity with ⟨admin, hadmin⟩ | hstops
  · exact RaisesOnly.of_takes (requireAdmin_takes hs hadmin)
  · exact RaisesOnly.of_stops hstops isControlApi_denied

theorem listRecords_proper (identity : Identity) (kind after : String) :
    Proper a (listRecords a identity kind after store) := by
  unfold listRecords
  split_ifs with hkind hinvitations
  · subst hinvitations
    refine (requireAdmin_proper hs identity).bind fun admin => ?_
    refine (listing_proper _ _).bind_of fun records hrecords => ?_
    have hread : ∀ record ∈ records, ∃ shown, invitationRecord a.now record = .ok shown := by
      intro record hmem
      unfold listing at hrecords
      cases hfault : a.viewFaults 0 with
      | some e =>
        rw [hfault] at hrecords
        cases hrecords
      | none =>
        rw [hfault, Except.ok.injEq] at hrecords
        subst hrecords
        obtain ⟨id, document, hget, rfl⟩ := exists_of_mem_list hmem
        obtain ⟨invitation, rfl⟩ := hs.holds (.invitation id) hget
        exact invitationRecord_ok a.now invitation id
    obtain ⟨shown, hshown⟩ := Fallible.exists_mapM hread
    rw [hshown]
    exact Fallible.raises_ok
  · refine (requireAdmin_proper hs identity).bind fun admin => ?_
    exact (listing_proper _ _).bind fun records => Fallible.raises_ok
  · exact Proper.denied

theorem listMembers_proper (identity : Identity) (organizationId after : String) :
    Proper a (listMembers a identity organizationId after store) := by
  unfold listMembers
  refine (Proper.transact (requireAdmin_raisesOnly hs fun admin _ => ?_)).bind fun _ =>
    listing_proper _ _
  refine RaisesOnly.bind (Takes.get _) ?_
  cases store.get? (organizationPath organizationId) with
  | none => exact RaisesOnly.raise isControlApi_denied
  | some document => exact RaisesOnly.pure ()

theorem workspace_proper (identity : Identity) (organizationId : String) :
    Proper a (workspace a.faults identity organizationId store) := by
  unfold workspace
  refine (access_proper hs a identity).bind fun view => ?_
  split
  · exact Fallible.raises_ok
  · exact Proper.denied

/-- **The reading operations** raise nothing else. -/
theorem Query.proper (query : Query) : Proper a (query.run a store) := by
  cases query with
  | access identity => exact Fallible.raises_map_iff.mpr (access_proper hs a identity)
  | workspace identity organizationId =>
    exact Fallible.raises_map_iff.mpr (workspace_proper hs identity organizationId)
  | listRecords identity kind after =>
    exact Fallible.raises_map_iff.mpr (listRecords_proper hs identity kind after)
  | listMembers identity organizationId after =>
    exact Fallible.raises_map_iff.mpr (listMembers_proper hs identity organizationId after)

end Listings

/-! ## Every call -/

section Calls

variable [Sha256] [Casing]

theorem redeem_proper_iff {store : MemoryStore} (hs : Shaped store) {a : Ambient}
    (hfaults : StorageFaults a) {identity : Identity} {token : String} :
    Proper a (redeem a identity token store).1 ↔
      ¬ (Call.redeem identity token).Overflows a (registry store) := by
  constructor
  · rintro hproper ⟨invitation, hstored, hchecked, hfull, hreliable⟩
    have hstops := redeemOperation_stops hs a hstored hchecked hfull
    have hrun : (redeem a identity token store).1 =
        .error (.validation "Tuple should have at most 50 items after validation") := by
      unfold redeem
      rw [hstops.transact, hreliable]
      rfl
    rw [hrun] at hproper
    exact not_proper_validation hfaults _ hproper
  · intro hnot
    by_cases hfull : ∃ invitation, (registry store).invitation (Sha256.hexdigest token) = some invitation ∧
        Checked (registry store) a identity invitation ∧
        50 ≤ ((registry store).userOf identity.subject).organizationIds.length
    · obtain ⟨invitation, hstored, hchecked, hfull⟩ := hfull
      -- one of the reads has failed
      cases hfault : firstFault a.faults 0 5 with
      | none => exact absurd ⟨invitation, hstored, hchecked, hfull, hfault⟩ hnot
      | some e =>
        have hrun : (redeem a identity token store).1 = .error e := by
          unfold redeem
          rw [(redeemOperation_stops hs a hstored hchecked hfull).transact, hfault]
          rfl
        rw [hrun]
        exact Fallible.raises_error (.inr (.inl (Transaction.exists_of_firstFault hfault)))
    · refine redeem_proper hs a fun invitation hstored hchecked => ?_
      by_contra hlt
      exact hfull ⟨invitation, hstored, hchecked, Nat.not_lt.mp hlt⟩

theorem invite_proper_iff {store : MemoryStore} (hs : Shaped store) {a : Ambient}
    (hfaults : StorageFaults a) {identity : Identity} {request : InvitationCreate} :
    Proper a (invite a identity request store).1 ↔
      ¬ (Call.invite identity request).Overflows a (registry store) := by
  constructor
  · intro hproper hoverflows
    unfold invite Email.validate at hproper
    cases hclock : Time.isDatetime (a.now + invitationLifetime) with
    | false =>
      rw [hclock] at hproper
      exact not_proper_overflow hfaults hproper
    | true =>
      have hinvalid : isEmail (stripWhitespace (Casing.lower request.email.1)) ≠ true := by
        rw [hoverflows.resolve_left (not_le.mpr (Time.isDatetime_eq_true_iff.mp hclock))]
        exact Bool.false_ne_true
      rw [hclock, if_neg (by decide), dif_neg hinvalid] at hproper
      exact not_proper_validation hfaults _ hproper
  · intro hnot
    exact invite_proper hs a identity
      (Bool.eq_true_of_not_eq_false fun hclock => hnot (.inl (Time.isDatetime_eq_false_iff.mp hclock)))
      (Bool.eq_true_of_not_eq_false fun hlong => hnot (.inr hlong))

/-- **A call** is proper unless a record that it constructs is not valid. -/
theorem Call.proper_iff {store : MemoryStore} (hs : Shaped store) {a : Ambient} {call : Call}
    (hroute : call.RouteValidated) (hfaults : StorageFaults a) :
    Proper a (call.run a store).1 ↔ ¬ call.Overflows a (registry store) := by
  cases call with
  | bootstrapOwner subject => exact iff_of_true (bootstrapOwner_proper hs a subject) id
  | createOrganization identity name =>
    exact iff_of_true (Fallible.raises_map_iff.mpr (createOrganization_proper hs a identity hroute)) id
  | invite identity request => exact Fallible.raises_map_iff.trans (invite_proper_iff hs hfaults)
  | redeem identity token => exact Fallible.raises_map_iff.trans (redeem_proper_iff hs hfaults)
  | setStatus identity kind identifier request =>
    exact iff_of_true (setStatus_proper hs a identity kind identifier request) id
  | revokeInvitation identity identifier request =>
    exact iff_of_true (revokeInvitation_proper hs a identity identifier request) id
  | updateMembership identity organizationId identifier request =>
    exact iff_of_true (updateMembership_proper hs a identity organizationId identifier request) id
  | setAdministrator identity identifier request =>
    exact iff_of_true (setAdministrator_proper hs a identity identifier request) id
  | recordRejection actor reason => exact iff_of_true (recordRejection_proper a actor reason) id

/-- **After every history** a further call that the routes have validated succeeds or raises a
`ControlApiError`, failures of the store apart, exactly unless it constructs a record that is not
valid; a reading call always does. -/
theorem operations_proper_iff (history : History) :
    (∀ event : Event, event.call.RouteValidated → StorageFaults event.ambient →
      (Proper event.ambient (event.call.run event.ambient (after history)).1 ↔
        ¬ event.call.Overflows event.ambient (registry (after history)))) ∧
    ∀ (query : Query) (a : Ambient), Proper a (query.run a (after history)) :=
  ⟨fun _ hroute hfaults => Call.proper_iff (shaped_after history) hroute hfaults,
    fun query _ => Query.proper (shaped_after history) query⟩

end Calls

/-! ## A caller who has joined fifty organizations -/

section Steps

variable [Sha256] {event : Event} {history : History} {identity : Identity} {admin : User}

theorem createOrganization_ok {store : MemoryStore} (hs : Shaped store) {a : Ambient}
    (hreliable : a.faults = fun _ => none) (hadmin : (registry store).Admin identity admin) {name : String}
    (hname : 2 ≤ (stripWhitespace name).length ∧ (stripWhitespace name).length ≤ 120) :
    ∃ organization, (createOrganization a identity name store).1 = .ok organization := by
  unfold createOrganization
  rw [Organization.modelValidate_new _ hname, hreliable]
  refine Completes.exists_ok (Completes.bind (requireAdmin_takes hs hadmin) ?_)
  refine Completes.bind (Takes.put _ _) (Completes.bind (audit_takes a _ _ _) ?_)
  exact Completes.pure _

variable [Casing]

theorem invite_ok {store : MemoryStore} (hs : Shaped store) {a : Ambient} (hreliable : a.faults = fun _ => none)
    (hadmin : (registry store).Admin identity admin) {request : InvitationCreate}
    {organization : Organization}
    (horganization : (registry store).organization request.organizationId = some organization)
    (hactive : organization.active = true)
    (hclock : Time.isDatetime (a.now + invitationLifetime) = true)
    (hemail : isEmail (stripWhitespace (Casing.lower request.email.1)) = true) :
    ∃ invitation, (invite a identity request store).1 = .ok invitation := by
  have hopen : (!organization.active) = false := by
    rw [hactive]
    rfl
  unfold invite Email.validate
  rw [hclock, if_neg (by decide), dif_pos hemail, hreliable]
  refine Completes.exists_ok (Completes.bind (requireAdmin_takes hs hadmin) ?_)
  refine Completes.bind (Takes.get _) ?_
  rw [hs.get?_organization, horganization]
  refine Completes.bind (Takes.ofExcept organization.modelValidate_modelDump) ?_
  refine Completes.bind (raiseIf_takes hopen _ _) (Completes.bind (Takes.put _ _) ?_)
  exact Completes.bind (audit_takes a _ _ _) (Completes.pure _)

end Steps

namespace Demo

def digit (n : Fin 16) : Char :=
  if n.val < 10 then Char.ofNat (48 + n.val) else Char.ofNat (87 + n.val)

theorem isHexDigit_digit : ∀ n, isHexDigit (digit n) = true := by decide

theorem digit_injective : ∀ m n, digit m = digit n → m = n := by decide

def digits (n : Nat) : List Char :=
  List.replicate 30 '0' ++ [digit (Fin.ofNat 16 (n / 16)), digit (Fin.ofNat 16 n)]

theorem digits_hex (n : Nat) : (String.ofList (digits n)).length = 32 ∧
    (String.ofList (digits n)).toList.all isHexDigit = true := by
  rw [String.length_ofList, String.toList_ofList, digits, List.all_append, List.length_append,
    List.length_replicate]
  refine ⟨rfl, ?_⟩
  rw [Bool.and_eq_true]
  refine ⟨by decide, ?_⟩
  rw [List.all_cons, List.all_cons, isHexDigit_digit, isHexDigit_digit]
  rfl

/-- A drawn text that ends in a number. -/
def numbered (n : Nat) : Hex := ⟨String.ofList (digits n), digits_hex n⟩

theorem numbered_inj {m n : Nat} (hm : m < 256) (hn : n < 256) (h : numbered m = numbered n) :
    m = n := by
  have hdigits : digits m = digits n := by
    have htext := congrArg (fun hex : Hex => hex.1.toList) h
    simp only [numbered, String.toList_ofList] at htext
    exact htext
  have hlast := List.append_cancel_left hdigits
  simp only [List.cons.injEq, and_true] at hlast
  have hhigh := congrArg Fin.val (digit_injective _ _ hlast.1)
  have hlow := congrArg Fin.val (digit_injective _ _ hlast.2)
  simp only [Fin.ofNat] at hhigh hlow
  omega

def organizationAt (n : Nat) : Identifier := (numbered n).organizationId

def ambientAt (n : Nat) : Ambient :=
  ⟨token, numbered n, numbered n, 0, 0, fun _ => none, fun _ => none⟩

def createAt (n : Nat) : Event := ⟨.createOrganization owner "Acme Corp", ambientAt n⟩

def inviteAt (n : Nat) : Event :=
  ⟨.invite owner ⟨alice.email, organizationAt n, .REQUESTER⟩, ambientAt n⟩

def redeemAt (n : Nat) : Event := ⟨.redeem alice token, ambientAt n⟩

/-- The owner creates organizations, and alice joins each of them. -/
def joining : Nat → History
  | 0 => [bootstrap]
  | n + 1 => redeemAt n :: inviteAt n :: createAt n :: joining n

/-- Alice has joined so many organizations, and none that is still to be created. -/
structure Joined (R : Registry) (n : Nat) : Prop where
  admin : ∃ admin, R.Admin owner admin
  active : (R.userOf alice.subject).active = true
  joined : (R.userOf alice.subject).organizationIds.length = n
  absent : ∀ m, n ≤ m → m < 256 → R.member (organizationAt m) (userKey alice.subject.1) = none

theorem Joined.of_same {R R' : Registry} {n : Nat} (h : Joined R n) (huser : R'.user = R.user)
    (hmember : R'.member = R.member) : Joined R' n := by
  obtain ⟨admin, hadmin⟩ := h.admin
  have hof : R'.userOf alice.subject = R.userOf alice.subject := by
    unfold Registry.userOf
    rw [huser]
  refine ⟨⟨admin, huser ▸ hadmin.1, hadmin.2⟩, hof ▸ h.active, hof ▸ h.joined, ?_⟩
  rw [hmember]
  exact h.absent

theorem isDatetime_lifetime : Time.isDatetime (0 + invitationLifetime) = true :=
  Time.isDatetime_eq_true_iff.mpr (by decide)

theorem lowered_alice : isEmail (stripWhitespace (Casing.lower alice.email.1)) = true := by
  decide +kernel

/-- The next organization, and an invitation to it. -/
theorem Joined.invited {history : History} {n : Nat} (h : Joined (registry (after history)) n)
    (hn : n < 256) :
    Joined (registry (after (inviteAt n :: createAt n :: history))) n ∧
      ∃ invitation, (registry (after (inviteAt n :: createAt n :: history))).invitation
          (Sha256.hexdigest token) = some invitation ∧
        invitation.organizationId = organizationAt n ∧
        Checked (registry (after (inviteAt n :: createAt n :: history))) (ambientAt n) alice
          invitation := by
  obtain ⟨admin, hadmin⟩ := h.admin
  have hcreated : Succeeds (createAt n) history := by
    obtain ⟨organization, hok⟩ := @createOrganization_ok _ owner admin _ (shaped_after history)
      (ambientAt n) rfl hadmin "Acme Corp" (by decide +kernel)
    show (Admission.createOrganization (ambientAt n) owner "Acme Corp" (after history)).1.map
      (fun _ => ()) = .ok ()
    rw [hok]
    rfl
  obtain ⟨R₁, heffect, -, audit, -, heq⟩ := hcreated.effect
  change Effect (ambientAt n) _ (.createOrganization owner "Acme Corp") R₁ at heffect
  cases heffect with
  | @createOrganization _ _ admin' organization hadmin' hid hactive hversion =>
    have h₁ : Joined (registry (after (createAt n :: history))) n := by
      rw [heq]
      exact h.of_same rfl rfl
    have horganization : (registry (after (createAt n :: history))).organization (organizationAt n) =
        some organization := by
      rw [heq, Registry.putAudit_organization, Registry.putOrganization_organization, hid]
      exact Function.update_self _ _ _
    obtain ⟨admin₁, hadmin₁⟩ := h₁.admin
    have hinvited : Succeeds (inviteAt n) (createAt n :: history) := by
      obtain ⟨invitation, hok⟩ := @invite_ok _ owner admin₁ _ _ (shaped_after (createAt n :: history))
        (ambientAt n) rfl hadmin₁ ⟨alice.email, organizationAt n, .REQUESTER⟩ organization
        horganization hactive isDatetime_lifetime lowered_alice
      show (Admission.invite (ambientAt n) owner ⟨alice.email, organizationAt n, .REQUESTER⟩
        (after (createAt n :: history))).1.map (fun _ => ()) = .ok ()
      rw [hok]
      rfl
    obtain ⟨R₂, heffect, -, audit', -, heq'⟩ := hinvited.effect
    change Effect (ambientAt n) _ (.invite owner ⟨alice.email, organizationAt n, .REQUESTER⟩) R₂
      at heffect
    cases heffect with
    | @invite _ _ _ email _ _ hemail _ _ =>
      have h₂ : Joined (registry (after (inviteAt n :: createAt n :: history))) n := by
        rw [heq']
        exact h₁.of_same rfl rfl
      have hlowered : email.1 = Casing.lower alice.email.1 := by
        unfold Email.validate at hemail
        rw [dif_pos lowered_alice] at hemail
        cases hemail
        show stripWhitespace (Casing.lower alice.email.1) = Casing.lower alice.email.1
        decide +kernel
      refine ⟨h₂, .issue (ambientAt n) owner ⟨alice.email, organizationAt n, .REQUESTER⟩ email, ?_, ?_, ?_⟩
      · rw [heq', Registry.putAudit_invitation, Registry.putInvitation_invitation]
        exact Function.update_self _ _ _
      · rfl
      · obtain ⟨admin₂, hadmin₂⟩ := h₂.admin
        have hunexpired : (0 : Time) < 0 + invitationLifetime := by decide
        refine ⟨hlowered, hunexpired, rfl, rfl, ⟨admin₂, hadmin₂.1, hadmin₂.2.1, hadmin₂.2.2.1⟩, ?_,
          h₂.active, h₂.absent n le_rfl hn⟩
        refine ⟨organization, ?_, hactive⟩
        rw [heq', Registry.putAudit_organization]
        exact horganization

/-- She joins it, if she has room. -/
theorem Joined.redeemed {history : History} {n : Nat} (h : Joined (registry (after history)) n)
    (hn : n < 50) :
    Joined (registry (after (redeemAt n :: inviteAt n :: createAt n :: history))) (n + 1) := by
  obtain ⟨h₂, invitation, hstored, hid, hchecked⟩ := h.invited (by omega)
  have hroom := h₂.joined ▸ hn
  have hredeems : Redeems (redeemAt n).ambient (registry (after (inviteAt n :: createAt n :: history)))
      alice token invitation :=
    ⟨hstored, hchecked.redeemable hroom, Transaction.firstFault_none 0 9⟩
  obtain ⟨audit, heq⟩ := hredeems.registry_after rfl
  obtain ⟨admin, hadmin⟩ := h₂.admin
  have hof : (registry (after (redeemAt n :: inviteAt n :: createAt n :: history))).userOf
      alice.subject = ((registry (after (inviteAt n :: createAt n :: history))).userOf
        alice.subject).join invitation.organizationId hroom := by
    refine Registry.userOf_of_some ?_
    rw [heq, Registry.putAudit_user, Registry.putInvitation_user, Registry.putMember_user,
      Registry.putUser_user, Function.update_self]
  refine ⟨⟨admin, ?_, hadmin.2⟩, ?_, ?_, ?_⟩
  · have hother : userKey owner.subject.1 ≠ userKey alice.subject.1 := by decide
    rw [heq, Registry.putAudit_user, Registry.putInvitation_user, Registry.putMember_user,
      Registry.putUser_user, Function.update_of_ne hother]
    exact hadmin.1
  · rw [hof]
    exact hchecked.user
  · rw [hof]
    show (_ ++ [invitation.organizationId]).length = n + 1
    rw [List.length_append, h₂.joined]
    rfl
  · intro m hm hlt
    have hne : organizationAt m ≠ invitation.organizationId := by
      rw [hid]
      intro hsame
      have := numbered_inj hlt (by omega) (Hex.organizationId_injective hsame)
      omega
    rw [heq, Registry.putAudit_member, Registry.putInvitation_member, Registry.putMember_apply,
      if_neg fun hsame => hne hsame.1]
    exact h₂.absent m (by omega) hlt

theorem joined_bootstrap : Joined (registry (after [bootstrap])) 0 := by
  have hbootstrapped : Succeeds bootstrap [] := by decide +kernel
  obtain ⟨R', heffect, -, audit, -, heq⟩ := hbootstrapped.effect
  change Effect (ambient '0' isHexDigit_zero) _ (.bootstrapOwner "owner") R' at heffect
  cases heffect with
  | bootstrapOwner hbootstrap hnone =>
    have hother : userKey alice.subject.1 ≠ userKey "owner" := by decide
    have halice : (registry (after [bootstrap])).user (userKey alice.subject.1) = none := by
      rw [heq, Registry.putAudit_user, Registry.putBootstrap_user, Registry.putUser_user,
        Function.update_of_ne hother]
      rfl
    have hof := Registry.userOf_of_none halice
    refine ⟨⟨User.first "owner", ?_, rfl, rfl, rfl⟩, ?_, ?_, fun m _ _ => ?_⟩
    · rw [heq, Registry.putAudit_user, Registry.putBootstrap_user, Registry.putUser_user]
      exact Function.update_self _ _ _
    · rw [hof]
      rfl
    · rw [hof]
      rfl
    · rw [heq]
      rfl

theorem joined_joining (n : Nat) (hn : n ≤ 50) : Joined (registry (after (joining n))) n := by
  induction n with
  | zero => exact joined_bootstrap
  | succ n ih => exact (ih (by omega)).redeemed (by omega)

/-- What the last redemption meets. -/
def joinedFifty : History := inviteAt 50 :: createAt 50 :: joining 50

theorem redeem_fiftyFirst : ¬ Proper (ambientAt 50)
    ((Call.redeem alice token).run (ambientAt 50) (after joinedFifty)).1 := by
  obtain ⟨hjoined, invitation, hstored, -, hchecked⟩ :=
    (joined_joining 50 le_rfl).invited (by omega)
  have hfaults : StorageFaults (ambientAt 50) := by
    rintro n e (h | h) <;> cases h
  intro hproper
  refine (@Call.proper_iff _ _ _ (shaped_after joinedFifty) _ (.redeem alice token) trivial hfaults).mp
    hproper ?_
  exact ⟨invitation, hstored, hchecked, hjoined.joined.ge, Transaction.firstFault_none 0 5⟩

end Demo

open Admission.Demo in
/-- The owner's first organization. -/
theorem operations_proper_create :
    Proper create.ambient (create.call.run create.ambient (after [bootstrap])).1 := by
  have hfaults : StorageFaults create.ambient := by
    rintro n e (h | h) <;> cases h
  have hname : create.call.RouteValidated := by
    show 2 ≤ (stripWhitespace "Acme Corp").length ∧ (stripWhitespace "Acme Corp").length ≤ 120
    decide +kernel
  exact ((operations_proper_iff [bootstrap]).1 create hname hfaults).mpr id

open Admission.Demo in
/-- The fifty-first organization of a user is a model validation error. -/
theorem not_operations_proper :
    ¬ ∀ [Sha256] [Casing] (history : History) (event : Event), event.call.RouteValidated →
      StorageFaults event.ambient →
      Proper event.ambient (event.call.run event.ambient (after history)).1 := by
  intro h
  refine redeem_fiftyFirst (h joinedFifty (redeemAt 50) trivial ?_)
  rintro n e (h | h) <;> cases h

end ChangeOps.Admission
