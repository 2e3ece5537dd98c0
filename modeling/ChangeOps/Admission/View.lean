import ChangeOps.Admission.Effects

/-!
# ChangeOps.Admission — the view of a caller

`access` on a shaped store: what it returns is a function of the registry, and it makes a number
of accesses that the registry tells. Its documents are all valid, so it raises only if one of
these accesses fails.
-/

namespace ChangeOps.Admission

open Transaction (get put raise ofExcept Takes Leads firstFault)

section View

variable [Sha256]

/-- The workspace of a subject in an organization, if both records allow it. -/
def Registry.workspaceOf (R : Registry) (subject : Text) (organizationId : Identifier) :
    Option Workspace :=
  match R.organization organizationId, R.member organizationId (userKey subject.1) with
  | some organization, some membership =>
    if organization.active && membership.active then some ⟨organization, membership⟩ else none
  | _, _ => none

/-- The workspaces that `access` lists. -/
def Registry.workspaces (R : Registry) (subject : Text) : List Workspace :=
  match R.user (userKey subject.1) with
  | some user =>
    if user.active then user.organizationIds.filterMap (R.workspaceOf subject) else []
  | none => []

/-- How often `access` reads the store. -/
def Registry.viewReads (R : Registry) (subject : Text) : Nat :=
  match R.user (userKey subject.1) with
  | some user => if user.active then 1 + 2 * user.organizationIds.length else 1
  | none => 1

/-- A workspace comes from the records of an organization and of a membership in it. -/
theorem Registry.workspaceOf_eq_some {R : Registry} {subject : Text} {organizationId : Identifier}
    {w : Workspace} :
    R.workspaceOf subject organizationId = some w ↔
      R.organization organizationId = some w.organization ∧
        R.member organizationId (userKey subject.1) = some w.membership ∧
        w.organization.active = true ∧ w.membership.active = true := by
  unfold workspaceOf
  cases R.organization organizationId with
  | none => simp
  | some organization =>
    cases R.member organizationId (userKey subject.1) with
    | none => simp
    | some membership =>
      obtain ⟨organization', membership'⟩ := w
      by_cases hactive : (organization.active && membership.active) = true
      · simp only [hactive, if_true, Option.some.injEq, Workspace.mk.injEq]
        rw [Bool.and_eq_true] at hactive
        constructor
        · rintro ⟨rfl, rfl⟩
          exact ⟨rfl, rfl, hactive⟩
        · rintro ⟨rfl, rfl, -⟩
          exact ⟨rfl, rfl⟩
      · simp only [hactive, if_false, Option.some.injEq, reduceCtorEq, false_iff, Bool.false_eq_true]
        rintro ⟨rfl, rfl, horganization, hmembership⟩
        exact hactive (by rw [horganization, hmembership]; rfl)

variable {store : MemoryStore} (hs : Shaped store)
include hs

theorem readUser_takes (subject : String) :
    (readUser subject).Takes store 1 ((registry store).user (userKey subject)) store := by
  refine Takes.bind (k := 0) (Takes.get _) ?_
  rw [userPath, hs.get?_user]
  cases (registry store).user (userKey subject) with
  | none => exact Takes.pure _
  | some user =>
    exact Takes.bind (k := 0) (Takes.ofExcept user.modelValidate_modelDump) (Takes.pure (some user))

theorem workspacesOf_takes (identity : Identity) (ids : List Identifier) :
    (workspacesOf identity ids).Takes store (2 * ids.length)
      (ids.filterMap ((registry store).workspaceOf identity.subject)) store := by
  induction ids with
  | nil => exact Takes.pure _
  | cons id rest ih =>
    rw [List.length_cons, show 2 * (rest.length + 1) = 1 + (1 + 2 * rest.length) by omega]
    refine Takes.bind (Takes.get _) (Takes.bind (Takes.get _) ?_)
    rw [hs.get?_organization, memberPath, hs.get?_member, List.filterMap_cons]
    unfold Registry.workspaceOf at ih ⊢
    cases (registry store).organization id with
    | none =>
      cases (registry store).member id (userKey identity.subject.1) <;> exact ih
    | some organization =>
      cases (registry store).member id (userKey identity.subject.1) with
      | none => exact ih
      | some member =>
        rw [show 2 * rest.length = 0 + (0 + (2 * rest.length + 0)) by omega]
        refine Takes.bind (Takes.ofExcept organization.modelValidate_modelDump)
          (Takes.bind (Takes.ofExcept member.modelValidate_modelDump) (Takes.bind ih ?_))
        dsimp only
        split_ifs <;> exact Takes.pure _

/-- **The view.** On a shaped store `access` raises only what its accesses raise. -/
theorem accessOperation_takes (identity : Identity) :
    (accessOperation identity).Takes store ((registry store).viewReads identity.subject)
      (accessView identity ((registry store).user (userKey identity.subject.1))
        ((registry store).workspaces identity.subject)) store := by
  unfold Registry.viewReads Registry.workspaces
  cases huser : (registry store).user (userKey identity.subject.1) with
  | none =>
    refine Takes.bind (k := 0) (readUser_takes hs _) ?_
    rw [huser]
    exact Takes.pure _
  | some user =>
    dsimp only
    by_cases hactive : user.active = true
    · rw [if_pos hactive, if_pos hactive]
      refine Takes.bind (readUser_takes hs _) ?_
      rw [huser]
      dsimp only
      rw [if_pos hactive]
      exact Takes.bind (k := 0) (workspacesOf_takes hs identity _) (Takes.pure _)
    · rw [if_neg hactive, if_neg hactive]
      refine Takes.bind (k := 0) (readUser_takes hs _) ?_
      rw [huser]
      dsimp only
      rw [if_neg hactive]
      exact Takes.pure _

theorem access_eq (faults : Faults AdmissionError) (identity : Identity) :
    access faults identity store =
      ((firstFault faults 0 ((registry store).viewReads identity.subject)).elim
        (.ok (accessView identity ((registry store).user (userKey identity.subject.1))
          ((registry store).workspaces identity.subject))) .error, store) := by
  unfold access
  rw [(accessOperation_takes hs identity).transact]
  cases firstFault faults 0 ((registry store).viewReads identity.subject) <;> rfl

end View

/-! ## Any call -/

section Call

variable [Sha256] [Casing]

/-- The result of a call that is one transaction. -/
theorem Runs.outcome {α : Type} {a : Ambient} {store : MemoryStore} {call : Call}
    {r : Except AdmissionError α × MemoryStore} (h : Runs a store call r) :
    Runs a store call (outcome r) := by
  rcases h with ⟨e, rfl⟩ | ⟨x, store', R', rfl, heffect, hcommitted⟩
  · exact Or.inl ⟨e, rfl⟩
  · exact Or.inr ⟨(), store', R', rfl, heffect, hcommitted⟩

/-! ### When a redemption commits -/

omit [Sha256] [Casing] in
theorem raiseIf_takes {refused : Bool} (h : refused = false) (e : AdmissionError)
    (store : MemoryStore) : (raiseIf refused e).Takes store 0 () store := by
  rw [h]
  exact Takes.pure ()

/-- The checks of `redeem` pass, and so does every access of its transaction. -/
structure Redeems (a : Ambient) (R : Registry) (identity : Identity) (token : String)
    (invitation : Invitation) : Prop where
  stored : R.invitation (Sha256.hexdigest token) = some invitation
  redeemable : Redeemable R a identity invitation
  reliable : firstFault a.faults 0 9 = none

/-- The end of `redeem`, from the construction of the new record on. -/
def enrol (a : Ambient) (identity : Identity) (token : String) (invitation : Invitation)
    (user : User) : Tx Unit := do
  let updated ← ofExcept (User.modelValidate (joinOf user invitation.organizationId))
  put (userPath identity.subject.1) updated.modelDump
  put (memberPath invitation.organizationId.1 identity.subject.1)
    (invitation.member identity.subject).modelDump
  put (invitationPath (Sha256.hexdigest token)) (invitation.redeem identity.subject).modelDump
  audit a identity.subject.1 "invitation_redeemed" invitation.invitationId.1

/-- A redemption whose checks pass goes on to that after five reads. -/
theorem redeemOperation_leads {store : MemoryStore} (hs : Shaped store) {a : Ambient}
    {identity : Identity} {token : String} {invitation : Invitation}
    (hstored : (registry store).invitation (Sha256.hexdigest token) = some invitation)
    (h : Checked (registry store) a identity invitation) :
    (redeemOperation a identity token).Leads store 5
      (enrol a identity token invitation ((registry store).userOf identity.subject)) store := by
  obtain ⟨inviter, hinviter, hinviterActive, hinviterAdmin⟩ := h.inviter
  obtain ⟨organization, horganization, hactive⟩ := h.organization
  have hrefused : (invitation.email.1 != Casing.lower identity.email.1 ||
      decide (invitation.expiresAt ≤ a.now) || invitation.redeemedBy.isSome || invitation.revoked ||
      !((registry store).user (userKey invitation.invitedBy.1)).any
        fun inviter => inviter.active && inviter.platformAdmin) = false := by
    rw [h.email, h.unredeemed, h.unrevoked, hinviter, Option.any_some, hinviterActive, hinviterAdmin,
      decide_eq_false (Nat.not_le.mpr h.unexpired)]
    simp
  have hadmitted : (((registry store).user (userKey identity.subject.1)).any (fun user => !user.active) ||
      (((registry store).member invitation.organizationId (userKey identity.subject.1)).map
        Membership.modelDump).isSome) = false := by
    rw [h.absent]
    have huser := h.user
    cases hfound : (registry store).user (userKey identity.subject.1) with
    | none => rfl
    | some user =>
      rw [Registry.userOf_of_some hfound] at huser
      rw [Option.any_some, huser]
      rfl
  have hopen : (!organization.active) = false := by
    rw [hactive]
    rfl
  refine Leads.bind (n := 1) (k := 4) (Takes.get _) ?_
  rw [hs.get?_invitation, hstored]
  refine Leads.bind (n := 0) (k := 4) (Takes.ofExcept invitation.modelValidate_modelDump) ?_
  refine Leads.bind (n := 1) (k := 3) (readUser_takes hs _) ?_
  refine Leads.bind (n := 1) (k := 2) (readUser_takes hs _) ?_
  refine Leads.bind (n := 1) (k := 1) (Takes.get _) ?_
  refine Leads.bind (n := 1) (k := 0) (Takes.get _) ?_
  rw [hs.get?_organization, memberPath, hs.get?_member, horganization]
  refine Leads.bind (n := 0) (k := 0) (raiseIf_takes hrefused _ _) ?_
  refine Leads.bind (n := 0) (k := 0) (Takes.ofExcept organization.modelValidate_modelDump) ?_
  refine Leads.bind (n := 0) (k := 0) (raiseIf_takes hopen _ _) ?_
  exact Leads.bind (n := 0) (k := 0) (raiseIf_takes hadmitted _ _) (Leads.refl _)

theorem redeemOperation_takes {store : MemoryStore} (hs : Shaped store) {a : Ambient}
    {identity : Identity} {token : String} {invitation : Invitation}
    (hstored : (registry store).invitation (Sha256.hexdigest token) = some invitation)
    (h : Redeemable (registry store) a identity invitation) :
    (redeemOperation a identity token).Takes store 9 ()
      ((((store.set (userPath identity.subject.1) (((registry store).userOf identity.subject).join
        invitation.organizationId h.room).modelDump).set
          (memberPath invitation.organizationId.1 identity.subject.1)
          (invitation.member identity.subject).modelDump).set
            (invitationPath (Sha256.hexdigest token))
            (invitation.redeem identity.subject).modelDump).set (auditPath a.auditHex.eventId.1)
              (auditEvent a identity.subject.1 "invitation_redeemed"
                invitation.invitationId.1).modelDump) := by
  have hvalid : User.modelValidate (joinOf ((registry store).userOf identity.subject)
      invitation.organizationId) =
        .ok (((registry store).userOf identity.subject).join invitation.organizationId h.room) := by
    rw [joinOf_eq_modelDump _ _ h.room, User.modelValidate_modelDump]
  refine (redeemOperation_leads hs hstored h.checked).takes (k := 4) ?_
  refine Takes.bind (n := 0) (k := 4) (Takes.ofExcept hvalid) ?_
  refine Takes.bind (n := 1) (k := 3) (Takes.put _ _) ?_
  refine Takes.bind (n := 1) (k := 2) (Takes.put _ _) ?_
  refine Takes.bind (n := 1) (k := 1) (Takes.put _ _) ?_
  exact Takes.put _ _

/-- A redemption commits exactly when its checks and its accesses pass. -/
theorem redeemOperation_ok_iff {store : MemoryStore} (hs : Shaped store) {a : Ambient}
    {identity : Identity} {token : String} :
    ((redeemOperation a identity token).transact a.faults store).1 = .ok () ↔
      ∃ invitation, Redeems a (registry store) identity token invitation := by
  constructor
  · intro hok
    rcases redeemOperation_runs hs a identity token with
      ⟨e, hrun⟩ | ⟨u, store', R', hrun, heffect, -⟩
    · rw [hrun] at hok
      cases hok
    · cases heffect with
      | @redeem identity token invitation hstored hredeemable =>
        refine ⟨invitation, hstored, hredeemable, ?_⟩
        rw [(redeemOperation_takes hs hstored hredeemable).transact] at hok
        cases hfault : firstFault a.faults 0 9 with
        | none => rfl
        | some e =>
          rw [hfault] at hok
          cases hok
  · rintro ⟨invitation, hstored, hredeemable, hreliable⟩
    rw [(redeemOperation_takes hs hstored hredeemable).transact, hreliable]
    rfl

theorem redeem_of_committed {a : Ambient} {identity : Identity} {token : String}
    {store store' : MemoryStore} (hs' : Shaped store')
    (h : (redeemOperation a identity token).transact a.faults store = (.ok (), store')) :
    redeem a identity token store =
      ((firstFault a.viewFaults 0 ((registry store').viewReads identity.subject)).elim
        (.ok (accessView identity ((registry store').user (userKey identity.subject.1))
          ((registry store').workspaces identity.subject))) .error, store') := by
  unfold redeem
  rw [h]
  exact access_eq hs' a.viewFaults identity

/-- **What a call does.** It raises and changes nothing, or it has its effect; then it returns,
unless it is a redemption whose view cannot be read. -/
theorem Call.run_cases {store : MemoryStore} (hs : Shaped store) (a : Ambient) (call : Call) :
    (∃ e, call.run a store = (.error e, store)) ∨
      ∃ R', Effect a (registry store) call R' ∧ Committed a R' (call.run a store).2 ∧
        ((∀ identity token, call ≠ .redeem identity token) → (call.run a store).1 = .ok ()) := by
  have hruns : Runs a store call (call.run a store) →
      (∃ e, call.run a store = (.error e, store)) ∨
        ∃ R', Effect a (registry store) call R' ∧ Committed a R' (call.run a store).2 ∧
          ((∀ identity token, call ≠ .redeem identity token) → (call.run a store).1 = .ok ()) := by
    rintro (herror | ⟨u, store', R', hrun, heffect, hcommitted⟩)
    · exact Or.inl herror
    · rw [hrun]
      exact Or.inr ⟨R', heffect, hcommitted, fun _ => rfl⟩
  cases call with
  | bootstrapOwner subject => exact hruns (bootstrapOwner_runs hs a subject)
  | createOrganization identity name =>
    exact hruns (createOrganization_runs hs a identity name).outcome
  | invite identity request => exact hruns (invite_runs hs a identity request).outcome
  | setStatus identity kind identifier request =>
    exact hruns (setStatus_runs hs a identity kind identifier request)
  | revokeInvitation identity identifier request =>
    exact hruns (revokeInvitation_runs hs a identity identifier request)
  | updateMembership identity organizationId identifier request =>
    exact hruns (updateMembership_runs hs a identity organizationId identifier request)
  | setAdministrator identity identifier request =>
    exact hruns (setAdministrator_runs hs a identity identifier request)
  | recordRejection actor reason => exact hruns (recordRejection_runs hs a actor reason)
  | redeem identity token =>
    rcases redeemOperation_runs hs a identity token with
      ⟨e, hrun⟩ | ⟨u, store', R', hrun, heffect, hcommitted⟩
    · refine Or.inl ⟨e, ?_⟩
      show Admission.outcome (Admission.redeem a identity token store) = _
      unfold Admission.redeem
      rw [hrun]
      rfl
    · refine Or.inr ⟨R', heffect, ?_, fun hnot => absurd rfl (hnot identity token)⟩
      show Committed a R' (Admission.redeem a identity token store).2
      rw [redeem_of_committed hcommitted.1 hrun]
      exact hcommitted

end Call

end ChangeOps.Admission
