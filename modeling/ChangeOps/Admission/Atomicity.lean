import ChangeOps.Admission.Invitations

/-!
# ChangeOps.Admission — what a call leaves

A call that has its effect adds one audit document, writes the records it is about and raises
the version of each that was there by one; versions only grow, so of the calls that expect one
version of one record, one succeeds. A call that raises leaves the store as it was, but for
`redeem`: it has committed before it reads the view that it returns.
-/

namespace ChangeOps.Admission

open Transaction (firstFault)

section Atomicity

variable [Sha256]

/-! ## Drawn names -/

def Event.newOrganization? (event : Event) : Option Identifier :=
  match event.call with
  | .createOrganization _ _ => some event.ambient.resourceHex.organizationId
  | _ => none

/-- What the calls have drawn is new each time. -/
structure Fresh (history : History) : Prop where
  tokens : FreshTokens history
  organizations : (history.filterMap Event.newOrganization?).Nodup
  audits : (history.map fun event => event.ambient.auditHex).Nodup

theorem Fresh.tail {event : Event} {history : History} (h : Fresh (event :: history)) :
    Fresh history := by
  refine ⟨h.tokens.tail, ?_, ?_⟩
  · have horganizations := h.organizations
    rw [List.filterMap_cons] at horganizations
    cases hnew : event.newOrganization? with
    | none =>
      rw [hnew] at horganizations
      exact horganizations
    | some id =>
      rw [hnew] at horganizations
      exact horganizations.of_cons
  · exact h.audits.of_cons

/-! ## Documents and records -/

/-- The document of a registry at a site. -/
def Registry.document (R : Registry) : Site → Option Document
  | .bootstrap => R.bootstrap
  | .user key => (R.user key).map User.modelDump
  | .organization organizationId => (R.organization organizationId).map Organization.modelDump
  | .member organizationId key => (R.member organizationId key).map Membership.modelDump
  | .invitation hash => (R.invitation hash).map Invitation.modelDump
  | .audit eventId => R.audit eventId

section Put

omit [Sha256]

variable (R : Registry)

theorem Registry.document_putUser (key : String) (user : User) :
    (R.putUser key user).document (.user key) = some user.modelDump := by
  rw [document, putUser_user, Function.update_self]
  rfl

theorem Registry.document_putOrganization (organization : Organization) :
    (R.putOrganization organization).document (.organization organization.organizationId) =
      some organization.modelDump := by
  rw [document, putOrganization_organization, Function.update_self]
  rfl

theorem Registry.document_putMember (organizationId : Identifier) (key : String)
    (member : Membership) :
    (R.putMember organizationId key member).document (.member organizationId key) =
      some member.modelDump := by
  rw [document, putMember_apply, if_pos ⟨rfl, rfl⟩]
  rfl

theorem Registry.document_putInvitation (hash : String) (invitation : Invitation) :
    (R.putInvitation hash invitation).document (.invitation hash) = some invitation.modelDump := by
  rw [document, putInvitation_invitation, Function.update_self]
  rfl

end Put

theorem Shaped.get?_path {store : MemoryStore} (hs : Shaped store) (site : Site) :
    store.get? site.path = (registry store).document site := by
  cases site with
  | bootstrap => rfl
  | user key => exact hs.get?_user key
  | organization organizationId => exact hs.get?_organization organizationId
  | member organizationId key => exact hs.get?_member organizationId key
  | invitation hash => exact hs.get?_invitation hash
  | audit eventId => rfl

/-- The version that a document carries. -/
def versionIn (document : Document) : Option Nat :=
  match document.get? "version" with
  | some (.int version) => some version
  | _ => none

/-- The document is rewritten with the next version. -/
def NextVersion (document document' : Document) : Prop :=
  ∃ version, versionIn document = some version ∧ versionIn document' = some (version + 1)

/-- The paths of the records that a call is about. -/
def Call.records (a : Ambient) (R : Registry) : Call → List String
  | .bootstrapOwner subject => [userPath subject, bootstrapPath]
  | .createOrganization _ _ => [organizationPath a.resourceHex.organizationId.1]
  | .invite _ _ => [invitationPath (Sha256.hexdigest a.token)]
  | .redeem identity token =>
    [invitationPath (Sha256.hexdigest token), userPath identity.subject.1] ++
      ((R.invitation (Sha256.hexdigest token)).map fun invitation =>
        memberPath invitation.organizationId.1 identity.subject.1).toList
  | .setStatus _ kind identifier _ => ["admission_" ++ kind ++ "/" ++ identifier]
  | .revokeInvitation _ identifier _ => [invitationPath identifier]
  | .updateMembership _ organizationId identifier _ => [membersPath organizationId identifier]
  | .setAdministrator _ identifier _ => [usersPath identifier]
  | .recordRejection _ _ => []

/-- What is at a path after a call: what was there, or a new record, or its next version. -/
def Rewritten (records : List String) (path : String) (before now : Option Document) : Prop :=
  now = before ∨ (path ∈ records ∧ ∃ document, now = some document ∧
    ∀ {document₀}, before = some document₀ → NextVersion document₀ document)

/-- One audit document more, and the records of the call written. -/
def Writes (records : List String) (store store' : MemoryStore) : Prop :=
  ∃ event : AdmissionAudit, store.get? (auditPath event.eventId.1) = none ∧
    store'.get? (auditPath event.eventId.1) = some event.modelDump ∧
    ∀ path, path ≠ auditPath event.eventId.1 →
      Rewritten records path (store.get? path) (store'.get? path)

/-! ## What an effect writes -/

omit [Sha256] in
theorem Rewritten.new {records : List String} {path : String} {document : Document}
    (h : path ∈ records) : Rewritten records path none (some document) :=
  Or.inr ⟨h, document, rfl, fun h => by cases h⟩

omit [Sha256] in
theorem Rewritten.next {records : List String} {path : String} {before document : Document}
    (h : path ∈ records) {version : Nat} (hbefore : before.get? "version" = some (.int version))
    (hnow : document.get? "version" = some (.int (version + 1))) :
    Rewritten records path (some before) (some document) := by
  refine Or.inr ⟨h, document, rfl, fun heq => ?_⟩
  rw [Option.some.injEq] at heq
  subst heq
  refine ⟨version, ?_, ?_⟩
  · rw [versionIn, hbefore]
  · rw [versionIn, hnow]

variable [Casing] {a : Ambient} {R R' : Registry} {call : Call}

theorem Effect.user_rewritten (h : Effect a R call R') (key : String) :
    Rewritten (call.records a R) (usersPath key) ((R.user key).map User.modelDump)
      ((R'.user key).map User.modelDump) := by
  rcases h.user_cases key with hsame | ⟨subject, rfl, rfl, -, hnone, hwritten⟩ |
    ⟨identity, token, invitation, hredeemable, rfl, rfl, hwritten⟩ |
    ⟨identity, request, admin, before, rfl, -, hbefore, -, hversion, hwritten⟩ |
    ⟨identity, request, admin, before, rfl, -, -, hbefore, -, hversion, hwritten⟩
  · rw [hsame]
    exact Or.inl rfl
  · rw [hnone, hwritten]
    exact Rewritten.new List.mem_cons_self
  · have hmem : usersPath (userKey identity.subject.1) ∈
        Call.records a R (.redeem identity token) :=
      List.mem_append_left _ (List.mem_cons_of_mem _ List.mem_cons_self)
    rw [hwritten]
    cases hbefore : R.user (userKey identity.subject.1) with
    | none => exact Rewritten.new hmem
    | some before =>
      refine Rewritten.next hmem before.version_modelDump ?_
      rw [User.version_modelDump]
      show some (Value.int ((R.userOf identity.subject).version + 1)) = _
      rw [Registry.userOf_of_some hbefore]
  · rw [hbefore, hwritten]
    refine Rewritten.next ?_ before.version_modelDump ?_
    · rw [Call.records, usersPath_eq]
      exact List.mem_cons_self
    · rw [User.version_modelDump, hversion]
      rfl
  · rw [hbefore, hwritten]
    exact Rewritten.next List.mem_cons_self before.version_modelDump (User.version_modelDump _)

theorem Effect.organization_rewritten (h : Effect a R call R')
    (hnew : ∀ identity name, call = .createOrganization identity name →
      R.organization a.resourceHex.organizationId = none) (organizationId : Identifier) :
    Rewritten (call.records a R) (organizationPath organizationId.1)
      ((R.organization organizationId).map Organization.modelDump)
      ((R'.organization organizationId).map Organization.modelDump) := by
  rcases h.organization_cases organizationId with hsame |
    ⟨identity, name, admin, organization, rfl, -, rfl, hwritten⟩ |
    ⟨identity, request, admin, before, rfl, -, hbefore, hversion, hwritten⟩
  · rw [hsame]
    exact Or.inl rfl
  · rw [hnew identity name rfl, hwritten]
    exact Rewritten.new List.mem_cons_self
  · rw [hbefore, hwritten]
    refine Rewritten.next ?_ before.version_modelDump ?_
    · rw [Call.records, organizationPath_eq]
      exact List.mem_cons_self
    · rw [Organization.version_modelDump, hversion]
      rfl

theorem Effect.member_rewritten (h : Effect a R call R') (organizationId : Identifier)
    (key : String) :
    Rewritten (call.records a R) (membersPath organizationId.1 key)
      ((R.member organizationId key).map Membership.modelDump)
      ((R'.member organizationId key).map Membership.modelDump) := by
  rcases h.member_cases organizationId key with hsame |
    ⟨identity, token, invitation, rfl, hstored, -, rfl, rfl, hnone, hwritten⟩ |
    ⟨identity, request, admin, before, rfl, -, hbefore, hversion, hwritten⟩ |
    ⟨identity, request, admin, before, rfl, -, hbefore, -, hversion, hwritten⟩
  · rw [hsame]
    exact Or.inl rfl
  · rw [hnone, hwritten]
    refine Rewritten.new (List.mem_append_right _ ?_)
    rw [hstored]
    exact List.mem_cons_self
  · rw [hbefore, hwritten]
    refine Rewritten.next ?_ before.version_modelDump ?_
    · rw [Call.records, organizationPath_eq]
      exact List.mem_cons_self
    · rw [Membership.version_modelDump, hversion]
      rfl
  · rw [hbefore, hwritten]
    exact Rewritten.next List.mem_cons_self before.version_modelDump (Membership.version_modelDump _)

theorem Effect.invitation_rewritten (h : Effect a R call R')
    (hnew : ∀ identity request, call = .invite identity request →
      R.invitation (Sha256.hexdigest a.token) = none) (hash : String) :
    Rewritten (call.records a R) (invitationPath hash)
      ((R.invitation hash).map Invitation.modelDump)
      ((R'.invitation hash).map Invitation.modelDump) := by
  rcases h.invitation_cases hash with hsame | ⟨identity, request, admin, email, rfl, -, rfl, hwritten⟩ |
    ⟨identity, token, before, rfl, rfl, hbefore, -, hwritten⟩ |
    ⟨identity, request, admin, before, rfl, -, hbefore, -, -, -, hwritten⟩
  · rw [hsame]
    exact Or.inl rfl
  · rw [hnew identity request rfl, hwritten]
    exact Rewritten.new List.mem_cons_self
  · rw [hbefore, hwritten]
    exact Rewritten.next (List.mem_append_left _ List.mem_cons_self) before.version_modelDump
      (Invitation.version_modelDump _)
  · rw [hbefore, hwritten]
    exact Rewritten.next List.mem_cons_self before.version_modelDump (Invitation.version_modelDump _)

theorem Effect.audit_eq (h : Effect a R call R') : R'.audit = R.audit := by
  cases h <;> rfl

omit [Casing] in
/-- A path that is no site's holds no document. -/
theorem Shaped.get?_none {store : MemoryStore} (hs : Shaped store) {path : String}
    (h : ∀ site : Site, path ≠ site.path) : store.get? path = none := by
  cases hget : store.get? path with
  | none => rfl
  | some document =>
    obtain ⟨site, hpath, -⟩ := hs path document hget
    exact absurd hpath (h site)

theorem Committed.writes {store store' : MemoryStore} (hs : Shaped store)
    (h : Effect a (registry store) call R') (hcommitted : Committed a R' store')
    (hinvitation : ∀ identity request, call = .invite identity request →
      (registry store).invitation (Sha256.hexdigest a.token) = none)
    (horganization : ∀ identity name, call = .createOrganization identity name →
      (registry store).organization a.resourceHex.organizationId = none)
    (haudit : (registry store).audit a.auditHex.eventId = none) :
    Writes (call.records a (registry store)) store store' := by
  obtain ⟨hs', event, hid, heq⟩ := hcommitted
  refine ⟨event, ?_, ?_, ?_⟩
  · rw [hid]
    exact haudit
  · rw [hid]
    show (registry store').audit a.auditHex.eventId = _
    rw [heq]
    exact Function.update_self _ _ _
  · intro path hpath
    by_cases hsite : ∃ site : Site, path = site.path
    · obtain ⟨site, rfl⟩ := hsite
      rw [hs.get?_path, hs'.get?_path, heq]
      cases site with
      | bootstrap =>
        rcases h.bootstrap_cases with hsame | ⟨subject, rfl, hnone, hwritten⟩
        · exact Or.inl hsame
        · show Rewritten _ _ (registry store).bootstrap R'.bootstrap
          rw [hnone, hwritten]
          exact Rewritten.new (List.mem_cons_of_mem _ List.mem_cons_self)
      | user key => exact h.user_rewritten key
      | organization organizationId => exact h.organization_rewritten horganization organizationId
      | member organizationId key => exact h.member_rewritten organizationId key
      | invitation hash => exact h.invitation_rewritten hinvitation hash
      | audit eventId =>
        have hne : eventId ≠ a.auditHex.eventId := by
          rintro rfl
          exact hpath (by rw [hid]; rfl)
        left
        show (R'.putAudit a.auditHex.eventId event.modelDump).audit eventId =
          (registry store).audit eventId
        rw [Registry.putAudit_audit, Function.update_of_ne hne, h.audit_eq]
    · have hnot : ∀ site : Site, path ≠ site.path := fun site hpath => hsite ⟨site, hpath⟩
      rw [hs.get?_none hnot, hs'.get?_none hnot]
      exact Or.inl rfl

/-! ## New names -/

theorem newOrganization_mem {history : History} {organizationId : Identifier}
    (h : (registry (after history)).organization organizationId ≠ none) :
    organizationId ∈ history.filterMap Event.newOrganization? := by
  induction history with
  | nil => exact absurd rfl h
  | cons event history ih =>
    have hold : (registry (after history)).organization organizationId ≠ none →
        organizationId ∈ (event :: history).filterMap Event.newOrganization? := by
      intro hsome
      rw [List.filterMap_cons]
      cases event.newOrganization? with
      | none => exact ih hsome
      | some id => exact List.mem_cons_of_mem _ (ih hsome)
    rcases after_cons event history with ⟨hsame, -⟩ | ⟨R', heffect, ⟨-, audit, -, heq⟩, -⟩
    · rw [hsame] at h
      exact hold h
    · rw [heq, Registry.putAudit_organization] at h
      rcases heffect.organization_cases organizationId with hsame |
        ⟨identity, name, admin, organization, hcall, -, hid, -⟩ |
        ⟨identity, request, admin, before, -, -, hbefore, -⟩
      · rw [hsame] at h
        exact hold h
      · rw [List.filterMap_cons, Event.newOrganization?, hcall, hid]
        exact List.mem_cons_self
      · exact hold (by rw [hbefore]; exact Option.some_ne_none _)

theorem audit_mem {history : History} {eventId : Identifier}
    (h : (registry (after history)).audit eventId ≠ none) :
    ∃ event ∈ history, event.ambient.auditHex.eventId = eventId := by
  induction history with
  | nil => exact absurd rfl h
  | cons event history ih =>
    have hold : (registry (after history)).audit eventId ≠ none →
        ∃ event' ∈ event :: history, event'.ambient.auditHex.eventId = eventId := by
      intro hsome
      obtain ⟨event', hmem, hid⟩ := ih hsome
      exact ⟨event', List.mem_cons_of_mem _ hmem, hid⟩
    rcases after_cons event history with ⟨hsame, -⟩ | ⟨R', heffect, ⟨-, audit, -, heq⟩, -⟩
    · rw [hsame] at h
      exact hold h
    · rw [heq, Registry.putAudit_audit, heffect.audit_eq, Function.update_apply] at h
      split_ifs at h with hid
      · exact ⟨event, List.mem_cons_self, hid.symm⟩
      · exact hold h

/-- **What an event leaves.** Nothing, or one audit document and its records. -/
theorem writes_cons {event : Event} {history : History} (hfresh : Fresh (event :: history)) :
    (after (event :: history) = after history ∧
      ∃ e, (event.call.run event.ambient (after history)).1 = .error e) ∨
    Writes (event.call.records event.ambient (registry (after history))) (after history)
      (after (event :: history)) := by
  rcases after_cons event history with hsame | ⟨R', heffect, hcommitted, -⟩
  · exact Or.inl hsame
  · right
    refine hcommitted.writes (shaped_after history) heffect ?_ ?_ ?_
    · intro identity request hcall
      by_contra hsome
      obtain ⟨invitation, hstored⟩ := Option.ne_none_iff_exists'.mp hsome
      exact hfresh.tokens.notMem hcall (tokenHash_mem hstored)
    · intro identity name hcall
      by_contra hsome
      have hnodup := hfresh.organizations
      rw [List.filterMap_cons, Event.newOrganization?, hcall] at hnodup
      exact (List.nodup_cons.mp hnodup).1 (newOrganization_mem hsome)
    · by_contra hsome
      obtain ⟨event', hmem, hid⟩ := audit_mem hsome
      have hnodup := hfresh.audits
      rw [List.map_cons, List.nodup_cons] at hnodup
      exact hnodup.1 (List.mem_map.mpr ⟨event', hmem, Hex.eventId_injective hid⟩)

/-! ## Versions -/

omit [Sha256] [Casing] in
/-- The version of the record at a path. -/
def versionAt (store : MemoryStore) (path : String) : Option Nat := (store.get? path).bind versionIn

omit [Sha256] [Casing] in
/-- The record that a call updates, and the version that it expects of it. -/
def Call.expects? : Call → Option (String × Nat)
  | .setStatus _ kind identifier request =>
    some ("admission_" ++ kind ++ "/" ++ identifier, request.expectedVersion)
  | .revokeInvitation _ identifier request =>
    some (invitationPath identifier, request.expectedVersion)
  | .updateMembership _ organizationId identifier request =>
    some (membersPath organizationId identifier, request.expectedVersion)
  | .setAdministrator _ identifier request => some (usersPath identifier, request.expectedVersion)
  | .bootstrapOwner _ | .createOrganization _ _ | .invite _ _ | .redeem _ _
  | .recordRejection _ _ => none

/-- Versions never fall. -/
theorem versionAt_le {event : Event} {history : History} (hfresh : Fresh (event :: history))
    {path : String} {version : Nat} (h : versionAt (after history) path = some version) :
    ∃ version', version ≤ version' ∧ versionAt (after (event :: history)) path = some version' := by
  rcases writes_cons hfresh with ⟨hsame, -⟩ | ⟨audit, hnone, -, hothers⟩
  · rw [hsame]
    exact ⟨version, le_rfl, h⟩
  · have hpath : path ≠ auditPath audit.eventId.1 := by
      rintro rfl
      rw [versionAt, hnone] at h
      cases h
    rcases hothers path hpath with hsame | ⟨-, document, hnow, hnext⟩
    · rw [versionAt, hsame]
      exact ⟨version, le_rfl, h⟩
    · unfold versionAt at h ⊢
      obtain ⟨before, hbefore, hversion⟩ := Option.bind_eq_some_iff.mp h
      obtain ⟨version₀, hversion₀, hversion₁⟩ := hnext hbefore
      rw [hversion, Option.some.injEq] at hversion₀
      refine ⟨version₀ + 1, by omega, ?_⟩
      rw [hnow]
      exact hversion₁

/-- An update that succeeds has found the version that it expects, and leaves the next one. -/
theorem Succeeds.versions {event : Event} {history : History} (h : Succeeds event history)
    {path : String} {version : Nat} (hexpects : event.call.expects? = some (path, version)) :
    versionAt (after history) path = some version ∧
      versionAt (after (event :: history)) path = some (version + 1) := by
  obtain ⟨R', heffect, hs', audit, -, heq⟩ := h.effect
  have hs := shaped_after history
  have hboth : ∀ (site : Site) (before now : Document), path = site.path →
      (registry (after history)).document site = some before →
      (R'.putAudit event.ambient.auditHex.eventId audit.modelDump).document site = some now →
      before.get? "version" = some (.int version) → now.get? "version" = some (.int (version + 1)) →
      versionAt (after history) path = some version ∧
        versionAt (after (event :: history)) path = some (version + 1) := by
    rintro site before now rfl hbefore hnow hversion hversion'
    unfold versionAt
    rw [hs.get?_path, hs'.get?_path, hbefore, heq, hnow, Option.bind_some, Option.bind_some,
      versionIn, versionIn, hversion, hversion']
    exact ⟨rfl, rfl⟩
  generalize hcall : event.call = call at heffect hexpects
  cases heffect with
  | @setOrganization identity request admin organization hadmin horganization hversion =>
    rw [Call.expects?, Option.some.injEq, Prod.mk.injEq] at hexpects
    obtain ⟨rfl, rfl⟩ := hexpects
    refine hboth (.organization organization.organizationId) organization.modelDump
      (organization.withStatus request).modelDump (organizationPath_eq _)
      (congrArg (Option.map Organization.modelDump) horganization)
      (Registry.document_putOrganization _ (organization.withStatus request)) ?_
      (Organization.version_modelDump _)
    rw [Organization.version_modelDump, hversion]
  | @setMember identity organizationId key request admin member hadmin hmember hversion =>
    rw [Call.expects?, Option.some.injEq, Prod.mk.injEq] at hexpects
    obtain ⟨rfl, rfl⟩ := hexpects
    refine hboth (.member organizationId key) member.modelDump
      (member.withStatus request).modelDump (organizationPath_eq _)
      (congrArg (Option.map Membership.modelDump) hmember)
      (Registry.document_putMember _ _ _ _) ?_ (Membership.version_modelDump _)
    rw [Membership.version_modelDump, hversion]
  | @setUser identity key request admin user hadmin huser howner hself hversion =>
    rw [Call.expects?, Option.some.injEq, Prod.mk.injEq] at hexpects
    obtain ⟨rfl, rfl⟩ := hexpects
    refine hboth (.user key) user.modelDump (user.withStatus request).modelDump (usersPath_eq _)
      (congrArg (Option.map User.modelDump) huser)
      (Registry.document_putUser _ _ _) ?_
      (User.version_modelDump _)
    rw [User.version_modelDump, hversion]
  | @revokeInvitation identity hash request admin invitation hadmin hinvitation hversion =>
    rw [Call.expects?, Option.some.injEq, Prod.mk.injEq] at hexpects
    obtain ⟨rfl, rfl⟩ := hexpects
    refine hboth (.invitation hash) invitation.modelDump invitation.revoke.modelDump rfl
      (congrArg (Option.map Invitation.modelDump) hinvitation)
      (Registry.document_putInvitation _ _ _) ?_ ?_
    · rw [Invitation.version_modelDump, hversion]
    · rw [Invitation.version_modelDump, ← hversion]
      rfl
  | @updateMembership identity organizationId key request admin user member organization hadmin
      hmember horganization hself huser hjoined hversion =>
    rw [Call.expects?, Option.some.injEq, Prod.mk.injEq] at hexpects
    obtain ⟨rfl, rfl⟩ := hexpects
    refine hboth (.member organizationId key) member.modelDump (member.update request).modelDump rfl
      (congrArg (Option.map Membership.modelDump) hmember)
      (Registry.document_putMember _ _ _ _) ?_ ?_
    · rw [Membership.version_modelDump, hversion]
    · rw [Membership.version_modelDump, ← hversion]
      rfl
  | @setAdministrator identity key request admin target hadmin howner htarget hnotOwner hactive
      hversion =>
    rw [Call.expects?, Option.some.injEq, Prod.mk.injEq] at hexpects
    obtain ⟨rfl, rfl⟩ := hexpects
    refine hboth (.user key) target.modelDump (target.appoint request.active).modelDump rfl
      (congrArg (Option.map User.modelDump) htarget)
      (Registry.document_putUser _ _ _) ?_ ?_
    · rw [User.version_modelDump, hversion]
    · rw [User.version_modelDump, ← hversion]
      rfl
  | bootstrapOwner | createOrganization | invite | redeem | recordRejection => cases hexpects

omit [Casing] in
theorem Fresh.suffix {later earlier : History} (h : Fresh (later ++ earlier)) : Fresh earlier := by
  induction later with
  | nil => exact h
  | cons event later ih => exact ih h.tail

theorem versionAt_grows {later earlier : History} (hfresh : Fresh (later ++ earlier))
    {path : String} {version : Nat} (h : versionAt (after earlier) path = some version) :
    ∃ version', version ≤ version' ∧ versionAt (after (later ++ earlier)) path = some version' := by
  induction later with
  | nil => exact ⟨version, le_rfl, h⟩
  | cons event later ih =>
    obtain ⟨middle, hle, hmiddle⟩ := ih hfresh.tail
    obtain ⟨now, hle', hnow⟩ := versionAt_le hfresh hmiddle
    exact ⟨now, le_trans hle hle', hnow⟩

/-- Of the updates that expect one version of one record, one succeeds at most. -/
theorem expects_once {later between earlier : History} {second first : Event}
    (hfresh : Fresh (later ++ second :: (between ++ first :: earlier))) {path : String}
    {version : Nat} (hfirst : first.call.expects? = some (path, version))
    (hsecond : second.call.expects? = some (path, version)) (h : Succeeds first earlier) :
    ¬ Succeeds second (between ++ first :: earlier) := by
  intro h'
  have hnow := (h.versions hfirst).2
  have hthen := (h'.versions hsecond).1
  obtain ⟨version', hle, hgrown⟩ := versionAt_grows hfresh.suffix.tail hnow
  rw [hthen, Option.some.injEq] at hgrown
  omega

/-! ## Calls that raise -/

/-- A call that succeeds leaves its writes; one that raises leaves the store as it was. -/
def Atomic (event : Event) (history : History) : Prop :=
  (Succeeds event history →
    Writes (event.call.records event.ambient (registry (after history))) (after history)
      (after (event :: history))) ∧
  ((∃ e, (event.call.run event.ambient (after history)).1 = .error e) →
    after (event :: history) = after history)

/-- A redemption passes, and a read of the view that it returns fails. -/
def LostView (event : Event) (history : History) : Prop :=
  ∃ identity token invitation, event.call = .redeem identity token ∧
    Redeems event.ambient (registry (after history)) identity token invitation ∧
    firstFault event.ambient.viewFaults 0
      (1 + 2 * (((registry (after history)).userOf identity.subject).organizationIds.length + 1)) ≠ none

/-- The result of a redemption that passes is that of its view. -/
theorem Redeems.run_eq {event : Event} {history : History} {identity : Identity} {token : String}
    {invitation : Invitation} (hcall : event.call = .redeem identity token)
    (h : Redeems event.ambient (registry (after history)) identity token invitation) :
    (event.call.run event.ambient (after history)).1 = (firstFault event.ambient.viewFaults 0
      (1 + 2 * (((registry (after history)).userOf identity.subject).organizationIds.length + 1))).elim
        (.ok ()) .error := by
  have hok := (redeemOperation_ok_iff (shaped_after history)).mpr ⟨invitation, h⟩
  rcases redeemOperation_runs (shaped_after history) event.ambient identity token with
    ⟨e, hrun⟩ | ⟨u, store', R', hrun, heffect, hcommitted⟩
  · rw [hrun] at hok
    cases hok
  · have hreads : (registry store').viewReads identity.subject =
        1 + 2 * (((registry (after history)).userOf identity.subject).organizationIds.length + 1) := by
      obtain ⟨-, audit, -, heq⟩ := hcommitted
      unfold Registry.viewReads
      rw [heq, Registry.putAudit_user]
      cases heffect with
      | @redeem identity token invitation' hstored hredeemable =>
        rw [Registry.putInvitation_user, Registry.putMember_user, Registry.putUser_user,
          Function.update_self]
        have hactive : ((registry (after history)).userOf identity.subject).active = true :=
          hredeemable.user
        have hlength : (((registry (after history)).userOf identity.subject).join
            invitation'.organizationId hredeemable.room).organizationIds.length =
              ((registry (after history)).userOf identity.subject).organizationIds.length + 1 :=
          List.length_append
        show (if ((registry (after history)).userOf identity.subject).active = true then _ else _) = _
        rw [if_pos hactive, hlength]
    have hresult : (event.call.run event.ambient (after history)).1 =
        (redeem event.ambient identity token (after history)).1.map fun _ => () := by
      rw [hcall]
      rfl
    rw [hresult, redeem_of_committed hcommitted.1 hrun, hreads]
    cases firstFault event.ambient.viewFaults 0 (1 + 2 *
      (((registry (after history)).userOf identity.subject).organizationIds.length + 1)) <;> rfl

theorem atomic_iff {event : Event} {history : History} (hfresh : Fresh (event :: history)) :
    Atomic event history ↔ ¬ LostView event history := by
  constructor
  · rintro ⟨-, hraise⟩ ⟨identity, token, invitation, hcall, hredeems, hlost⟩
    obtain ⟨e, hfault⟩ := Option.ne_none_iff_exists'.mp hlost
    have hsame := hraise ⟨e, by rw [hredeems.run_eq hcall, hfault]; rfl⟩
    have hcreated := hredeems.creates hcall
    rw [hsame, hredeems.redeemable.absent] at hcreated
    cases hcreated
  · intro hview
    constructor
    · intro hsucceeds
      rcases writes_cons hfresh with ⟨-, e, hraise⟩ | hwrites
      · rw [Succeeds, hraise] at hsucceeds
        cases hsucceeds
      · exact hwrites
    · rintro ⟨e, hraise⟩
      rcases after_cons event history with ⟨hsame, -⟩ | ⟨R', -, -, hreturns⟩
      · exact hsame
      · by_cases hredeem : ∃ identity token, event.call = .redeem identity token
        · obtain ⟨identity, token, hcall⟩ := hredeem
          rcases after_redeem hcall with hsame | ⟨invitation, hredeems⟩
          · exact hsame
          · -- the transaction has committed, so it is the view that raises
            exfalso
            refine hview ⟨identity, token, invitation, hcall, hredeems, fun hnone => ?_⟩
            rw [hredeems.run_eq hcall, hnone] at hraise
            cases hraise
        · have hsucceeds := hreturns fun identity token hcall => hredeem ⟨identity, token, hcall⟩
          rw [Succeeds, hraise] at hsucceeds
          cases hsucceeds

/-- **All or nothing.** In a run, every call leaves its writes or nothing, and of the updates that
expect one version of one record one succeeds at most, exactly if no redemption that passes loses
its view. -/
theorem atomic_once_iff {history : History} (hfresh : Fresh history) :
    ((∀ {later event earlier}, history = later ++ event :: earlier → Atomic event earlier) ∧
      ∀ {later second between first earlier path version},
        history = later ++ second :: (between ++ first :: earlier) →
        first.call.expects? = some (path, version) → second.call.expects? = some (path, version) →
        Succeeds first earlier → ¬ Succeeds second (between ++ first :: earlier)) ↔
      ∀ {later event earlier}, history = later ++ event :: earlier → ¬ LostView event earlier := by
  constructor
  · rintro ⟨hatomic, -⟩ later event earlier rfl
    exact (atomic_iff hfresh.suffix).mp (hatomic rfl)
  · intro hviews
    constructor
    · rintro later event earlier rfl
      exact (atomic_iff hfresh.suffix).mpr (hviews rfl)
    · rintro later second between first earlier path version rfl hfirst hsecond
      exact expects_once hfresh hfirst hsecond

end Atomicity

/-! ## A lost view -/

open scoped Admission.Demo

namespace Demo

/-- The storage fails once the redemption has committed. -/
def redeemLost : Event :=
  ⟨.redeem alice token,
    { ambient '3' isHexDigit_three with viewFaults := fun _ => some (.storage "unavailable") }⟩

theorem fresh : Fresh history :=
  ⟨freshTokens, List.nodup_singleton _, by decide +kernel⟩

end Demo

theorem redeemLost_not_atomic : ¬ Atomic Demo.redeemLost Demo.invited := by
  have hok : ((redeemOperation Demo.redeemLost.ambient Demo.alice Demo.token).transact
      Demo.redeemLost.ambient.faults (after Demo.invited)).1 = .ok () := by decide +kernel
  obtain ⟨invitation, hredeems⟩ := (redeemOperation_ok_iff (shaped_after Demo.invited)).mp hok
  have hfresh : Fresh (Demo.redeemLost :: Demo.invited) :=
    ⟨List.nodup_singleton _, List.nodup_singleton _, Demo.fresh.audits⟩
  have hlost : LostView Demo.redeemLost Demo.invited := by
    refine ⟨Demo.alice, Demo.token, invitation, rfl, hredeems, ?_⟩
    rw [Nat.add_comm]
    exact Option.some_ne_none _
  exact fun hatomic => (atomic_iff hfresh).mp hatomic hlost

/-- The redemption of the example is all or nothing: no access fails. -/
theorem redeem_atomic : Atomic Demo.redeem Demo.invited := by
  have heq : Demo.history = [] ++ Demo.redeem :: Demo.invited := rfl
  refine ((atomic_once_iff Demo.fresh).mpr ?_).1 heq
  rintro later event earlier heq ⟨identity, token, invitation, hcall, hredeems, hlost⟩
  have hmem : event ∈ Demo.history := by
    rw [heq]
    exact List.mem_append_right _ List.mem_cons_self
  have hreliable : ∀ event ∈ Demo.history, event.ambient.viewFaults = fun _ => none := by
    intro event hevent
    simp only [Demo.history, Demo.invited, List.mem_cons, List.not_mem_nil, or_false] at hevent
    rcases hevent with rfl | rfl | rfl | rfl <;> rfl
  rw [hreliable event hmem] at hlost
  exact hlost (Transaction.firstFault_none _ _)

end ChangeOps.Admission
