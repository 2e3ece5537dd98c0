import ChangeOps.Admission.Service
import Mathlib.Data.List.Basic
import Mathlib.Logic.Function.Basic

/-!
# ChangeOps.Admission — what the documents record

Every document of the store stands at a `Site` and is the dump of a record that belongs there
(`Shaped`). The `registry` of a store is what its documents record; writing a record at its site
changes the registry there and nowhere else.
-/

namespace ChangeOps.Admission

/-! ## Sites -/

/-- The places of the record layout. -/
inductive Site where
  | bootstrap
  | user (key : String)
  | organization (organizationId : Identifier)
  | member (organizationId : Identifier) (key : String)
  | invitation (hash : String)
  | audit (eventId : Identifier)

def Site.path : Site → String
  | .bootstrap => bootstrapPath
  | .user key => usersPath key
  | .organization organizationId => organizationPath organizationId.1
  | .member organizationId key => membersPath organizationId.1 key
  | .invitation hash => invitationPath hash
  | .audit eventId => auditPath eventId.1

/-- The character that tells the collections apart. -/
def Site.letter : Site → Char
  | .bootstrap => 'm'
  | .user _ => 'u'
  | .organization _ => 'o'
  | .member _ _ => 'o'
  | .invitation _ => 'i'
  | .audit _ => 'a'

theorem head?_drop_append (label : String) (c : Char) (h : (label.toList.drop 10).head? = some c)
    (text : String) : ((label ++ text).toList.drop 10).head? = some c := by
  cases hdrop : label.toList.drop 10 with
  | nil =>
    rw [hdrop] at h
    cases h
  | cons d rest =>
    have hle : 10 ≤ label.toList.length := by
      by_contra hlt
      rw [List.drop_eq_nil_of_le (by omega)] at hdrop
      cases hdrop
    rw [String.toList_append, List.drop_append_of_le_length hle, hdrop]
    rw [hdrop] at h
    exact h

theorem organizationPath_letter (text : String) :
    ((organizationPath text).toList.drop 10).head? = some 'o' :=
  head?_drop_append "admission_organizations/" 'o' (by decide) text

theorem Site.path_letter (site : Site) : (site.path.toList.drop 10).head? = some site.letter := by
  cases site with
  | bootstrap => decide
  | user key => exact head?_drop_append "admission_users/" 'u' (by decide) _
  | organization id => exact organizationPath_letter _
  | member id key => exact organizationPath_letter _
  | invitation hash => exact head?_drop_append "admission_invitations/" 'i' (by decide) _
  | audit id => exact head?_drop_append "admission_audit/" 'a' (by decide) _

/-- An identifier ends where the next segment of the path begins. -/
theorem members_inj {organizationId organizationId' : Identifier} {key key' : String}
    (h : organizationId.1 ++ "/members/" ++ key = organizationId'.1 ++ "/members/" ++ key') :
    organizationId = organizationId' ∧ key = key' := by
  have hsegment : ∀ (id : Identifier) (text : String),
      (id.1 ++ "/members/" ++ text).toList.takeWhile (· != '/') = id.1.toList := by
    intro id text
    have hid : ∀ c ∈ id.1.toList, (c != '/') = true := by
      intro c hc
      rw [bne_iff_ne]
      rintro rfl
      exact slash_notMem_identifier id hc
    have hlabel : "/members/".toList = '/' :: "members/".toList := by decide
    rw [String.toList_append, String.toList_append, List.append_assoc,
      List.takeWhile_append_of_pos hid, hlabel, List.cons_append, List.takeWhile_cons_of_neg (by decide),
      List.append_nil]
  have hid : organizationId = organizationId' := by
    apply Subtype.ext
    apply String.toList_injective
    rw [← hsegment organizationId key, h, hsegment organizationId' key']
  subst hid
  exact ⟨rfl, (String.append_right_inj _).mp h⟩

theorem slash_mem_members (text key : String) : '/' ∈ (text ++ "/members/" ++ key).toList := by
  rw [String.toList_append, String.toList_append]
  have hslash : '/' ∈ "/members/".toList := by decide
  exact List.mem_append_left _ (List.mem_append_right _ hslash)

theorem identifier_ne_members (organizationId : Identifier) (text key : String) :
    organizationId.1 ≠ text ++ "/members/" ++ key := by
  intro h
  apply slash_notMem_identifier organizationId
  rw [h]
  exact slash_mem_members text key

theorem Site.path_injective : Function.Injective Site.path := by
  intro x y h
  have hletter : x.letter = y.letter := by
    have hhead := congrArg (fun path : String => (path.toList.drop 10).head?) h
    simp only [path_letter, Option.some.injEq] at hhead
    exact hhead
  cases x <;> cases y <;> simp only [letter, Char.reduceEq] at hletter
  · case bootstrap.bootstrap => rfl
  · case user.user key key' => rw [(String.append_right_inj _).mp h]
  · case organization.organization id id' => rw [Subtype.ext ((String.append_right_inj _).mp h)]
  · case organization.member id id' key =>
    exact (identifier_ne_members id id'.1 key ((String.append_right_inj _).mp h)).elim
  · case member.organization id key id' =>
    exact (identifier_ne_members id' id.1 key ((String.append_right_inj _).mp h).symm).elim
  · case member.member id key id' key' =>
    obtain ⟨rfl, rfl⟩ := members_inj ((String.append_right_inj _).mp h)
    rfl
  · case invitation.invitation hash hash' => rw [(String.append_right_inj _).mp h]
  · case audit.audit id id' => rw [Subtype.ext ((String.append_right_inj _).mp h)]

theorem Site.get?_set_ne {store : MemoryStore} {site site' : Site} (hne : site' ≠ site)
    (document : Document) : (store.set site.path document).get? site'.path = store.get? site'.path :=
  Dict.get?_set_ne store document fun h => hne (Site.path_injective h)

/-! ## The registry -/

/-- What the documents of a store record. -/
@[ext]
structure Registry where
  bootstrap : Option Document
  user : String → Option User
  organization : Identifier → Option Organization
  member : Identifier → String → Option Membership
  invitation : String → Option Invitation
  audit : Identifier → Option Document

/-- A document as a model, if there is one and it is valid. -/
def readAs {α : Type} (modelValidate : Document → Except AdmissionError α) (store : MemoryStore)
    (site : Site) : Option α :=
  (store.get? site.path).bind fun document => (modelValidate document).toOption

def registry (store : MemoryStore) : Registry where
  bootstrap := store.get? Site.bootstrap.path
  user key := readAs User.modelValidate store (.user key)
  organization organizationId := readAs Organization.modelValidate store (.organization organizationId)
  member organizationId key := readAs Membership.modelValidate store (.member organizationId key)
  invitation hash := readAs Invitation.modelValidate store (.invitation hash)
  audit eventId := store.get? (Site.audit eventId).path

namespace Registry

variable (R : Registry)

@[simps]
def putBootstrap (document : Document) : Registry := { R with bootstrap := some document }

@[simps]
def putUser (key : String) (user : User) : Registry :=
  { R with user := Function.update R.user key (some user) }

@[simps]
def putOrganization (organization : Organization) : Registry :=
  { R with
    organization := Function.update R.organization organization.organizationId (some organization) }

@[simps]
def putMember (organizationId : Identifier) (key : String) (member : Membership) : Registry :=
  { R with
    member := Function.update R.member organizationId
      (Function.update (R.member organizationId) key (some member)) }

theorem putMember_apply (organizationId organizationId' : Identifier) (key key' : String)
    (member : Membership) :
    (R.putMember organizationId key member).member organizationId' key' =
      if organizationId' = organizationId ∧ key' = key then some member
      else R.member organizationId' key' := by
  rw [putMember_member]
  by_cases hid : organizationId' = organizationId
  · subst hid
    rw [Function.update_self, Function.update_apply]
    simp only [true_and]
  · rw [Function.update_of_ne hid, if_neg (fun h => hid h.1)]

@[simps]
def putInvitation (hash : String) (invitation : Invitation) : Registry :=
  { R with invitation := Function.update R.invitation hash (some invitation) }

@[simps]
def putAudit (eventId : Identifier) (document : Document) : Registry :=
  { R with audit := Function.update R.audit eventId (some document) }

end Registry

section ReadAs

variable {α : Type} {modelValidate : Document → Except AdmissionError α} {store : MemoryStore}

theorem readAs_of_get? (site : Site) {document : Document} {a : α}
    (hget : store.get? site.path = some document) (h : modelValidate document = .ok a) :
    readAs modelValidate store site = some a := by
  unfold readAs
  rw [hget, Option.bind_some, h]
  rfl

theorem readAs_set_ne {site site' : Site} (hne : site' ≠ site) (document : Document) :
    readAs modelValidate (store.set site.path document) site' = readAs modelValidate store site' := by
  unfold readAs
  rw [Site.get?_set_ne hne]

/-- A write changes what is read at one key of one collection. -/
theorem readAs_set_self {κ : Type} [DecidableEq κ] {collection : κ → Site}
    (hcollection : Function.Injective collection) (key : κ) {document : Document} {a : α}
    (h : modelValidate document = .ok a) :
    (fun key' => readAs modelValidate (store.set (collection key).path document) (collection key')) =
      Function.update (fun key' => readAs modelValidate store (collection key')) key (some a) := by
  funext key'
  by_cases hkey : key' = key
  · subst hkey
    rw [Function.update_self]
    exact readAs_of_get? _ (Dict.get?_set_self _ _ _) h
  · rw [Function.update_of_ne hkey]
    exact readAs_set_ne (fun heq => hkey (hcollection heq)) document

/-- A document is the dump of what is read from it. -/
theorem get?_eq_map_readAs {modelDump : α → Document} (hread : ∀ a, modelValidate (modelDump a) = .ok a) (site : Site)
    (hdump : ∀ document, store.get? site.path = some document → ∃ a, document = modelDump a) :
    store.get? site.path = (readAs modelValidate store site).map modelDump := by
  unfold readAs
  cases hget : store.get? site.path with
  | none => rfl
  | some document =>
    obtain ⟨a, rfl⟩ := hdump document hget
    rw [Option.bind_some, hread]
    rfl

end ReadAs

/-! ### One write -/

section Set

variable (store : MemoryStore)

theorem registry_set_bootstrap (document : Document) :
    registry (store.set Site.bootstrap.path document) = (registry store).putBootstrap document := by
  ext1
  case bootstrap => exact Dict.get?_set_self _ _ _
  all_goals
    simp only [registry, readAs_set_ne, Site.get?_set_ne, Registry.putBootstrap, ne_eq,
      reduceCtorEq, not_false_eq_true]

theorem registry_set_user (key : String) (user : User) :
    registry (store.set (Site.user key).path user.modelDump) = (registry store).putUser key user := by
  ext1
  case user => exact readAs_set_self (fun _ _ h => by cases h; rfl) key user.modelValidate_modelDump
  all_goals
    simp only [registry, readAs_set_ne, Site.get?_set_ne, Registry.putUser, ne_eq, reduceCtorEq,
      not_false_eq_true]

theorem registry_set_organization (organization : Organization) :
    registry (store.set (Site.organization organization.organizationId).path organization.modelDump) =
      (registry store).putOrganization organization := by
  ext1
  case organization =>
    exact readAs_set_self (fun _ _ h => by cases h; rfl) _ organization.modelValidate_modelDump
  all_goals
    simp only [registry, readAs_set_ne, Site.get?_set_ne, Registry.putOrganization, ne_eq,
      reduceCtorEq, not_false_eq_true]

theorem registry_set_member (organizationId : Identifier) (key : String) (member : Membership) :
    registry (store.set (Site.member organizationId key).path member.modelDump) =
      (registry store).putMember organizationId key member := by
  ext1
  case member =>
    funext organizationId' key'
    rw [Registry.putMember_member]
    by_cases h : organizationId' = organizationId
    · subst h
      rw [Function.update_self]
      exact congrFun (readAs_set_self (fun _ _ h => by cases h; rfl) key member.modelValidate_modelDump) key'
    · rw [Function.update_of_ne h]
      exact readAs_set_ne (fun heq => h (by cases heq; rfl)) _
  all_goals
    simp only [registry, readAs_set_ne, Site.get?_set_ne, Registry.putMember, ne_eq, reduceCtorEq,
      not_false_eq_true]

theorem registry_set_invitation (hash : String) (invitation : Invitation) :
    registry (store.set (Site.invitation hash).path invitation.modelDump) =
      (registry store).putInvitation hash invitation := by
  ext1
  case invitation =>
    exact readAs_set_self (fun _ _ h => by cases h; rfl) hash invitation.modelValidate_modelDump
  all_goals
    simp only [registry, readAs_set_ne, Site.get?_set_ne, Registry.putInvitation, ne_eq,
      reduceCtorEq, not_false_eq_true]

theorem registry_set_audit (eventId : Identifier) (document : Document) :
    registry (store.set (Site.audit eventId).path document) =
      (registry store).putAudit eventId document := by
  ext1
  case audit =>
    funext eventId'
    rw [Registry.putAudit_audit]
    by_cases h : eventId' = eventId
    · subst h
      rw [Function.update_self]
      exact Dict.get?_set_self _ _ _
    · rw [Function.update_of_ne h]
      exact Site.get?_set_ne (fun heq => h (by cases heq; rfl)) _
  all_goals
    simp only [registry, readAs_set_ne, Site.get?_set_ne, Registry.putAudit, ne_eq, reduceCtorEq,
      not_false_eq_true]

end Set

/-! ## Shaped stores -/

section Shaped

variable [Sha256]

/-- The record of a document belongs to its place. -/
def Site.Holds : Site → Document → Prop
  | .bootstrap, document => ∃ subject, document = bootstrapDocument subject
  | .user key, document => ∃ user : User, document = user.modelDump ∧
      ∃ subject, key = userKey subject ∧ user.subject = Text.strip subject
  | .organization organizationId, document => ∃ organization : Organization,
      document = organization.modelDump ∧ organization.organizationId = organizationId
  | .member organizationId key, document => ∃ member : Membership, document = member.modelDump ∧
      member.organizationId = organizationId ∧ userKey member.subject.1 = key
  | .invitation _, document => ∃ invitation : Invitation, document = invitation.modelDump
  | .audit eventId, document => ∃ event : AdmissionAudit, document = event.modelDump ∧
      event.eventId = eventId

/-- Every document is the dump of a record, where that record belongs. -/
def Shaped (store : MemoryStore) : Prop :=
  ∀ path document, store.get? path = some document →
    ∃ site : Site, path = site.path ∧ site.Holds document

theorem shaped_empty : Shaped .empty := by
  intro path document h
  cases h

variable {store : MemoryStore}

theorem Shaped.holds (hs : Shaped store) (site : Site) {document : Document}
    (h : store.get? site.path = some document) : site.Holds document := by
  obtain ⟨site', hpath, hholds⟩ := hs _ _ h
  rw [Site.path_injective hpath]
  exact hholds

theorem Shaped.set (hs : Shaped store) (site : Site) {document : Document}
    (h : site.Holds document) : Shaped (store.set site.path document) := by
  intro path document' hget
  by_cases hpath : path = site.path
  · subst hpath
    rw [Dict.get?_set_self, Option.some.injEq] at hget
    exact ⟨site, rfl, hget ▸ h⟩
  · rw [Dict.get?_set_ne store document hpath] at hget
    exact hs path document' hget

namespace Shaped

variable (hs : Shaped store)
include hs

theorem get?_user (key : String) :
    store.get? (usersPath key) = ((registry store).user key).map User.modelDump := by
  refine get?_eq_map_readAs User.modelValidate_modelDump (.user key) fun document hget => ?_
  obtain ⟨user, hdump, -⟩ := hs.holds _ hget
  exact ⟨user, hdump⟩

theorem get?_organization (organizationId : Identifier) :
    store.get? (organizationPath organizationId.1) =
      ((registry store).organization organizationId).map Organization.modelDump := by
  refine get?_eq_map_readAs Organization.modelValidate_modelDump
    (.organization organizationId) fun document hget => ?_
  obtain ⟨organization, hdump, -⟩ := hs.holds _ hget
  exact ⟨organization, hdump⟩

theorem get?_member (organizationId : Identifier) (key : String) :
    store.get? (membersPath organizationId.1 key) =
      ((registry store).member organizationId key).map Membership.modelDump := by
  refine get?_eq_map_readAs Membership.modelValidate_modelDump
    (.member organizationId key) fun document hget => ?_
  obtain ⟨member, hdump, -⟩ := hs.holds _ hget
  exact ⟨member, hdump⟩

theorem get?_invitation (hash : String) :
    store.get? (invitationPath hash) =
      ((registry store).invitation hash).map Invitation.modelDump := by
  refine get?_eq_map_readAs Invitation.modelValidate_modelDump (.invitation hash)
    fun document hget => ?_
  obtain ⟨invitation, hdump⟩ := hs.holds _ hget
  exact ⟨invitation, hdump⟩

/-! ### Records belong where they stand -/

theorem user_subject {key : String} {user : User} (h : (registry store).user key = some user) :
    ∃ subject, key = userKey subject ∧ user.subject = Text.strip subject := by
  have hget := hs.get?_user key
  rw [h, Option.map_some] at hget
  obtain ⟨user', hdump, hsubject⟩ := hs.holds (.user key) hget
  have heq := user.modelValidate_modelDump
  rw [hdump, user'.modelValidate_modelDump, Except.ok.injEq] at heq
  exact heq ▸ hsubject

theorem organization_id {organizationId : Identifier} {organization : Organization}
    (h : (registry store).organization organizationId = some organization) :
    organization.organizationId = organizationId := by
  have hget := hs.get?_organization organizationId
  rw [h, Option.map_some] at hget
  obtain ⟨organization', hdump, hid⟩ := hs.holds (.organization organizationId) hget
  have heq := organization.modelValidate_modelDump
  rw [hdump, organization'.modelValidate_modelDump, Except.ok.injEq] at heq
  exact heq ▸ hid

theorem member_ids {organizationId : Identifier} {key : String} {member : Membership}
    (h : (registry store).member organizationId key = some member) :
    member.organizationId = organizationId ∧ userKey member.subject.1 = key := by
  have hget := hs.get?_member organizationId key
  rw [h, Option.map_some] at hget
  obtain ⟨member', hdump, hids⟩ := hs.holds (.member organizationId key) hget
  have heq := member.modelValidate_modelDump
  rw [hdump, member'.modelValidate_modelDump, Except.ok.injEq] at heq
  exact heq ▸ hids

/-- What stands below `admission_organizations/`. -/
theorem under_organizations {text : String} {document : Document}
    (hget : store.get? (organizationPath text) = some document) :
    (∃ organization : Organization, text = organization.organizationId.1 ∧
      document = organization.modelDump ∧
      (registry store).organization organization.organizationId = some organization) ∨
    ∃ organizationId key, ∃ member : Membership, text = organizationId.1 ++ "/members/" ++ key ∧
      document = member.modelDump ∧ (registry store).member organizationId key = some member := by
  obtain ⟨site, hpath, hholds⟩ := hs _ _ hget
  have hletter : site.letter = 'o' := by
    have hhead := Site.path_letter site
    rw [← hpath, organizationPath_letter, Option.some.injEq] at hhead
    exact hhead.symm
  cases site <;> simp only [Site.letter, Char.reduceEq] at hletter
  case organization id =>
    obtain ⟨organization, rfl, rfl⟩ := hholds
    have htext := (String.append_right_inj _).mp hpath
    subst htext
    exact Or.inl ⟨organization, rfl, rfl, readAs_of_get? (.organization _) hget
      organization.modelValidate_modelDump⟩
  case member id key =>
    obtain ⟨member, rfl, -⟩ := hholds
    have htext := (String.append_right_inj _).mp hpath
    subst htext
    exact Or.inr ⟨id, key, member, rfl, rfl, readAs_of_get? (.member id key) hget
      member.modelValidate_modelDump⟩

end Shaped

end Shaped

end ChangeOps.Admission
