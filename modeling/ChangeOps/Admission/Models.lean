import ChangeOps.Workflow.Models
import ChangeOps.Lib.Dict

/-!
# ChangeOps.Admission — the admission records

`control_api/admission/models.py`. The store keeps documents, which are dictionaries; a model is
what `model_validate` makes of one. Constructing a model from keyword arguments validates the
dictionary of the arguments, so each model has one `modelValidate`, with the defaults in it, and
one `modelDump`, which it reads back.

An instant is kept as the instant that its JSON text stands for. The lax conversions of pydantic
between types are left out: the documents hold what the service has dumped.
-/

namespace ChangeOps.Admission

/-- What the calls raise. -/
inductive AdmissionError where
  /-- `ControlApiError`. -/
  | controlApi (code message : String) (statusCode : Nat)
  | validation (message : String)
  | key (name : String)
  /-- `OverflowError`. -/
  | overflow
  /-- What the storage raises when an access fails. -/
  | storage (message : String)
deriving DecidableEq, Repr

/-! ## Checked texts -/

def isIdentifierChar (c : Char) : Bool := c.isAlphanum || c == '_' || c == '-'

/-- The pattern of `Identifier`: `^[A-Za-z0-9][A-Za-z0-9_-]{0,127}$`. -/
def isIdentifier (text : String) : Bool :=
  match text.toList with
  | [] => false
  | first :: rest => first.isAlphanum && decide (rest.length ≤ 127) && rest.all isIdentifierChar

abbrev Identifier := { text : String // isIdentifier text = true }

/-- The pattern of `Email`: `^[^\s@]+@[^\s@]+\.[^\s@]+$`, and its length. -/
def isEmail (text : String) : Bool :=
  let chars := text.toList
  let domain := (chars.dropWhile (· != '@')).drop 1
  decide (3 ≤ text.length) && decide (text.length ≤ 254) &&
    chars.all (fun c => !isWhiteSpace c) && !(chars.takeWhile (· != '@')).isEmpty &&
    chars.contains '@' && !domain.contains '@' && (domain.drop 1).dropLast.contains '.'

abbrev Email := { text : String // isEmail text = true }

/-- A text without blanks around it. -/
abbrev Text := { text : String // stripWhitespace text = text }

/-- `str_strip_whitespace`. -/
def Text.strip (text : String) : Text := ⟨stripWhitespace text, stripWhitespace_idem text⟩

theorem Text.strip_self (text : Text) : Text.strip text.1 = text := Subtype.ext text.2

/-- `str_strip_whitespace`, then the pattern. -/
def Identifier.validate (text : String) : Except AdmissionError Identifier :=
  if h : isIdentifier (stripWhitespace text) = true then .ok ⟨stripWhitespace text, h⟩
  else .error (.validation "String should match pattern '^[A-Za-z0-9][A-Za-z0-9_-]\x7b0,127\x7d$'")

def Email.validate (text : String) : Except AdmissionError Email :=
  if h : isEmail (stripWhitespace text) = true then .ok ⟨stripWhitespace text, h⟩
  else .error (.validation "String should match pattern '^[^\\s@]+@[^\\s@]+\\.[^\\s@]+$'")

theorem stripWhitespace_of_all {text : String} (h : text.toList.all (fun c => !isWhiteSpace c) = true) :
    stripWhitespace text = text := by
  have hfront : text.toList.dropWhile isWhiteSpace = text.toList := by
    cases htext : text.toList with
    | nil => rfl
    | cons c rest =>
      rw [htext, List.all_cons, Bool.and_eq_true, Bool.not_eq_true'] at h
      rw [List.dropWhile_cons, h.1]
      rfl
  unfold stripWhitespace
  rw [hfront, List.rdropWhile_eq_self_iff.mpr, String.ofList_toList]
  intro hne
  have hlast := List.all_eq_true.mp h _ (List.getLast_mem hne)
  rw [Bool.not_eq_true'] at hlast
  rw [hlast]
  exact Bool.false_ne_true

theorem isAlphanum_iff (c : Char) : c.isAlphanum = true ↔ (48 ≤ c.toNat ∧ c.toNat ≤ 57) ∨
    (65 ≤ c.toNat ∧ c.toNat ≤ 90) ∨ (97 ≤ c.toNat ∧ c.toNat ≤ 122) := by
  change ((decide (c.val ≥ 65 ∧ c.val ≤ 90) ||
    (decide (c.val ≥ 97) && decide (c.val ≤ 122))) ||
      (decide (c.val ≥ 48) && decide (c.val ≤ 57))) = true ↔ _
  simp only [Bool.or_eq_true, Bool.and_eq_true, decide_eq_true_eq, ge_iff_le,
    UInt32.le_iff_toNat_le]
  change ((65 ≤ c.toNat ∧ c.toNat ≤ 90) ∨ (97 ≤ c.toNat ∧ c.toNat ≤ 122)) ∨
    (48 ≤ c.toNat ∧ c.toNat ≤ 57) ↔ _
  omega

theorem not_isWhiteSpace_of_isAlphanum {c : Char} (h : c.isAlphanum = true) : isWhiteSpace c = false := by
  have hrange := (isAlphanum_iff c).mp h
  unfold isWhiteSpace
  simp only [Bool.or_eq_false_iff, Bool.and_eq_false_iff, decide_eq_false_iff_not, beq_eq_false_iff_ne]
  omega

/-- The characters of an identifier. -/
theorem isIdentifier_all {text : String} (h : isIdentifier text = true) :
    text.toList.all isIdentifierChar = true := by
  unfold isIdentifier at h
  cases htext : text.toList with
  | nil => rfl
  | cons first rest =>
    rw [htext] at h
    simp only [Bool.and_eq_true] at h
    rw [List.all_cons, h.2, isIdentifierChar, h.1.1]
    rfl

theorem stripWhitespace_identifier (id : Identifier) : stripWhitespace id.1 = id.1 := by
  refine stripWhitespace_of_all (List.all_eq_true.mpr fun c hc => ?_)
  have hchar := List.all_eq_true.mp (isIdentifier_all id.2) c hc
  simp only [isIdentifierChar, Bool.or_eq_true, beq_iff_eq] at hchar
  rw [Bool.not_eq_true']
  rcases hchar with (halnum | rfl) | rfl
  · exact not_isWhiteSpace_of_isAlphanum halnum
  · rfl
  · rfl

theorem stripWhitespace_email (email : Email) : stripWhitespace email.1 = email.1 := by
  have h := email.2
  unfold isEmail at h
  simp only [Bool.and_eq_true] at h
  exact stripWhitespace_of_all h.1.1.1.1.2

/-- An identifier is one segment of a path. -/
theorem slash_notMem_identifier (id : Identifier) : '/' ∉ id.1.toList := by
  intro hmem
  have h := List.all_eq_true.mp (isIdentifier_all id.2) _ hmem
  revert h
  decide

theorem Identifier.validate_self (id : Identifier) : Identifier.validate id.1 = .ok id := by
  unfold validate
  simp only [stripWhitespace_identifier]
  rw [dif_pos id.2]

theorem Email.validate_self (email : Email) : Email.validate email.1 = .ok email := by
  unfold validate
  simp only [stripWhitespace_email]
  rw [dif_pos email.2]

/-! ### Drawn identifiers -/

/-- A digit, or a letter from `a` to `f`. -/
def isHexDigit (c : Char) : Bool :=
  (decide (48 ≤ c.toNat) && decide (c.toNat ≤ 57)) || (decide (97 ≤ c.toNat) && decide (c.toNat ≤ 102))

/-- The text of `uuid4().hex`. -/
abbrev Hex := { text : String // text.length = 32 ∧ text.toList.all isHexDigit = true }

theorem isIdentifierChar_of_isHexDigit {c : Char} (h : isHexDigit c = true) :
    isIdentifierChar c = true := by
  unfold isHexDigit at h
  simp only [Bool.or_eq_true, Bool.and_eq_true, decide_eq_true_eq] at h
  have halnum : c.isAlphanum = true := (isAlphanum_iff c).mpr (by omega)
  rw [isIdentifierChar, halnum]
  rfl

/-- A label in front of a drawn text: `f"{label}{uuid4().hex}"`. -/
theorem isIdentifier_append {label : String} (hlabel : isIdentifier label = true)
    (hlength : label.length ≤ 96) (hex : Hex) : isIdentifier (label ++ hex.1) = true := by
  unfold isIdentifier at hlabel ⊢
  rw [String.toList_append]
  cases htext : label.toList with
  | nil =>
    rw [htext] at hlabel
    cases hlabel
  | cons first rest =>
    rw [htext] at hlabel
    simp only [Bool.and_eq_true, decide_eq_true_eq] at hlabel
    have hrest : rest.length + 1 ≤ 96 := by
      rw [← List.length_cons (a := first), ← htext, String.length_toList]
      exact hlength
    have hhex : hex.1.toList.length = 32 := by rw [String.length_toList, hex.2.1]
    have hchars : (rest ++ hex.1.toList).all isIdentifierChar = true := by
      rw [List.all_append, hlabel.2, Bool.true_and]
      exact List.all_eq_true.mpr fun c hc =>
        isIdentifierChar_of_isHexDigit (List.all_eq_true.mp hex.2.2 c hc)
    show (first.isAlphanum && decide ((rest ++ hex.1.toList).length ≤ 127) &&
      (rest ++ hex.1.toList).all isIdentifierChar) = true
    rw [hlabel.1.1, hchars, List.length_append, hhex, decide_eq_true (by omega)]
    rfl

/-- `f"access_{uuid4().hex}"`. -/
def Hex.eventId (hex : Hex) : Identifier :=
  ⟨"access_" ++ hex.1, isIdentifier_append (by decide) (by decide) hex⟩

/-- `f"org_{uuid4().hex}"`. -/
def Hex.organizationId (hex : Hex) : Identifier :=
  ⟨"org_" ++ hex.1, isIdentifier_append (by decide) (by decide) hex⟩

/-- `f"invite_{uuid4().hex}"`. -/
def Hex.invitationId (hex : Hex) : Identifier :=
  ⟨"invite_" ++ hex.1, isIdentifier_append (by decide) (by decide) hex⟩

theorem Hex.eventId_injective : Function.Injective Hex.eventId := by
  intro x y h
  exact Subtype.ext ((String.append_right_inj _).mp (congrArg Subtype.val h))

theorem Hex.organizationId_injective : Function.Injective Hex.organizationId := by
  intro x y h
  exact Subtype.ext ((String.append_right_inj _).mp (congrArg Subtype.val h))

/-! ## Documents -/

/-- What a field of a stored document holds. -/
inductive Value where
  | null
  | bool (b : Bool)
  | int (n : Nat)
  | str (s : String)
  | strs (l : List String)
  | instant (t : Time)
deriving DecidableEq

abbrev Document := Dict String Value

/-- The dictionary of some keyword arguments. -/
def ofFields (fields : List (String × Value)) : Document :=
  fields.foldl (fun document field => document.set field.1 field.2) .empty

/-! ### The fields as pydantic reads them -/

/-- `extra="forbid"`. -/
def forbidExtra (document : Document) (fields : List String) : Except AdmissionError Unit :=
  if document.entries.all fun entry => fields.contains entry.1 then .ok ()
  else .error (.validation "Extra inputs are not permitted")

/-- `str`. -/
def text (document : Document) (field : String) : Except AdmissionError Text :=
  match document.get? field with
  | some (.str s) => .ok (Text.strip s)
  | some _ => .error (.validation "Input should be a valid string")
  | none => .error (.validation "Field required")

/-- `str | None = None`. -/
def optText (document : Document) (field : String) : Except AdmissionError (Option Text) :=
  match document.get? field with
  | some (.str s) => .ok (some (Text.strip s))
  | some .null | none => .ok none
  | some _ => .error (.validation "Input should be a valid string")

/-- `bool = default`. -/
def flag (document : Document) (field : String) (default : Bool) : Except AdmissionError Bool :=
  match document.get? field with
  | some (.bool b) => .ok b
  | some _ => .error (.validation "Input should be a valid boolean")
  | none => .ok default

/-- `version: int = Field(default=1, ge=1)`. -/
def versionOf (document : Document) : Except AdmissionError Nat :=
  match document.get? "version" with
  | some (.int n) => .ok n
  | some _ => .error (.validation "Input should be a valid integer")
  | none => .ok 1

/-- `tuple[Identifier, ...] = ()`. -/
def identifiers (document : Document) (field : String) : Except AdmissionError (List Identifier) :=
  match document.get? field with
  | some (.strs l) => l.mapM Identifier.validate
  | some _ => .error (.validation "Input should be a valid tuple")
  | none => .ok []

/-- `AwareDatetime`. -/
def instant (document : Document) (field : String) : Except AdmissionError Time :=
  match document.get? field with
  | some (.instant t) => .ok t
  | some _ => .error (.validation "Input should be a valid datetime")
  | none => .error (.validation "Field required")

/-! ## Models -/

inductive Role where
  | ORGANIZATION_ADMIN | REQUESTER | APPROVER | AUDITOR
deriving DecidableEq, Repr

def Role.value : Role → String
  | .ORGANIZATION_ADMIN => "organization_admin"
  | .REQUESTER => "requester"
  | .APPROVER => "approver"
  | .AUDITOR => "auditor"

/-- `Role(text)`. -/
def Role.ofValue (text : String) : Except AdmissionError Role :=
  if text = "organization_admin" then .ok .ORGANIZATION_ADMIN
  else if text = "requester" then .ok .REQUESTER
  else if text = "approver" then .ok .APPROVER
  else if text = "auditor" then .ok .AUDITOR
  else .error (.validation
    "Input should be 'organization_admin', 'requester', 'approver' or 'auditor'")

def roleOf (document : Document) (field : String) : Except AdmissionError Role :=
  match document.get? field with
  | some (.str s) => Role.ofValue s
  | some _ => .error (.validation "Input should be a valid string")
  | none => .error (.validation "Field required")

/-- The verified caller. -/
structure Identity where
  subject : Text
  email : Email
  mfa : Bool
  subject_length : 1 ≤ subject.1.length ∧ subject.1.length ≤ 128

structure User where
  subject : Text
  active : Bool
  platformAdmin : Bool
  owner : Bool
  organizationIds : List Identifier
  version : Nat
  organizationIds_le : organizationIds.length ≤ 50
  version_pos : 1 ≤ version

def User.modelDump (user : User) : Document :=
  ofFields [("subject", .str user.subject.1), ("active", .bool user.active),
    ("platform_admin", .bool user.platformAdmin), ("owner", .bool user.owner),
    ("organization_ids", .strs (user.organizationIds.map (·.1))), ("version", .int user.version)]

def User.modelValidate (document : Document) : Except AdmissionError User := do
  forbidExtra document
    ["subject", "active", "platform_admin", "owner", "organization_ids", "version"]
  let subject ← text document "subject"
  let active ← flag document "active" true
  let platformAdmin ← flag document "platform_admin" false
  let owner ← flag document "owner" false
  let organizationIds ← identifiers document "organization_ids"
  let version ← versionOf document
  if hle : organizationIds.length ≤ 50 then
    if hpos : 1 ≤ version then
      return ⟨subject, active, platformAdmin, owner, organizationIds, version, hle, hpos⟩
    else .error (.validation "Input should be greater than or equal to 1")
  else .error (.validation "Tuple should have at most 50 items after validation")

structure Organization where
  organizationId : Identifier
  name : Text
  active : Bool
  version : Nat
  name_length : 2 ≤ name.1.length ∧ name.1.length ≤ 120
  version_pos : 1 ≤ version

def identifier (document : Document) (field : String) : Except AdmissionError Identifier := do
  Identifier.validate (← text document field).1

def Organization.modelDump (organization : Organization) : Document :=
  ofFields [("organization_id", .str organization.organizationId.1),
    ("name", .str organization.name.1), ("active", .bool organization.active),
    ("version", .int organization.version)]

def Organization.modelValidate (document : Document) : Except AdmissionError Organization := do
  forbidExtra document ["organization_id", "name", "active", "version"]
  let organizationId ← identifier document "organization_id"
  let name ← text document "name"
  let active ← flag document "active" true
  let version ← versionOf document
  if hmin : 2 ≤ name.1.length then
    if hmax : name.1.length ≤ 120 then
      if hpos : 1 ≤ version then
        return ⟨organizationId, name, active, version, ⟨hmin, hmax⟩, hpos⟩
      else .error (.validation "Input should be greater than or equal to 1")
    else .error (.validation "String should have at most 120 characters")
  else .error (.validation "String should have at least 2 characters")

structure Membership where
  subject : Text
  organizationId : Identifier
  role : Role
  active : Bool
  version : Nat
  version_pos : 1 ≤ version

def Membership.modelDump (membership : Membership) : Document :=
  ofFields [("subject", .str membership.subject.1),
    ("organization_id", .str membership.organizationId.1), ("role", .str membership.role.value),
    ("active", .bool membership.active), ("version", .int membership.version)]

def Membership.modelValidate (document : Document) : Except AdmissionError Membership := do
  forbidExtra document ["subject", "organization_id", "role", "active", "version"]
  let subject ← text document "subject"
  let organizationId ← identifier document "organization_id"
  let role ← roleOf document "role"
  let active ← flag document "active" true
  let version ← versionOf document
  if hpos : 1 ≤ version then return ⟨subject, organizationId, role, active, version, hpos⟩
  else .error (.validation "Input should be greater than or equal to 1")

structure Invitation where
  invitationId : Identifier
  email : Email
  organizationId : Identifier
  role : Role
  invitedBy : Text
  expiresAt : Time
  redeemedBy : Option Text
  revoked : Bool
  version : Nat
  version_pos : 1 ≤ version

def Invitation.modelDump (invitation : Invitation) : Document :=
  ofFields [("invitation_id", .str invitation.invitationId.1), ("email", .str invitation.email.1),
    ("organization_id", .str invitation.organizationId.1), ("role", .str invitation.role.value),
    ("invited_by", .str invitation.invitedBy.1), ("expires_at", .instant invitation.expiresAt),
    ("redeemed_by", invitation.redeemedBy.elim .null fun subject => .str subject.1),
    ("revoked", .bool invitation.revoked), ("version", .int invitation.version)]

def Invitation.modelValidate (document : Document) : Except AdmissionError Invitation := do
  forbidExtra document ["invitation_id", "email", "organization_id", "role", "invited_by",
    "expires_at", "redeemed_by", "revoked", "version"]
  let invitationId ← identifier document "invitation_id"
  let email ← Email.validate (← text document "email").1
  let organizationId ← identifier document "organization_id"
  let role ← roleOf document "role"
  let invitedBy ← text document "invited_by"
  let expiresAt ← instant document "expires_at"
  let redeemedBy ← optText document "redeemed_by"
  let revoked ← flag document "revoked" false
  let version ← versionOf document
  if hpos : 1 ≤ version then
    return ⟨invitationId, email, organizationId, role, invitedBy, expiresAt, redeemedBy, revoked,
      version, hpos⟩
  else .error (.validation "Input should be greater than or equal to 1")

structure AdmissionAudit where
  eventId : Identifier
  actor : Text
  action : Text
  resourceId : Text
  occurredAt : Time

def AdmissionAudit.modelDump (event : AdmissionAudit) : Document :=
  ofFields [("event_id", .str event.eventId.1), ("actor", .str event.actor.1),
    ("action", .str event.action.1), ("resource_id", .str event.resourceId.1),
    ("occurred_at", .instant event.occurredAt)]

/-! ### Requests -/

structure InvitationCreate where
  email : Email
  organizationId : Identifier
  role : Role

structure StatusUpdate where
  active : Bool
  expectedVersion : Nat
  expectedVersion_pos : 1 ≤ expectedVersion

structure InvitationRevoke where
  expectedVersion : Nat
  expectedVersion_pos : 1 ≤ expectedVersion

structure MembershipUpdate extends StatusUpdate where
  role : Role

/-! ## A dumped model is read back -/

@[simp] theorem Except.ok_bind {α β ε : Type} (a : α) (f : α → Except ε β) :
    (Except.ok a >>= f) = f a := rfl

theorem mapM_validate (ids : List Identifier) :
    ids.unattach.mapM Identifier.validate = .ok ids := by
  induction ids with
  | nil => rfl
  | cons id ids ih =>
    rw [List.unattach_cons, List.mapM_cons, Identifier.validate_self, ih]
    rfl

theorem User.modelValidate_modelDump (user : User) :
    User.modelValidate user.modelDump = .ok user := by
  have hextra : forbidExtra user.modelDump ["subject", "active", "platform_admin", "owner",
      "organization_ids", "version"] = .ok () := by
    simp [forbidExtra, modelDump, ofFields, Dict.set, Dict.put, Dict.empty]
  have hids : identifiers user.modelDump "organization_ids" = .ok user.organizationIds := by
    simp [identifiers, modelDump, ofFields, Dict.get?_set, mapM_validate]
  have hsubject : text user.modelDump "subject" = .ok user.subject := by
    simp [text, modelDump, ofFields, Dict.get?_set, Text.strip_self]
  have hactive : flag user.modelDump "active" true = .ok user.active := by
    simp [flag, modelDump, ofFields, Dict.get?_set]
  have hadmin : flag user.modelDump "platform_admin" false = .ok user.platformAdmin := by
    simp [flag, modelDump, ofFields, Dict.get?_set]
  have howner : flag user.modelDump "owner" false = .ok user.owner := by
    simp [flag, modelDump, ofFields, Dict.get?_set]
  have hversion : versionOf user.modelDump = .ok user.version := by
    simp [versionOf, modelDump, ofFields]
  unfold modelValidate
  rw [hextra, hsubject, hactive, hadmin, howner, hids, hversion]
  simp only [Except.ok_bind, dif_pos user.organizationIds_le, dif_pos user.version_pos]
  rfl

theorem Organization.modelValidate_modelDump (organization : Organization) :
    Organization.modelValidate organization.modelDump = .ok organization := by
  have hextra : forbidExtra organization.modelDump ["organization_id", "name", "active",
      "version"] = .ok () := by
    simp [forbidExtra, modelDump, ofFields, Dict.set, Dict.put, Dict.empty]
  have hid : identifier organization.modelDump "organization_id" = .ok organization.organizationId := by
    simp [identifier, text, modelDump, ofFields, Dict.get?_set, Text.strip,
      stripWhitespace_identifier, Identifier.validate_self]
  have hname : text organization.modelDump "name" = .ok organization.name := by
    simp [text, modelDump, ofFields, Dict.get?_set, Text.strip_self]
  have hactive : flag organization.modelDump "active" true = .ok organization.active := by
    simp [flag, modelDump, ofFields, Dict.get?_set]
  have hversion : versionOf organization.modelDump = .ok organization.version := by
    simp [versionOf, modelDump, ofFields]
  unfold modelValidate
  rw [hextra, hid, hname, hactive, hversion]
  simp only [Except.ok_bind, dif_pos organization.name_length.1, dif_pos organization.name_length.2,
    dif_pos organization.version_pos]
  rfl

theorem Role.ofValue_value (role : Role) : Role.ofValue role.value = .ok role := by
  cases role <;> decide

theorem Membership.modelValidate_modelDump (membership : Membership) :
    Membership.modelValidate membership.modelDump = .ok membership := by
  have hextra : forbidExtra membership.modelDump ["subject", "organization_id", "role", "active",
      "version"] = .ok () := by
    simp [forbidExtra, modelDump, ofFields, Dict.set, Dict.put, Dict.empty]
  have hsubject : text membership.modelDump "subject" = .ok membership.subject := by
    simp [text, modelDump, ofFields, Dict.get?_set, Text.strip_self]
  have hid : identifier membership.modelDump "organization_id" = .ok membership.organizationId := by
    simp [identifier, text, modelDump, ofFields, Dict.get?_set, Text.strip,
      stripWhitespace_identifier, Identifier.validate_self]
  have hrole : roleOf membership.modelDump "role" = .ok membership.role := by
    simp [roleOf, modelDump, ofFields, Dict.get?_set, Role.ofValue_value]
  have hactive : flag membership.modelDump "active" true = .ok membership.active := by
    simp [flag, modelDump, ofFields, Dict.get?_set]
  have hversion : versionOf membership.modelDump = .ok membership.version := by
    simp [versionOf, modelDump, ofFields]
  unfold modelValidate
  rw [hextra, hsubject, hid, hrole, hactive, hversion]
  simp only [Except.ok_bind, dif_pos membership.version_pos]
  rfl

theorem Invitation.modelValidate_modelDump (invitation : Invitation) :
    Invitation.modelValidate invitation.modelDump = .ok invitation := by
  have hextra : forbidExtra invitation.modelDump ["invitation_id", "email", "organization_id",
      "role", "invited_by", "expires_at", "redeemed_by", "revoked", "version"] = .ok () := by
    simp [forbidExtra, modelDump, ofFields, Dict.set, Dict.put, Dict.empty]
  have hid : identifier invitation.modelDump "invitation_id" = .ok invitation.invitationId := by
    simp [identifier, text, modelDump, ofFields, Dict.get?_set, Text.strip,
      stripWhitespace_identifier, Identifier.validate_self]
  have hemailText : text invitation.modelDump "email" = .ok (Text.strip invitation.email.1) := by
    simp [text, modelDump, ofFields, Dict.get?_set]
  have hemail : Email.validate (Text.strip invitation.email.1).1 = .ok invitation.email := by
    simp only [Text.strip, stripWhitespace_email, Email.validate_self]
  have horganization : identifier invitation.modelDump "organization_id" =
      .ok invitation.organizationId := by
    simp [identifier, text, modelDump, ofFields, Dict.get?_set, Text.strip,
      stripWhitespace_identifier, Identifier.validate_self]
  have hrole : roleOf invitation.modelDump "role" = .ok invitation.role := by
    simp [roleOf, modelDump, ofFields, Dict.get?_set, Role.ofValue_value]
  have hinvitedBy : text invitation.modelDump "invited_by" = .ok invitation.invitedBy := by
    simp [text, modelDump, ofFields, Dict.get?_set, Text.strip_self]
  have hexpires : instant invitation.modelDump "expires_at" = .ok invitation.expiresAt := by
    simp [instant, modelDump, ofFields, Dict.get?_set]
  have hredeemed : optText invitation.modelDump "redeemed_by" = .ok invitation.redeemedBy := by
    cases h : invitation.redeemedBy <;>
      simp [optText, modelDump, ofFields, Dict.get?_set, h, Text.strip_self]
  have hrevoked : flag invitation.modelDump "revoked" false = .ok invitation.revoked := by
    simp [flag, modelDump, ofFields, Dict.get?_set]
  have hversion : versionOf invitation.modelDump = .ok invitation.version := by
    simp [versionOf, modelDump, ofFields]
  unfold modelValidate
  rw [hextra, hid, hemailText, horganization, hrole, hinvitedBy, hexpires, hredeemed, hrevoked,
    hversion]
  simp only [Except.ok_bind, hemail, dif_pos invitation.version_pos]
  rfl

/-! ## What validation reads -/

theorem Except.bind_eq_ok {α β ε : Type} {r : Except ε α} {f : α → Except ε β} {b : β}
    (h : (r >>= f) = .ok b) : ∃ a, r = .ok a ∧ f a = .ok b := by
  cases r with
  | error e => cases h
  | ok a => exact ⟨a, rfl, h⟩

theorem Organization.id_of_modelValidate {document : Document} {organization : Organization}
    (h : Organization.modelValidate document = .ok organization) :
    identifier document "organization_id" = .ok organization.organizationId ∧
      flag document "active" true = .ok organization.active ∧
      versionOf document = .ok organization.version := by
  unfold modelValidate at h
  obtain ⟨-, -, h⟩ := Except.bind_eq_ok h
  obtain ⟨organizationId, hid, h⟩ := Except.bind_eq_ok h
  obtain ⟨name, -, h⟩ := Except.bind_eq_ok h
  obtain ⟨active, hactive, h⟩ := Except.bind_eq_ok h
  obtain ⟨version, hversion, h⟩ := Except.bind_eq_ok h
  split_ifs at h
  cases h
  exact ⟨hid, hactive, hversion⟩

/-! ### The raw update of `set_status` -/

theorem StatusUpdate.next_pos (request : StatusUpdate) : 1 ≤ request.expectedVersion + 1 :=
  Nat.le_add_left 1 request.expectedVersion

def User.withStatus (user : User) (request : StatusUpdate) : User :=
  { user with
    active := request.active
    version := request.expectedVersion + 1
    version_pos := request.next_pos }

def Organization.withStatus (organization : Organization) (request : StatusUpdate) : Organization :=
  { organization with
    active := request.active
    version := request.expectedVersion + 1
    version_pos := request.next_pos }

def Membership.withStatus (member : Membership) (request : StatusUpdate) : Membership :=
  { member with
    active := request.active
    version := request.expectedVersion + 1
    version_pos := request.next_pos }

/-- `{**document, "active": ..., "version": expected_version + 1}`. -/
def setStatusOf (document : Document) (request : StatusUpdate) : Document :=
  (document.set "active" (.bool request.active)).set "version" (.int (request.expectedVersion + 1))

theorem User.setStatusOf_modelDump (user : User) (request : StatusUpdate) :
    setStatusOf user.modelDump request = (user.withStatus request).modelDump := by
  simp [setStatusOf, withStatus, modelDump, ofFields, Dict.set, Dict.put, Dict.empty]

theorem Organization.setStatusOf_modelDump (organization : Organization) (request : StatusUpdate) :
    setStatusOf organization.modelDump request = (organization.withStatus request).modelDump := by
  simp [setStatusOf, withStatus, modelDump, ofFields, Dict.set, Dict.put, Dict.empty]

theorem Membership.setStatusOf_modelDump (member : Membership) (request : StatusUpdate) :
    setStatusOf member.modelDump request = (member.withStatus request).modelDump := by
  simp [setStatusOf, withStatus, modelDump, ofFields, Dict.set, Dict.put, Dict.empty]

/-! ### The update of a user by `redeem` -/

theorem User.next_pos (user : User) : 1 ≤ user.version + 1 := Nat.le_add_left 1 user.version

/-- `{**user.model_dump(), "organization_ids": ..., "version": user.version + 1}`. -/
def joinOf (user : User) (organizationId : Identifier) : Document :=
  (user.modelDump.set "organization_ids"
    (.strs (user.organizationIds.map (·.1) ++ [organizationId.1]))).set
      "version" (.int (user.version + 1))

theorem User.join_le (user : User) (organizationId : Identifier)
    (h : user.organizationIds.length < 50) :
    (user.organizationIds ++ [organizationId]).length ≤ 50 := by
  rw [List.length_append]
  exact h

def User.join (user : User) (organizationId : Identifier)
    (h : user.organizationIds.length < 50) : User :=
  { user with
    organizationIds := user.organizationIds ++ [organizationId]
    version := user.version + 1
    organizationIds_le := user.join_le organizationId h
    version_pos := user.next_pos }

theorem joinOf_eq_modelDump (user : User) (organizationId : Identifier)
    (h : user.organizationIds.length < 50) :
    joinOf user organizationId = (user.join organizationId h).modelDump := by
  simp [joinOf, User.join, User.modelDump, ofFields, Dict.set, Dict.put, Dict.empty]

/-- Without room the update is not valid. -/
theorem modelValidate_joinOf_full {user : User} {organizationId : Identifier}
    (hfull : 50 ≤ user.organizationIds.length) :
    User.modelValidate (joinOf user organizationId) =
      .error (.validation "Tuple should have at most 50 items after validation") := by
  have hextra : forbidExtra (joinOf user organizationId) ["subject", "active", "platform_admin",
      "owner", "organization_ids", "version"] = .ok () := by
    simp [forbidExtra, joinOf, User.modelDump, ofFields, Dict.set, Dict.put, Dict.empty]
  have hsubject : text (joinOf user organizationId) "subject" = .ok user.subject := by
    simp [text, joinOf, User.modelDump, ofFields, Dict.get?_set, Text.strip_self]
  have hactive : flag (joinOf user organizationId) "active" true = .ok user.active := by
    simp [flag, joinOf, User.modelDump, ofFields, Dict.get?_set]
  have hadmin : flag (joinOf user organizationId) "platform_admin" false = .ok user.platformAdmin := by
    simp [flag, joinOf, User.modelDump, ofFields, Dict.get?_set]
  have howner : flag (joinOf user organizationId) "owner" false = .ok user.owner := by
    simp [flag, joinOf, User.modelDump, ofFields, Dict.get?_set]
  have hids : identifiers (joinOf user organizationId) "organization_ids" =
      .ok (user.organizationIds ++ [organizationId]) := by
    rw [← mapM_validate]
    simp [identifiers, joinOf, Dict.get?_set]
  have hversion : versionOf (joinOf user organizationId) = .ok (user.version + 1) := by
    simp [versionOf, joinOf]
  have hlong : ¬ (user.organizationIds ++ [organizationId]).length ≤ 50 := by
    rw [List.length_append, List.length_singleton]
    omega
  unfold User.modelValidate
  rw [hextra, hsubject, hactive, hadmin, howner, hids, hversion]
  simp only [Except.ok_bind, dif_neg hlong]

/-- The update is valid as long as there is room. -/
theorem modelValidate_joinOf {user updated : User} {organizationId : Identifier}
    (h : User.modelValidate (joinOf user organizationId) = .ok updated) :
    ∃ hroom, updated = user.join organizationId hroom := by
  by_cases hroom : user.organizationIds.length < 50
  · rw [joinOf_eq_modelDump user organizationId hroom, User.modelValidate_modelDump] at h
    exact ⟨hroom, (Except.ok.inj h).symm⟩
  · rw [modelValidate_joinOf_full (Nat.not_lt.mp hroom)] at h
    cases h

/-! ### The version in a dump -/

theorem User.version_modelDump (user : User) :
    user.modelDump.get? "version" = some (.int user.version) := by
  simp [modelDump, ofFields]

theorem Organization.version_modelDump (organization : Organization) :
    organization.modelDump.get? "version" = some (.int organization.version) := by
  simp [modelDump, ofFields]

theorem Membership.version_modelDump (member : Membership) :
    member.modelDump.get? "version" = some (.int member.version) := by
  simp [modelDump, ofFields]

theorem Invitation.version_modelDump (invitation : Invitation) :
    invitation.modelDump.get? "version" = some (.int invitation.version) := by
  simp [modelDump, ofFields]

end ChangeOps.Admission
