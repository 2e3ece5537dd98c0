import ChangeOps.Sandbox.Systems
import ChangeOps.ToolGateway.Models

/-!
# ChangeOps.Sandbox — the models of the sandbox, as documents

`changeops_sandbox/models.py`. A configuration leaves a store as a JSON document and comes back
through `model_validate`, with the bounds of its fields. `ConfigModel` is what the store needs of a
model: its dump is read back as it is, and the document of a patch as the patched model.

The lax conversions of pydantic between types are left out: the documents hold what a model has
dumped.
-/

namespace ChangeOps.Sandbox

/-! ## Checked texts -/

/-- `NonEmptyStr`, after `str_strip_whitespace`. -/
abbrev NonEmptyStr := { text : String // nonEmptyStr text = .ok text }

def NonEmptyStr.ofText (text : String) : Except Exn NonEmptyStr :=
  match h : nonEmptyStr text with
  | .ok stripped => .ok ⟨stripped, (nonEmptyStr_of_ok h).2⟩
  | .error error => .error error

def NonEmptyStr.validate : Json → Except Exn NonEmptyStr
  | .str text => ofText text
  | _ => .error (.validationError "Input should be a valid string")

theorem NonEmptyStr.validate_self (text : NonEmptyStr) : validate (.str text.1) = .ok text := by
  show ofText text.1 = .ok text
  unfold ofText
  split
  · rename_i stripped h
    rw [text.2] at h
    exact congrArg Except.ok (Subtype.ext (Except.ok.inj h).symm)
  · rename_i error h
    rw [text.2] at h
    cases h

/-- `Sha256Digest`. -/
abbrev Digest := { text : String // digestStr text = .ok text }

/-- The tenant of a request: `require_tenant` has stripped it. -/
abbrev TenantId := { text : String // stripWhitespace text = text ∧ 1 ≤ text.length ∧ text.length ≤ 128 }

/-! ## Fields of a document -/

abbrev Fields := List (String × Json)

/-- `extra="forbid"`. -/
def forbidExtra (fields : Fields) (names : List String) : Except Exn Unit :=
  if fields.all fun field => names.contains field.1 then .ok ()
  else .error (.validationError "Extra inputs are not permitted")

def required (fields : Fields) (name : String) : Except Exn Json :=
  match fields.lookup name with
  | some value => .ok value
  | none => .error (.validationError "Field required")

/-- A field of type `NonEmptyStr`. -/
def text (fields : Fields) (name : String) : Except Exn NonEmptyStr := do
  NonEmptyStr.validate (← required fields name)

/-- A field of type `tuple[NonEmptyStr, ...]`. -/
def texts (fields : Fields) (name : String) : Except Exn (List NonEmptyStr) := do
  match ← required fields name with
  | .arr items => items.mapM NonEmptyStr.validate
  | _ => .error (.validationError "Input should be a valid tuple")

/-- A field of type `int` with `ge=1`, which is `gt=0`. -/
def positive (fields : Fields) (name : String) : Except Exn { n : Nat // 1 ≤ n } := do
  match ← required fields name with
  | .int n =>
    if h : 1 ≤ n.toNat then return ⟨n.toNat, h⟩
    else .error (.validationError "Input should be greater than or equal to 1")
  | _ => .error (.validationError "Input should be a valid integer")

theorem required_eq {fields : Fields} {name : String} {value : Json}
    (h : fields.lookup name = some value) : required fields name = .ok value := by
  rw [required, h]

theorem text_eq {fields : Fields} {name : String} (value : NonEmptyStr)
    (h : fields.lookup name = some (.str value.1)) : text fields name = .ok value := by
  rw [text, required_eq h]
  exact value.validate_self

theorem texts_eq {fields : Fields} {name : String} (values : List NonEmptyStr)
    (h : fields.lookup name = some (.strs (values.map (·.1)))) : texts fields name = .ok values := by
  rw [texts, required_eq h]
  show ((values.map (·.1)).map Json.str).mapM NonEmptyStr.validate = .ok values
  clear h
  induction values with
  | nil => rfl
  | cons value rest ih =>
    rw [List.map_cons, List.map_cons, List.mapM_cons, value.validate_self, ih]
    rfl

theorem positive_eq {fields : Fields} {name : String} (value : { n : Nat // 1 ≤ n })
    (h : fields.lookup name = some (.int value.1)) : positive fields name = .ok value := by
  rw [positive, required_eq h]
  show (if h : 1 ≤ (value.1 : Int).toNat then _ else _) = _
  rw [dif_pos (by rw [Int.toNat_natCast]; exact value.2)]
  rfl

/-! ## Configurations -/

/-- The document of `apply`: the field replaced and, where there is one, the schema version raised. -/
def patchDocument (fieldName newField : String) (document : Fields) : Except Exn Fields :=
  let document := Dict.put fieldName (.str newField) document
  match document.lookup "schema_version" with
  | some (.int n) => .ok (Dict.put "schema_version" (.int (n + 1)) document)
  | some _ => .error (.other "int() argument must be a string, a bytes-like object or a real number")
  | none => .ok document

/-- A configuration model, as the store uses it. -/
class ConfigModel (C : Type) extends SystemConfiguration C where
  /-- The field that the store of the model patches. -/
  fieldName : String
  systemId : C → String
  /-- The bounds of the fields. -/
  Checked : C → Prop
  fields : C → Fields
  modelValidate : Fields → Except Exn { c : C // Checked c }
  modelDump_eq : ∀ c, modelDump c = .obj (fields c)
  modelValidate_fields : ∀ c : { c : C // Checked c }, modelValidate (fields c.1) = .ok c
  modelValidate_patched : ∀ (c : { c : C // Checked c }) (newField : NonEmptyStr),
    ∃ updated : { c : C // Checked c }, updated.1 = withField c.1 newField.1 ∧
      (patchDocument fieldName newField.1 (fields c.1)).bind modelValidate = .ok updated
  systemId_withField : ∀ (c : C) (newField : String), systemId (withField c newField) = systemId c

structure CrmConfiguration.Checked (c : CrmConfiguration) : Prop where
  system_id : nonEmptyStr c.systemId = .ok c.systemId
  source_field : nonEmptyStr c.sourceField = .ok c.sourceField
  destination_field : nonEmptyStr c.destinationField = .ok c.destinationField
  schema_version : 1 ≤ c.schemaVersion
  status : nonEmptyStr c.status = .ok c.status

structure AnalyticsConfiguration.Checked (c : AnalyticsConfiguration) : Prop where
  system_id : nonEmptyStr c.systemId = .ok c.systemId
  source_field : nonEmptyStr c.sourceField = .ok c.sourceField
  output_field : nonEmptyStr c.outputField = .ok c.outputField
  dependent_dashboards : ∀ name ∈ c.dependentDashboards, nonEmptyStr name = .ok name
  baseline_row_count : 1 ≤ c.baselineRowCount
  status : nonEmptyStr c.status = .ok c.status

structure SupportConfiguration.Checked (c : SupportConfiguration) : Prop where
  system_id : nonEmptyStr c.systemId = .ok c.systemId
  lookup_field : nonEmptyStr c.lookupField = .ok c.lookupField
  dependent_forms : ∀ name ∈ c.dependentForms, nonEmptyStr name = .ok name
  status : nonEmptyStr c.status = .ok c.status

def CrmConfiguration.modelValidate (fields : Fields) :
    Except Exn { c : CrmConfiguration // CrmConfiguration.Checked c } := do
  forbidExtra fields ["system_id", "source_field", "destination_field", "schema_version", "status"]
  let systemId ← text fields "system_id"
  let sourceField ← text fields "source_field"
  let destinationField ← text fields "destination_field"
  let schemaVersion ← positive fields "schema_version"
  let status ← text fields "status"
  return ⟨⟨systemId.1, sourceField.1, destinationField.1, schemaVersion.1, status.1⟩,
    ⟨systemId.2, sourceField.2, destinationField.2, schemaVersion.2, status.2⟩⟩

theorem forall_checked (names : List NonEmptyStr) :
    ∀ name ∈ names.map (·.1), nonEmptyStr name = .ok name := by
  intro name hname
  obtain ⟨checked, -, rfl⟩ := List.mem_map.mp hname
  exact checked.2

def AnalyticsConfiguration.modelValidate (fields : Fields) :
    Except Exn { c : AnalyticsConfiguration // AnalyticsConfiguration.Checked c } := do
  forbidExtra fields ["system_id", "source_field", "output_field", "dependent_dashboards",
    "baseline_row_count", "status"]
  let systemId ← text fields "system_id"
  let sourceField ← text fields "source_field"
  let outputField ← text fields "output_field"
  let dependentDashboards ← texts fields "dependent_dashboards"
  let baselineRowCount ← positive fields "baseline_row_count"
  let status ← text fields "status"
  return ⟨⟨systemId.1, sourceField.1, outputField.1, dependentDashboards.map (·.1),
      baselineRowCount.1, status.1⟩,
    ⟨systemId.2, sourceField.2, outputField.2, forall_checked dependentDashboards,
      baselineRowCount.2, status.2⟩⟩

def SupportConfiguration.modelValidate (fields : Fields) :
    Except Exn { c : SupportConfiguration // SupportConfiguration.Checked c } := do
  forbidExtra fields ["system_id", "lookup_field", "dependent_forms", "status"]
  let systemId ← text fields "system_id"
  let lookupField ← text fields "lookup_field"
  let dependentForms ← texts fields "dependent_forms"
  let status ← text fields "status"
  return ⟨⟨systemId.1, lookupField.1, dependentForms.map (·.1), status.1⟩,
    ⟨systemId.2, lookupField.2, forall_checked dependentForms, status.2⟩⟩

theorem CrmConfiguration.modelValidate_fields
    (c : { c : CrmConfiguration // CrmConfiguration.Checked c }) :
    modelValidate c.1.fields = .ok c := by
  obtain ⟨⟨systemId, sourceField, destinationField, schemaVersion, status⟩, h⟩ := c
  unfold modelValidate
  rw [text_eq ⟨systemId, h.system_id⟩ rfl, text_eq ⟨sourceField, h.source_field⟩ rfl,
    text_eq ⟨destinationField, h.destination_field⟩ rfl,
    positive_eq ⟨schemaVersion, h.schema_version⟩ rfl, text_eq ⟨status, h.status⟩ rfl]
  rfl

/-- Checked names, as a list of checked names. -/
theorem exists_checked {names : List String} (h : ∀ name ∈ names, nonEmptyStr name = .ok name) :
    ∃ checked : List NonEmptyStr, names = checked.map (·.1) := by
  induction names with
  | nil => exact ⟨[], rfl⟩
  | cons name rest ih =>
    rw [List.forall_mem_cons] at h
    obtain ⟨checked, rfl⟩ := ih h.2
    exact ⟨⟨name, h.1⟩ :: checked, rfl⟩

theorem AnalyticsConfiguration.modelValidate_fields
    (c : { c : AnalyticsConfiguration // AnalyticsConfiguration.Checked c }) :
    modelValidate c.1.fields = .ok c := by
  obtain ⟨⟨systemId, sourceField, outputField, dependentDashboards, baselineRowCount, status⟩, h⟩ := c
  obtain ⟨dashboards, rfl⟩ := exists_checked h.dependent_dashboards
  unfold modelValidate
  rw [text_eq ⟨systemId, h.system_id⟩ rfl, text_eq ⟨sourceField, h.source_field⟩ rfl,
    text_eq ⟨outputField, h.output_field⟩ rfl, texts_eq dashboards rfl,
    positive_eq ⟨baselineRowCount, h.baseline_row_count⟩ rfl, text_eq ⟨status, h.status⟩ rfl]
  rfl

theorem SupportConfiguration.modelValidate_fields
    (c : { c : SupportConfiguration // SupportConfiguration.Checked c }) :
    modelValidate c.1.fields = .ok c := by
  obtain ⟨⟨systemId, lookupField, dependentForms, status⟩, h⟩ := c
  obtain ⟨forms, rfl⟩ := exists_checked h.dependent_forms
  unfold modelValidate
  rw [text_eq ⟨systemId, h.system_id⟩ rfl, text_eq ⟨lookupField, h.lookup_field⟩ rfl,
    texts_eq forms rfl, text_eq ⟨status, h.status⟩ rfl]
  rfl

instance : ConfigModel CrmConfiguration where
  fieldName := "source_field"
  systemId := CrmConfiguration.systemId
  Checked := CrmConfiguration.Checked
  fields := CrmConfiguration.fields
  modelValidate := CrmConfiguration.modelValidate
  modelDump_eq _ := rfl
  modelValidate_fields := CrmConfiguration.modelValidate_fields
  modelValidate_patched c newField :=
    have hchecked : CrmConfiguration.Checked (SystemConfiguration.withField c.1 newField.1) :=
      ⟨c.2.system_id, newField.2, c.2.destination_field, Nat.succ_pos _, c.2.status⟩
    ⟨⟨_, hchecked⟩, rfl, CrmConfiguration.modelValidate_fields ⟨_, hchecked⟩⟩
  systemId_withField _ _ := rfl

instance : ConfigModel AnalyticsConfiguration where
  fieldName := "source_field"
  systemId := AnalyticsConfiguration.systemId
  Checked := AnalyticsConfiguration.Checked
  fields := AnalyticsConfiguration.fields
  modelValidate := AnalyticsConfiguration.modelValidate
  modelDump_eq _ := rfl
  modelValidate_fields := AnalyticsConfiguration.modelValidate_fields
  modelValidate_patched c newField :=
    have hchecked : AnalyticsConfiguration.Checked (SystemConfiguration.withField c.1 newField.1) :=
      ⟨c.2.system_id, newField.2, c.2.output_field, c.2.dependent_dashboards,
        c.2.baseline_row_count, c.2.status⟩
    ⟨⟨_, hchecked⟩, rfl, AnalyticsConfiguration.modelValidate_fields ⟨_, hchecked⟩⟩
  systemId_withField _ _ := rfl

instance : ConfigModel SupportConfiguration where
  fieldName := "lookup_field"
  systemId := SupportConfiguration.systemId
  Checked := SupportConfiguration.Checked
  fields := SupportConfiguration.fields
  modelValidate := SupportConfiguration.modelValidate
  modelDump_eq _ := rfl
  modelValidate_fields := SupportConfiguration.modelValidate_fields
  modelValidate_patched c newField :=
    have hchecked : SupportConfiguration.Checked (SystemConfiguration.withField c.1 newField.1) :=
      ⟨c.2.system_id, newField.2, c.2.dependent_forms, c.2.status⟩
    ⟨⟨_, hchecked⟩, rfl, SupportConfiguration.modelValidate_fields ⟨_, hchecked⟩⟩
  systemId_withField _ _ := rfl

/-! ## The catalog -/

structure ApiContract where
  api : NonEmptyStr
  version : NonEmptyStr
  identifierField : NonEmptyStr
  identifierType : NonEmptyStr
  compatibility : NonEmptyStr
  owner : NonEmptyStr

def ApiContract.fields (contract : ApiContract) : Fields :=
  [("api", .str contract.api.1), ("version", .str contract.version.1),
    ("identifier_field", .str contract.identifierField.1),
    ("identifier_type", .str contract.identifierType.1),
    ("compatibility", .str contract.compatibility.1), ("owner", .str contract.owner.1)]

def ApiContract.modelValidate (fields : Fields) : Except Exn ApiContract := do
  forbidExtra fields
    ["api", "version", "identifier_field", "identifier_type", "compatibility", "owner"]
  let api ← text fields "api"
  let version ← text fields "version"
  let identifierField ← text fields "identifier_field"
  let identifierType ← text fields "identifier_type"
  let compatibility ← text fields "compatibility"
  let owner ← text fields "owner"
  return ⟨api, version, identifierField, identifierType, compatibility, owner⟩

theorem ApiContract.modelValidate_fields (contract : ApiContract) :
    modelValidate contract.fields = .ok contract := by
  unfold modelValidate
  rw [text_eq contract.api rfl, text_eq contract.version rfl, text_eq contract.identifierField rfl,
    text_eq contract.identifierType rfl, text_eq contract.compatibility rfl,
    text_eq contract.owner rfl]
  rfl

structure DependencyEdge where
  source : NonEmptyStr
  target : NonEmptyStr
  managed : Bool

structure CatalogSeed where
  activeVersion : NonEmptyStr
  contracts : List ApiContract
  dependencies : List DependencyEdge
  contracts_length : 1 ≤ contracts.length
  dependencies_length : 1 ≤ dependencies.length

end ChangeOps.Sandbox
