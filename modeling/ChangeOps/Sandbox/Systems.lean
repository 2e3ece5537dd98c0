import ChangeOps.Sandbox.Store

/-!
# ChangeOps.Sandbox — the three systems behind the coordinator

The configuration models of CRM, Analytics and Support (`changeops_sandbox/models.py`), as what a
`ConfigurationStore` needs of them.
-/

namespace ChangeOps

/-! ## Configurations -/

structure CrmConfiguration where
  systemId : String
  sourceField : String
  destinationField : String
  schemaVersion : Nat
  status : String

structure AnalyticsConfiguration where
  systemId : String
  sourceField : String
  outputField : String
  dependentDashboards : List String
  baselineRowCount : Nat
  status : String

structure SupportConfiguration where
  systemId : String
  lookupField : String
  dependentForms : List String
  status : String

def CrmConfiguration.fields (c : CrmConfiguration) : List (String × Json) :=
  [("system_id", .str c.systemId), ("source_field", .str c.sourceField),
    ("destination_field", .str c.destinationField), ("schema_version", .int c.schemaVersion),
    ("status", .str c.status)]

def AnalyticsConfiguration.fields (c : AnalyticsConfiguration) : List (String × Json) :=
  [("system_id", .str c.systemId), ("source_field", .str c.sourceField),
    ("output_field", .str c.outputField), ("dependent_dashboards", .strs c.dependentDashboards),
    ("baseline_row_count", .int c.baselineRowCount), ("status", .str c.status)]

def SupportConfiguration.fields (c : SupportConfiguration) : List (String × Json) :=
  [("system_id", .str c.systemId), ("lookup_field", .str c.lookupField),
    ("dependent_forms", .strs c.dependentForms), ("status", .str c.status)]

instance : SystemConfiguration CrmConfiguration where
  modelDump c := .obj c.fields
  field := CrmConfiguration.sourceField
  withField c newField := { c with sourceField := newField, schemaVersion := c.schemaVersion + 1 }

instance : SystemConfiguration AnalyticsConfiguration where
  modelDump c := .obj c.fields
  field := AnalyticsConfiguration.sourceField
  withField c newField := { c with sourceField := newField }

instance : SystemConfiguration SupportConfiguration where
  modelDump c := .obj c.fields
  field := SupportConfiguration.lookupField
  withField c newField := { c with lookupField := newField }

end ChangeOps
