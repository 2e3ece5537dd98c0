import ChangeOps.Sandbox.Tenants

/-!
# ChangeOps.Sandbox — the tenants of a store do not see each other

Both stores serve their tenants from one set of tables, keyed by the tenant, by the pair of the
tenant and a name, and for `snapshotTenants` by the name of a snapshot alone. Leaving out every
call of one tenant changes no answer of another, except for the error of a restore without a
snapshot, which reads the last of these tables.
-/

namespace ChangeOps.Sandbox

open Machine

namespace ConfigurationStore

variable {C : Type} [ConfigModel C] [Sha256]

theorem unwinding (observer : TenantId) :
    Unwinding (ConfigurationStore.step (C := C)) Prod.fst observer
      (fun s t => s.seed = t.seed ∧ s.view observer = t.view observer)
      (fun call => Agrees call.2.restored?) :=
  @Sharing.unwinding _ _ _ _ sharing _ ConfigurationStore.step
    (fun view seed tenantId operation => view.step seed tenantId operation) Operation.restored?
    (fun store tenantId operation => store.serves_step tenantId operation) observer

end ConfigurationStore

namespace CatalogStore

theorem unwinding [Sha256] (observer : TenantId) :
    Unwinding CatalogStore.step Prod.fst observer
      (fun s t => s.seed = t.seed ∧ s.view observer = t.view observer)
      (fun call => Agrees call.2.restored?) :=
  @Sharing.unwinding _ _ _ _ sharing _ CatalogStore.step
    (fun view seed tenantId operation => view.step seed tenantId operation)
    CatalogOperation.restored?
    (fun store tenantId operation => store.serves_step tenantId operation) observer

end CatalogStore

/-- **Leaving out the calls of a tenant changes no answer of another one**, on a store of
    configurations as on the catalog, apart from which error a restore without a snapshot raises. -/
theorem answers_without_tenant [Sha256] {hidden observer : TenantId} (hne : hidden ≠ observer) :
    (∀ (C : Type) [ConfigModel C] (store : ConfigurationStore C)
      (calls : List (TenantId × Operation)),
      List.Forall₂ (SameAnswer fun call => Agrees call.2.restored?)
        (answers Prod.fst observer (history ConfigurationStore.step store calls))
        (answers Prod.fst observer
          (history ConfigurationStore.step store (without Prod.fst hidden calls)))) ∧
    ∀ (store : CatalogStore) (calls : List (TenantId × CatalogOperation)),
      List.Forall₂ (SameAnswer fun call => Agrees call.2.restored?)
        (answers Prod.fst observer (history CatalogStore.step store calls))
        (answers Prod.fst observer (history CatalogStore.step store (without Prod.fst hidden calls))) :=
  ⟨fun _ _ store calls => (ConfigurationStore.unwinding observer).purged hne store calls,
    fun store calls => (CatalogStore.unwinding observer).purged hne store calls⟩

namespace Demo

scoped instance digests : Sha256 := .hashlib

theorem stripWhitespace_tenants : stripWhitespace "tenant_a" = "tenant_a" ∧
    stripWhitespace "tenant_b" = "tenant_b" := by
  unfold stripWhitespace
  decide

def tenantA : TenantId := ⟨"tenant_a", stripWhitespace_tenants.1, by decide, by decide⟩

def tenantB : TenantId := ⟨"tenant_b", stripWhitespace_tenants.2, by decide, by decide⟩

theorem tenants_ne : tenantA ≠ tenantB := by decide

/-- A text of the seeds or of a request. -/
theorem nonEmptyStr_texts : ∀ text ∈ ["crm-sync", "customer_id", "external_customer_key", "healthy",
    "customer_uuid", "customer_key", "execution_1", "chg_001"], nonEmptyStr text = .ok text := by
  unfold nonEmptyStr stripWhitespace
  decide

/-- `seed/crm.json`. -/
def crmSeed : Checked CrmConfiguration :=
  ⟨⟨"crm-sync", "customer_id", "external_customer_key", 4, "healthy"⟩,
    ⟨nonEmptyStr_texts _ (by decide), nonEmptyStr_texts _ (by decide),
      nonEmptyStr_texts _ (by decide), by decide, nonEmptyStr_texts _ (by decide)⟩⟩

/-- One tenant takes a snapshot, the other one tries to restore it. -/
def crossTenant : List (TenantId × Operation) :=
  [(tenantA, .snapshot "snapshot_1" 0), (tenantB, .restore "snapshot_1"), (tenantB, .get)]

end Demo

open scoped Sandbox.Demo in
open Sandbox.Demo in
theorem answers_without_tenant_crossTenant :
    List.Forall₂ (SameAnswer fun call => Agrees call.2.restored?)
      (answers Prod.fst tenantB (history ConfigurationStore.step (.new crmSeed) crossTenant))
      (answers Prod.fst tenantB (history ConfigurationStore.step (.new crmSeed)
        (without Prod.fst tenantA crossTenant))) :=
  (answers_without_tenant tenants_ne).1 CrmConfiguration _ crossTenant

end ChangeOps.Sandbox
