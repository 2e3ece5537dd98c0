import Mathlib.Data.String.Basic
import ChangeOps.Contracts.CanonicalText
import ChangeOps.Contracts.Instants
import ChangeOps.Contracts.Models

/-!
# ChangeOps.Contracts — documents up to key order

A `Document` is a JSON value in which no object has a key twice, as every Python dictionary
guarantees. `Json.Same` is equality of JSON values with objects compared as what they are,
partial functions from keys to values; canonical text decides it (`same_iff_sortKeys`). A
remediation plan is a document, so its canonical text, and with it the plan hash, fixes every
field of every step.
-/

namespace ChangeOps

namespace Json

/-! ## Documents -/

mutual
/-- No object in the document has a key twice. -/
def distinctKeys : Json → Bool
  | .arr items => distinctKeysItems items
  | .obj fields => decide (fields.map Prod.fst).Nodup && distinctKeysFields fields
  | .null => true
  | .bool _ => true
  | .int _ => true
  | .str _ => true
def distinctKeysItems : List Json → Bool
  | [] => true
  | item :: rest => distinctKeys item && distinctKeysItems rest
def distinctKeysFields : List (String × Json) → Bool
  | [] => true
  | (_, value) :: rest => distinctKeys value && distinctKeysFields rest
end

theorem distinctKeysItems_iff {items : List Json} :
    distinctKeysItems items = true ↔ ∀ item ∈ items, distinctKeys item = true := by
  induction items with
  | nil => simp [distinctKeysItems]
  | cons item rest ih => simp [distinctKeysItems, ih]

theorem distinctKeysFields_iff {fields : List (String × Json)} :
    distinctKeysFields fields = true ↔ ∀ field ∈ fields, distinctKeys field.2 = true := by
  induction fields with
  | nil => simp [distinctKeysFields]
  | cons field rest ih =>
    rw [distinctKeysFields, Bool.and_eq_true, ih, List.forall_mem_cons]

theorem distinctKeys_obj_iff {fields : List (String × Json)} :
    (Json.obj fields).distinctKeys = true ↔
      (fields.map Prod.fst).Nodup ∧ ∀ field ∈ fields, field.2.distinctKeys = true := by
  rw [distinctKeys, Bool.and_eq_true, decide_eq_true_eq, distinctKeysFields_iff]

/-! ## Equality regardless of key order -/

/-- Equal JSON values: arrays item by item, objects key by key. -/
inductive Same : Json → Json → Prop where
  | null : Same .null .null
  | bool (b : Bool) : Same (.bool b) (.bool b)
  | int (n : Int) : Same (.int n) (.int n)
  | str (s : String) : Same (.str s) (.str s)
  | arr {items items' : List Json} : List.Forall₂ Same items items' → Same (.arr items) (.arr items')
  | obj {fields fields' : List (String × Json)} :
      (∀ key, Option.Rel Same (fields.lookup key) (fields'.lookup key)) →
      Same (.obj fields) (.obj fields')

/-- Two lists, item by item, when `R` is equality of images on the items of the first. -/
theorem forall₂_iff_map_eq {R : Json → Json → Prop} {f : Json → Json} {items items' : List Json}
    (h : ∀ item ∈ items, ∀ item' ∈ items', R item item' ↔ f item = f item') :
    List.Forall₂ R items items' ↔ items.map f = items'.map f := by
  induction items generalizing items' with
  | nil => cases items' <;> simp
  | cons item rest ih =>
    cases items' with
    | nil => simp
    | cons item' rest' =>
      rw [List.forall₂_cons, List.map_cons, List.map_cons, List.cons.injEq,
        h item List.mem_cons_self item' List.mem_cons_self,
        ih fun a ha b hb => h a (List.mem_cons_of_mem _ ha) b (List.mem_cons_of_mem _ hb)]

theorem optionRel_iff_map_eq {R : Json → Json → Prop} {f : Json → Json} {a b : Option Json}
    (h : ∀ x ∈ a, ∀ y ∈ b, R x y ↔ f x = f y) : Option.Rel R a b ↔ a.map f = b.map f := by
  cases a with
  | none =>
    cases b with
    | none => exact iff_of_true .none rfl
    | some y => constructor <;> (intro h; cases h)
  | some x =>
    cases b with
    | none => constructor <;> (intro h; cases h)
    | some y =>
      rw [Option.map_some, Option.map_some, Option.some.injEq, ← h x rfl y rfl]
      constructor
      · rintro ⟨⟩
        assumption
      · exact .some

theorem mem_of_lookup {fields : List (String × Json)} {key : String} {value : Json}
    (h : value ∈ fields.lookup key) : (key, value) ∈ fields := by
  rw [Option.mem_def, List.lookup_eq_some_iff] at h
  obtain ⟨before, after, rfl, -⟩ := h
  simp

/-- Canonical order decides equality of documents. -/
theorem same_iff_sortKeys {a b : Json} (ha : a.distinctKeys = true) (hb : b.distinctKeys = true) :
    Same a b ↔ a.sortKeys (· ≤ ·) = b.sortKeys (· ≤ ·) := by
  induction a using induct generalizing b with
  | null =>
    constructor
    · rintro ⟨⟩
      rfl
    · intro h
      cases b with
      | null => exact .null
      | _ => cases h
  | bool x =>
    constructor
    · rintro ⟨⟩
      rfl
    · intro h
      cases b with
      | bool y =>
        cases h
        exact .bool x
      | _ => cases h
  | int n =>
    constructor
    · rintro ⟨⟩
      rfl
    · intro h
      cases b with
      | int m =>
        cases h
        exact .int n
      | _ => cases h
  | str s =>
    constructor
    · rintro ⟨⟩
      rfl
    · intro h
      cases b with
      | str t =>
        cases h
        exact .str s
      | _ => cases h
  | arr items ih =>
    cases b with
    | arr items' =>
      have hitems := distinctKeysItems_iff.mp ha
      have hitems' := distinctKeysItems_iff.mp hb
      have hiff := forall₂_iff_map_eq fun item hitem item' hitem' =>
        ih item hitem (hitems item hitem) (hitems' item' hitem')
      rw [sortKeys, sortKeys, sortKeysItems_eq_map, sortKeysItems_eq_map, Json.arr.injEq, ← hiff]
      constructor
      · rintro ⟨⟩
        assumption
      · exact .arr
    | _ => constructor <;> (intro h; cases h)
  | obj fields ih =>
    cases b with
    | obj fields' =>
      obtain ⟨hnodup, hvalues⟩ := distinctKeys_obj_iff.mp ha
      obtain ⟨hnodup', hvalues'⟩ := distinctKeys_obj_iff.mp hb
      have hiff : ∀ key, Option.Rel Same (fields.lookup key) (fields'.lookup key) ↔
          (fields.lookup key).map (sortKeys (· ≤ ·)) =
            (fields'.lookup key).map (sortKeys (· ≤ ·)) := by
        intro key
        refine optionRel_iff_map_eq fun x hx y hy => ?_
        exact ih (key, x) (mem_of_lookup hx) (hvalues _ (mem_of_lookup hx))
          (hvalues' _ (mem_of_lookup hy))
      -- the sorted objects are equal when their lookups are
      rw [← keys_sortKeysFields (· ≤ ·)] at hnodup hnodup'
      rw [sortKeys, sortKeys, Json.obj.injEq, Assoc.insertionSort_eq_iff_lookup hnodup hnodup']
      simp only [sortKeysFields_eq_map, Assoc.lookup_map, ← hiff]
      constructor
      · rintro ⟨⟩
        assumption
      · exact .obj
    | _ => constructor <;> (intro h; cases h)

/-! ## Documents with their keys in order -/

theorem isSortedItems_iff {items : List Json} :
    isSortedItems items = true ↔ ∀ item ∈ items, isSorted item = true := by
  induction items with
  | nil => simp [isSortedItems]
  | cons item rest ih => simp [isSortedItems, ih]

theorem isSortedFields_spec {fields : List (String × Json)} (h : isSortedFields fields = true) :
    (∀ field ∈ fields, isSorted field.2 = true) ∧ (fields.map Prod.fst).Pairwise (· < ·) := by
  induction fields with
  | nil => simp
  | cons field rest ih =>
    obtain ⟨key, value⟩ := field
    simp only [isSortedFields, Bool.and_eq_true] at h
    obtain ⟨⟨hvalue, hhead⟩, hrest⟩ := h
    obtain ⟨hvalues, hkeys⟩ := ih hrest
    refine ⟨List.forall_mem_cons.mpr ⟨hvalue, hvalues⟩, ?_⟩
    rw [List.map_cons, List.pairwise_cons]
    refine ⟨fun later hlater => ?_, hkeys⟩
    cases rest with
    | nil => cases hlater
    | cons next rest =>
      have hnext : key < next.1 := by simpa using hhead
      rw [List.map_cons, List.pairwise_cons] at hkeys
      rcases List.mem_cons.mp hlater with rfl | hmem
      · exact hnext
      · exact lt_trans hnext (hkeys.1 later hmem)

theorem sortKeys_of_isSorted {document : Json} (h : document.isSorted = true) :
    document.sortKeys (· ≤ ·) = document := by
  induction document using induct with
  | null => rfl
  | bool b => rfl
  | int n => rfl
  | str s => rfl
  | arr items ih =>
    have hitems := isSortedItems_iff.mp h
    rw [sortKeys, sortKeysItems_eq_map,
      List.map_congr_left fun item hmem => ih item hmem (hitems item hmem), List.map_id']
  | obj fields ih =>
    obtain ⟨hvalues, hkeys⟩ := isSortedFields_spec h
    have hfields : sortKeysFields (· ≤ ·) fields = fields := by
      rw [sortKeysFields_eq_map]
      have hid : ∀ field ∈ fields, (field.1, sortKeys (· ≤ ·) field.2) = field :=
        fun field hmem => Prod.ext rfl (ih field hmem (hvalues field hmem))
      rw [List.map_congr_left hid, List.map_id']
    rw [sortKeys, hfields]
    have hsorted : fields.Pairwise (Assoc.byKey (· ≤ ·)) :=
      (List.pairwise_map.mp hkeys).imp fun {a b} hlt => le_of_lt (a := a.1) (b := b.1) hlt
    rw [hsorted.insertionSort_eq]

/-- The fields of two objects with the same keys in the same places, from their texts. -/
theorem sortKeysFields_eq {fields fields' : List (String × Json)}
    (hkeys : fields.map Prod.fst = fields'.map Prod.fst) (hnodup : (fields.map Prod.fst).Nodup)
    (h : (Json.obj fields).sortKeys (· ≤ ·) = (Json.obj fields').sortKeys (· ≤ ·)) :
    sortKeysFields (· ≤ ·) fields = sortKeysFields (· ≤ ·) fields' := by
  have hsorted := Json.obj.inj h
  rw [← keys_sortKeysFields (· ≤ ·)] at hkeys hnodup
  rw [← keys_sortKeysFields (· ≤ ·) fields'] at hkeys
  exact Assoc.eq_of_perm hkeys hnodup ((Assoc.insertionSort_eq_iff_perm hnodup).mp hsorted)

theorem sortKeys_strs (texts : List String) : (Json.strs texts).sortKeys (· ≤ ·) = .strs texts := by
  rw [Json.strs, Json.sortKeys, Json.sortKeysItems_eq_map, List.map_map]
  rfl

theorem strs_inj {texts texts' : List String} (h : Json.strs texts = .strs texts') :
    texts = texts' :=
  List.map_injective_iff.mpr (fun _ _ heq => Json.str.inj heq) (Json.arr.inj h)

end Json

/-- A JSON document: every dictionary in it has each key once. -/
structure Document where
  json : Json
  distinct : json.distinctKeys = true

/-! ## Plans -/

theorem RiskLevel.value_injective : Function.Injective RiskLevel.value := by
  intro a b h
  cases a <;> cases b <;> first | rfl | exact absurd h (by decide)

theorem JsonObject.toJson_injective : Function.Injective JsonObject.toJson := by
  rintro ⟨fields, _⟩ ⟨fields', _⟩ h
  cases h
  rfl

theorem JsonObject.sortKeys_toJson (o : JsonObject) : o.toJson.sortKeys (· ≤ ·) = o.toJson :=
  Json.sortKeys_of_isSorted o.sorted

theorem RemediationStep.eq_of_sortKeys {s s' : RemediationStep}
    (h : s.modelDump.sortKeys (· ≤ ·) = s'.modelDump.sortKeys (· ≤ ·)) : s = s' := by
  unfold RemediationStep.modelDump at h
  have hfields := Json.sortKeysFields_eq (by simp) (by simp) h
  simp only [Json.sortKeysFields, Json.sortKeys, Json.sortKeys_strs, JsonObject.sortKeys_toJson,
    List.cons.injEq, Prod.mk.injEq, Json.str.injEq, Json.int.injEq, Nat.cast_inj, Json.bool.injEq,
    true_and, and_true] at hfields
  obtain ⟨hid, horder, hagent, htool, hresource, harguments, hdepends, hrisk, happroval, hkey⟩ :=
    hfields
  have harguments := JsonObject.toJson_injective harguments
  have hdepends := Json.strs_inj hdepends
  have hrisk := RiskLevel.value_injective hrisk
  cases s
  cases s'
  simp_all

theorem steps_eq_of_sortKeys {steps steps' : List RemediationStep}
    (h : (steps.map (·.modelDump)).map (Json.sortKeys (· ≤ ·)) =
      (steps'.map (·.modelDump)).map (Json.sortKeys (· ≤ ·))) : steps = steps' := by
  rw [List.map_map, List.map_map] at h
  exact List.map_injective_iff.mpr (fun _ _ heq => RemediationStep.eq_of_sortKeys heq) h

/-- What the canonical text of a plan fixes: everything, the creation time up to its text. -/
theorem RemediationPlan.fields_eq_of_canonicalJson {p p' : RemediationPlan}
    (h : canonicalJson p.modelDump = canonicalJson p'.modelDump) :
    p.planId = p'.planId ∧ p.tenantId = p'.tenantId ∧ p.changeId = p'.changeId ∧
      p.version = p'.version ∧ p.riskLevel = p'.riskLevel ∧ p.summary = p'.summary ∧
      p.preconditions = p'.preconditions ∧ p.steps = p'.steps ∧
      p.verificationSteps = p'.verificationSteps ∧ p.rollbackSteps = p'.rollbackSteps ∧
      p.evidenceRefs = p'.evidenceRefs ∧ p.createdAt.isoformat = p'.createdAt.isoformat := by
  have hsorted := canonicalJson_eq_iff.mp h
  unfold RemediationPlan.modelDump at hsorted
  have hfields := Json.sortKeysFields_eq (by simp) (by simp) hsorted
  simp only [Json.sortKeysFields, Json.sortKeys, Json.sortKeys_strs, Json.sortKeysItems_eq_map,
    Time.toJson, List.cons.injEq, Prod.mk.injEq, Json.str.injEq, Json.int.injEq, Nat.cast_inj,
    Json.arr.injEq, true_and, and_true] at hfields
  obtain ⟨hplan, htenant, hchange, hversion, hrisk, hsummary, hpre, hsteps, hverify, hrollback,
    hevidence, hcreated⟩ := hfields
  exact ⟨hplan, htenant, hchange, hversion, RiskLevel.value_injective hrisk, hsummary,
    Json.strs_inj hpre, steps_eq_of_sortKeys hsteps, Json.strs_inj hverify,
    Json.strs_inj hrollback, Json.strs_inj hevidence, hcreated⟩

/-- The canonical text of a plan determines the plan. -/
theorem RemediationPlan.eq_of_canonicalJson {p p' : RemediationPlan}
    (h : canonicalJson p.modelDump = canonicalJson p'.modelDump) : p = p' := by
  obtain ⟨hplan, htenant, hchange, hversion, hrisk, hsummary, hpre, hsteps, hverify, hrollback,
    hevidence, hcreated⟩ := RemediationPlan.fields_eq_of_canonicalJson h
  have hinstant := Time.isoformat_injective hcreated
  cases p
  cases p'
  simp only [RemediationPlan.mk.injEq]
  exact ⟨hplan, htenant, hchange, hversion, hrisk, hsummary, hpre, hsteps, hverify, hrollback,
    hevidence, hinstant⟩

/-- A plan hash binds the plan, if digests do not collide. -/
theorem calculatePlanHash_injective [Sha256] (hinj : Function.Injective Sha256.hexdigest) :
    Function.Injective calculatePlanHash := by
  intro p p' h
  exact RemediationPlan.eq_of_canonicalJson (hinj ((String.append_right_inj "sha256:").mp h))

/-- **Canonical text decides documents.** Two documents have the same canonical text if and only
if they are equal with objects compared regardless of key order; two plans with the same
canonical text have the same steps, field by field. -/
theorem canonicalJson_decides :
    (∀ a b : Document, canonicalJson a.json = canonicalJson b.json ↔ a.json.Same b.json) ∧
      ∀ p q : RemediationPlan, canonicalJson p.modelDump = canonicalJson q.modelDump →
        p.steps = q.steps := by
  constructor
  · intro a b
    rw [canonicalJson_eq_iff, Json.same_iff_sortKeys a.distinct b.distinct]
  · intro p q h
    exact (RemediationPlan.fields_eq_of_canonicalJson h).2.2.2.2.2.2.2.1

/-- Two spellings of one document, with a quote and a comma inside its texts. -/
theorem canonicalJson_decides_reordered :
    Json.Same
      (.obj [("b", .arr [.int 1, .null]), ("a", .obj [("q\"", .str ","), ("n", .bool true)])])
      (.obj [("a", .obj [("n", .bool true), ("q\"", .str ",")]), ("b", .arr [.int 1, .null])]) :=
  (canonicalJson_decides.1 ⟨_, by decide⟩ ⟨_, by decide⟩).mp (by decide +kernel)

end ChangeOps
