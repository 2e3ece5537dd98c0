import ChangeOps.Core.TransitionLaw
import ChangeOps.ToolGateway.Repository

/-!
# ChangeOps.ToolGateway — an action is executed once

What sequences of calls do to the executions of the governance repository. An execution is found
through two dictionaries: the execution id of a tenant's idempotency key, and the record of an
execution id. Every call keeps the records or makes one of three moves (`ExecutionStep`): it
takes a record over, it reports on one, or it reserves a key for the first time. From this, by
induction over the calls, follow the invariant of the two dictionaries and what stays fixed.

Execution ids are truncated digests, so what is said about a sequence of calls assumes that the
ids of the keys in it do not collide.
-/

namespace ChangeOps

def ToolExecutionRecord.key (record : ToolExecutionRecord) : String × String :=
  (record.tenantId, record.idempotencyKey)

namespace GovernanceRepository

/-- The execution of an idempotency key. -/
def execution? (repo : GovernanceRepository) (key : String × String) : Option ToolExecutionRecord :=
  (repo.executionIds.get? key).bind fun id => repo.executions.get? (key.1, id)

end GovernanceRepository

open GovernanceRepository

/-- What a later record of an execution keeps. -/
structure SameExecution (record record' : ToolExecutionRecord) : Prop where
  executionId : record'.executionId = record.executionId
  key : record'.key = record.key
  changeId : record'.changeId = record.changeId
  inputHash : record'.inputHash = record.inputHash
  createdAt : record'.createdAt = record.createdAt

theorem SameExecution.refl (record : ToolExecutionRecord) : SameExecution record record :=
  ⟨rfl, rfl, rfl, rfl, rfl⟩

theorem SameExecution.trans {a b c : ToolExecutionRecord} (h : SameExecution a b)
    (h' : SameExecution b c) : SameExecution a c :=
  ⟨h'.executionId.trans h.executionId, h'.key.trans h.key, h'.changeId.trans h.changeId,
    h'.inputHash.trans h.inputHash, h'.createdAt.trans h.createdAt⟩

/-- A later record of the same execution, the same one if it had succeeded. -/
def Continues (record record' : ToolExecutionRecord) : Prop :=
  SameExecution record record' ∧ (record.status = .SUCCEEDED → record' = record)

theorem Continues.refl (record : ToolExecutionRecord) : Continues record record :=
  ⟨.refl record, fun _ => rfl⟩

theorem Continues.trans {a b c : ToolExecutionRecord} (h : Continues a b) (h' : Continues b c) :
    Continues a c := by
  refine ⟨h.1.trans h'.1, fun hsucceeded => ?_⟩
  have hb := h.2 hsucceeded
  rw [hb] at h'
  exact h'.2 hsucceeded

section Calls

variable [Sha256]

/-! ## Grants -/

/-- How many reservations of a key a call is granted: one or none. -/
def GovernanceCall.grants (repo : GovernanceRepository) (key : String × String) :
    GovernanceCall → Nat
  | .reserveExecution call =>
      match (repo.reserveExecution call).1 with
      | .ok ⟨_, false⟩ => if call.key = key then 1 else 0
      | _ => 0
  | _ => 0

/-- How many reservations of a key a sequence of calls is granted. -/
def executionGrants (key : String × String) : GovernanceRepository → List GovernanceCall → Nat
  | _, [] => 0
  | repo, call :: rest => call.grants repo key + executionGrants key (call.apply repo) rest

/-- The keys that a sequence of calls reserves. -/
def reserveKeys : List GovernanceCall → List (String × String)
  | [] => []
  | .reserveExecution call :: rest => call.key :: reserveKeys rest
  | _ :: rest => reserveKeys rest

/-- The execution ids of a tenant's keys do not collide. -/
def DistinctIds (keys : List (String × String)) : Prop :=
  ∀ key ∈ keys, ∀ key' ∈ keys, key.1 = key'.1 → executionId key = executionId key' → key = key'

/-! ## One call -/

/-- What a call does to the executions, and how many reservations it is granted. -/
inductive ExecutionStep (repo repo' : GovernanceRepository) (grants : String × String → Nat) : Prop
  | kept (hrecords : repo'.executions = repo.executions)
      (hids : repo'.executionIds = repo.executionIds) (hgrants : ∀ key, grants key = 0)
  | rewritten (place : String × String) (record record' : ToolExecutionRecord)
      (hget : repo.executions.get? place = some record)
      (hrecords : repo'.executions = repo.executions.set place record')
      (hids : repo'.executionIds = repo.executionIds) (hsame : SameExecution record record')
      (hopen : record.status ≠ .SUCCEEDED)
      (hattempts : record'.attemptCount = record.attemptCount + grants record.key)
      (hothers : ∀ key, key ≠ record.key → grants key = 0)
  | reserved (record : ToolExecutionRecord) (hnone : repo.executionIds.get? record.key = none)
      (hid : record.executionId = executionId record.key) (hfirst : record.attemptCount = 1)
      (hrecords : repo'.executions =
        repo.executions.set (record.tenantId, record.executionId) record)
      (hids : repo'.executionIds = repo.executionIds.set record.key record.executionId)
      (hgrants : grants record.key = 1) (hothers : ∀ key, key ≠ record.key → grants key = 0)

/-- The two dictionaries fit: an id leads to the record of its key, and a record is stored under
its own id and found through its key. -/
structure ExecutionInv (repo : GovernanceRepository) : Prop where
  found : ∀ {key id}, repo.executionIds.get? key = some id → id = executionId key ∧
    ∃ record, repo.executions.get? (key.1, id) = some record ∧ record.key = key
  owned : ∀ {place record}, repo.executions.get? place = some record →
    place = (record.tenantId, record.executionId) ∧
      repo.executionIds.get? record.key = some record.executionId

omit [Sha256] in
theorem sameExecution_reported {current updated : ToolExecutionRecord}
    {hreserved : current.status = .RESERVED} {report : ExecutionReport}
    (h : current.reported hreserved report = .ok updated) :
    SameExecution current updated ∧ updated.attemptCount = current.attemptCount := by
  cases report with
  | completed output outputHash completedAt =>
    simp only [ToolExecutionRecord.reported] at h
    cases hdigest : digestStr outputHash with
    | error e =>
      rw [hdigest] at h
      cases h
    | ok digest =>
      rw [hdigest] at h
      cases h
      exact ⟨⟨rfl, rfl, rfl, rfl, rfl⟩, rfl⟩
  | failed errorCode failedAt =>
    simp only [ToolExecutionRecord.reported] at h
    cases hcode : nonEmptyStr errorCode with
    | error e =>
      rw [hcode] at h
      cases h
    | ok code =>
      rw [hcode] at h
      cases h
      exact ⟨⟨rfl, rfl, rfl, rfl, rfl⟩, rfl⟩

theorem executionStep_reserve {repo : GovernanceRepository} (h : ExecutionInv repo)
    (call : ReserveCall) :
    ExecutionStep repo (repo.reserveExecution call).2
      fun key => (GovernanceCall.reserveExecution call).grants repo key := by
  rcases reserveExecution_cases call repo with ⟨e, heq⟩ | ⟨_, _, -, -, -, -, -, heq⟩ |
    ⟨id, existing, hid, hget, -, hopen, -, heq⟩ | ⟨inputHash, hnone, -, heq⟩
  · refine .kept ?_ ?_ fun key => ?_
    · rw [heq]
    · rw [heq]
    · simp only [GovernanceCall.grants, heq]
  · refine .kept ?_ ?_ fun key => ?_
    · rw [heq]
    · rw [heq]
    · simp only [GovernanceCall.grants, heq]
  · -- the record that the key leads to is the record of the key
    have hkey : call.key = existing.key := by
      obtain ⟨-, record, hrecord, hkey⟩ := h.found hid
      rw [show call.key.1 = call.intent.tenantId from rfl, hget] at hrecord
      cases hrecord
      exact hkey.symm
    refine .rewritten _ existing (existing.attemptedAgain call.intent call.decision.decisionId
      call.approvalId call.now) hget (by rw [heq]) (by rw [heq]) ⟨rfl, rfl, rfl, rfl, rfl⟩
      hopen ?_ fun key hne => ?_
    · simp only [GovernanceCall.grants, heq, hkey, if_true]
      rfl
    · simp only [GovernanceCall.grants, heq, hkey, if_neg (Ne.symm hne)]
  · refine .reserved (newExecution (executionId call.key) inputHash call.intent
      call.decision.decisionId call.approvalId call.now) hnone rfl rfl (by rw [heq]; rfl)
      (by rw [heq]; rfl) ?_ fun key hne => ?_
    · simp only [GovernanceCall.grants, heq]
      exact if_pos rfl
    · simp only [GovernanceCall.grants, heq]
      exact if_neg (Ne.symm hne)

theorem executionStep_apply {repo : GovernanceRepository} (h : ExecutionInv repo)
    (call : GovernanceCall) :
    ExecutionStep repo (call.apply repo) fun key => call.grants repo key := by
  cases call with
  | createApprovalRequest record plan =>
    show ExecutionStep repo (repo.createApprovalRequest record plan).2 _
    rcases createApprovalRequest_cases record plan repo with ⟨e, heq⟩ |
      ⟨_, _, -, -, -, -, -, -, heq⟩ | ⟨_, -, -, -, heq⟩ <;>
      exact .kept (by rw [heq]) (by rw [heq]) fun _ => rfl
  | decideApproval call =>
    show ExecutionStep repo (repo.decideApproval call).2 _
    rcases decideApproval_cases call repo with ⟨e, heq⟩ | ⟨_, -, -, -, heq⟩ |
      ⟨_, _, -, -, -, -, -, -, heq⟩ <;>
      exact .kept (by rw [heq]) (by rw [heq]) fun _ => rfl
  | reserveExecution call => exact executionStep_reserve h call
  | reportExecution tenantId changeId executionId report =>
    show ExecutionStep repo (repo.reportExecution tenantId changeId executionId report).2 _
    rcases reportExecution_cases tenantId changeId executionId report repo with ⟨e, heq⟩ |
      ⟨current, hreserved, updated, hget, -, hreported, heq⟩
    · exact .kept (by rw [heq]) (by rw [heq]) fun _ => rfl
    · obtain ⟨hsame, hattempts⟩ := sameExecution_reported hreported
      exact .rewritten _ current updated hget (by rw [heq]) (by rw [heq]) hsame
        (by rw [hreserved]; decide) hattempts fun _ _ => rfl
  | recordAudit event =>
    show ExecutionStep repo (repo.recordAudit event).2 _
    rcases recordAudit_cases event repo with ⟨e, heq⟩ | heq <;>
      exact .kept (by rw [heq]) (by rw [heq]) fun _ => rfl

/-! ## The invariant -/

theorem executionInv_empty : ExecutionInv GovernanceRepository.empty where
  found h := by cases h
  owned h := by cases h

/-- The keys that have an execution are among the given ones. -/
def KeysWithin (keys : List (String × String)) (repo : GovernanceRepository) : Prop :=
  ∀ key id, repo.executionIds.get? key = some id → key ∈ keys

variable {keys : List (String × String)}

/-- A place for a new key holds no record, if its id does not collide. -/
theorem ExecutionInv.fresh {repo : GovernanceRepository} (h : ExecutionInv repo)
    (hkeys : KeysWithin keys repo) (hdistinct : DistinctIds keys) {key : String × String}
    (hmem : key ∈ keys) (hnone : repo.executionIds.get? key = none) :
    repo.executions.get? (key.1, executionId key) = none := by
  by_contra hne
  obtain ⟨record, hget⟩ := Option.ne_none_iff_exists'.mp hne
  obtain ⟨hplace, hid⟩ := h.owned hget
  obtain ⟨htenant, hexecution⟩ := Prod.mk.inj hplace
  have hsame := hdistinct key hmem record.key (hkeys _ _ hid) htenant
    (hexecution.trans (h.found hid).1)
  rw [hsame, hid] at hnone
  cases hnone

theorem ExecutionInv.step {repo repo' : GovernanceRepository} {grants : String × String → Nat}
    (h : ExecutionInv repo) (hstep : ExecutionStep repo repo' grants)
    (hkeys : KeysWithin keys repo) (hkeys' : KeysWithin keys repo')
    (hdistinct : DistinctIds keys) : ExecutionInv repo' := by
  cases hstep with
  | kept hrecords hids hgrants =>
    constructor
    · rw [hids, hrecords]
      exact h.found
    · rw [hids, hrecords]
      exact h.owned
  | rewritten place record record' hget hrecords hids hsame hopen hattempts hothers =>
    constructor
    · intro key id hid
      rw [hids] at hid
      obtain ⟨heq, found, hfound, hkey⟩ := h.found hid
      refine ⟨heq, ?_⟩
      rw [hrecords, Dict.get?_set]
      split_ifs with hplace
      · rw [hplace, hget] at hfound
        cases hfound
        exact ⟨record', rfl, hsame.key.trans hkey⟩
      · exact ⟨found, hfound, hkey⟩
    · intro place' found hfound
      rw [hrecords, Dict.get?_set] at hfound
      rw [hids]
      split_ifs at hfound with hplace
      · cases hfound
        obtain ⟨hown, hid⟩ := h.owned hget
        rw [hsame.key, hsame.executionId, hplace]
        exact ⟨by rw [hown, show record'.tenantId = record.tenantId from congrArg Prod.fst hsame.key],
          hid⟩
      · exact h.owned hfound
  | reserved record hnone hid hfirst hrecords hids hgrants hothers =>
    have hmem : record.key ∈ keys :=
      hkeys' record.key record.executionId (by rw [hids]; exact Dict.get?_set_self _ _ _)
    have hfresh := h.fresh hkeys hdistinct hmem hnone
    rw [← hid] at hfresh
    constructor
    · intro key id hget
      rw [hids, Dict.get?_set] at hget
      split_ifs at hget with hkey
      · cases hget
        refine ⟨by rw [hkey, hid], record, ?_, hkey.symm⟩
        rw [hrecords, hkey]
        exact Dict.get?_set_self _ _ _
      · obtain ⟨heq, found, hfound, hfoundKey⟩ := h.found hget
        refine ⟨heq, found, ?_, hfoundKey⟩
        rw [hrecords, Dict.get?_set_ne, hfound]
        intro hplace
        rw [hplace, show record.tenantId = record.key.1 from rfl, hfresh] at hfound
        cases hfound
    · intro place found hfound
      rw [hrecords, Dict.get?_set] at hfound
      split_ifs at hfound with hplace
      · cases hfound
        exact ⟨hplace, by rw [hids]; exact Dict.get?_set_self _ _ _⟩
      · obtain ⟨hown, hget⟩ := h.owned hfound
        refine ⟨hown, ?_⟩
        rw [hids, Dict.get?_set_ne, hget]
        intro hkey
        rw [hkey, hnone] at hget
        cases hget

/-! ## What stays fixed -/

theorem ExecutionInv.execution?_eq_some {repo : GovernanceRepository} (h : ExecutionInv repo)
    {key : String × String} {record : ToolExecutionRecord} :
    repo.execution? key = some record ↔
      repo.executions.get? (record.tenantId, record.executionId) = some record ∧
        record.key = key := by
  unfold execution?
  constructor
  · intro hget
    obtain ⟨id, hid, hrecord⟩ := Option.bind_eq_some_iff.mp hget
    obtain ⟨-, found, hfound, hkey⟩ := h.found hid
    rw [hrecord] at hfound
    cases hfound
    exact ⟨by rw [← (h.owned hrecord).1]; exact hrecord, hkey⟩
  · rintro ⟨hrecord, hkey⟩
    have hid := (h.owned hrecord).2
    rw [hkey] at hid
    rw [hid, ← hkey]
    exact hrecord

theorem ExecutionInv.continues {repo repo' : GovernanceRepository} {grants : String × String → Nat}
    (h : ExecutionInv repo) (hstep : ExecutionStep repo repo' grants)
    (hkeys : KeysWithin keys repo) (hkeys' : KeysWithin keys repo') (hdistinct : DistinctIds keys)
    {key : String × String} {record : ToolExecutionRecord} (hget : repo.execution? key = some record) :
    ∃ record', repo'.execution? key = some record' ∧ Continues record record' ∧
      record'.attemptCount = record.attemptCount + grants key := by
  have h' := h.step hstep hkeys hkeys' hdistinct
  obtain ⟨hrecord, rfl⟩ := h.execution?_eq_some.mp hget
  cases hstep with
  | kept hrecords hids hgrants =>
    refine ⟨record, h'.execution?_eq_some.mpr ⟨?_, rfl⟩, .refl record, by rw [hgrants]; rfl⟩
    rw [hrecords]
    exact hrecord
  | rewritten place old new hold hrecords hids hsame hopen hattempts hothers =>
    by_cases hplace : (record.tenantId, record.executionId) = place
    · rw [hplace, hold] at hrecord
      cases hrecord
      refine ⟨new, h'.execution?_eq_some.mpr ⟨?_, hsame.key⟩, ⟨hsame, fun hs => absurd hs hopen⟩,
        hattempts⟩
      have htenant : new.tenantId = record.tenantId := congrArg Prod.fst hsame.key
      rw [hrecords, htenant, hsame.executionId, hplace]
      exact Dict.get?_set_self _ _ _
    · have hne : record.key ≠ old.key := by
        intro hkey
        have hid := (h.owned hrecord).2
        rw [hkey, (h.owned hold).2] at hid
        apply hplace
        rw [(h.owned hold).1, Option.some.inj hid]
        exact congrArg (Prod.mk · _) (congrArg Prod.fst hkey)
      refine ⟨record, h'.execution?_eq_some.mpr ⟨?_, rfl⟩, .refl record, by rw [hothers _ hne]; rfl⟩
      rw [hrecords, Dict.get?_set_ne _ _ hplace]
      exact hrecord
  | reserved new hnone hid hfirst hrecords hids hgrants hothers =>
    have hne : record.key ≠ new.key := by
      intro hkey
      have hown := (h.owned hrecord).2
      rw [hkey, hnone] at hown
      cases hown
    refine ⟨record, h'.execution?_eq_some.mpr ⟨?_, rfl⟩, .refl record, by rw [hothers _ hne]; rfl⟩
    rw [hrecords, Dict.get?_set_ne, hrecord]
    intro hplace
    have hmem : new.key ∈ keys :=
      hkeys' new.key new.executionId (by rw [hids]; exact Dict.get?_set_self _ _ _)
    rw [hplace, hid, show new.tenantId = new.key.1 from rfl,
      h.fresh hkeys hdistinct hmem hnone] at hrecord
    cases hrecord

/-! ## Sequences of calls -/

theorem mem_reserveKeys_of_grants {call : GovernanceCall} {repo : GovernanceRepository}
    {key : String × String} (h : call.grants repo key ≠ 0) : key ∈ reserveKeys [call] := by
  cases call with
  | reserveExecution call =>
    simp only [GovernanceCall.grants] at h
    have hkey : call.key = key := by
      by_contra hne
      apply h
      split
      · exact if_neg hne
      · rfl
    rw [← hkey]
    exact List.mem_cons_self
  | _ => exact absurd rfl h

omit [Sha256] in
theorem reserveKeys_append (calls later : List GovernanceCall) :
    reserveKeys (calls ++ later) = reserveKeys calls ++ reserveKeys later := by
  induction calls with
  | nil => rfl
  | cons call rest ih =>
    cases call with
    | reserveExecution call =>
      rw [List.cons_append, reserveKeys, reserveKeys, ih]
      rfl
    | _ => exact ih

theorem KeysWithin.step {repo repo' : GovernanceRepository} {call : GovernanceCall}
    (hkeys : KeysWithin keys repo)
    (hstep : ExecutionStep repo repo' fun key => call.grants repo key)
    (hcall : reserveKeys [call] ⊆ keys) : KeysWithin keys repo' := by
  intro key id hget
  cases hstep with
  | kept hrecords hids hgrants =>
    rw [hids] at hget
    exact hkeys key id hget
  | rewritten place record record' hold hrecords hids hsame hopen hattempts hothers =>
    rw [hids] at hget
    exact hkeys key id hget
  | reserved record hnone hid hfirst hrecords hids hgrants hothers =>
    rw [hids, Dict.get?_set] at hget
    split_ifs at hget with hkey
    · rw [hkey]
      exact hcall (mem_reserveKeys_of_grants (by rw [hgrants]; exact Nat.one_ne_zero))
    · exact hkeys key id hget

/-- A store after calls that were granted `granted key` reservations of each key. -/
structure Tallied (keys : List (String × String)) (repo : GovernanceRepository)
    (granted : String × String → Nat) : Prop where
  inv : ExecutionInv repo
  within : KeysWithin keys repo
  attempts : ∀ {key record}, repo.execution? key = some record → record.attemptCount = granted key
  unreserved : ∀ {key}, repo.executionIds.get? key = none → granted key = 0

theorem tallied_empty : Tallied keys .empty fun _ => 0 where
  inv := executionInv_empty
  within _ _ h := by cases h
  attempts h := by cases h
  unreserved _ := rfl

theorem Tallied.apply {repo : GovernanceRepository} {granted : String × String → Nat}
    (h : Tallied keys repo granted) (hdistinct : DistinctIds keys) {call : GovernanceCall}
    (hcall : reserveKeys [call] ⊆ keys) :
    Tallied keys (call.apply repo) (fun key => granted key + call.grants repo key) ∧
      ∀ {key record}, repo.execution? key = some record →
        ∃ record', (call.apply repo).execution? key = some record' ∧ Continues record record' := by
  have hstep := executionStep_apply h.inv call
  have hkeys := h.within.step hstep hcall
  have hcontinues : ∀ {key record}, repo.execution? key = some record →
      ∃ record', (call.apply repo).execution? key = some record' ∧ Continues record record' ∧
        record'.attemptCount = record.attemptCount + call.grants repo key :=
    fun hget => h.inv.continues hstep h.within hkeys hdistinct hget
  have hinv := h.inv.step hstep h.within hkeys hdistinct
  refine ⟨⟨hinv, hkeys, ?_, ?_⟩, ?_⟩
  · intro key record' hget'
    cases hget : repo.execution? key with
    | some record =>
      obtain ⟨found, hfound, -, hattempts⟩ := hcontinues hget
      rw [hget'] at hfound
      cases hfound
      rw [hattempts, h.attempts hget]
    | none =>
      -- the record is the first of its key
      have hnone : repo.executionIds.get? key = none := by
        cases hid : repo.executionIds.get? key with
        | none => rfl
        | some id =>
          obtain ⟨-, record, hrecord, -⟩ := h.inv.found hid
          rw [execution?, hid, Option.bind_some, hrecord] at hget
          cases hget
      obtain ⟨id, hid, -⟩ := Option.bind_eq_some_iff.mp hget'
      cases hstep with
      | kept hrecords hids hgrants =>
        rw [hids, hnone] at hid
        cases hid
      | rewritten place old new hold hrecords hids hsame hopen hattempts hothers =>
        rw [hids, hnone] at hid
        cases hid
      | reserved new hnew hnewId hfirst hrecords hids hgrants hothers =>
        rw [hids, Dict.get?_set] at hid
        split_ifs at hid with hkey
        · have hnewGet : (call.apply repo).execution? new.key = some new :=
            hinv.execution?_eq_some.mpr ⟨by rw [hrecords]; exact Dict.get?_set_self _ _ _, rfl⟩
          rw [hkey, hnewGet] at hget'
          cases hget'
          rw [hkey, hfirst, hgrants, h.unreserved hnew]
        · rw [hnone] at hid
          cases hid
  · intro key hnone
    cases hstep with
    | kept hrecords hids hgrants =>
      rw [hids] at hnone
      rw [h.unreserved hnone, hgrants]
    | rewritten place old new hold hrecords hids hsame hopen hattempts hothers =>
      rw [hids] at hnone
      have hne : key ≠ old.key := by
        intro hkey
        rw [hkey, (h.inv.owned hold).2] at hnone
        cases hnone
      rw [h.unreserved hnone, hothers key hne]
    | reserved new hnew hnewId hfirst hrecords hids hgrants hothers =>
      rw [hids, Dict.get?_set] at hnone
      split_ifs at hnone with hkey
      rw [h.unreserved hnone, hothers key hkey]
  · intro key record hget
    obtain ⟨record', hget', hsame, -⟩ := hcontinues hget
    exact ⟨record', hget', hsame⟩

theorem Tallied.after {repo : GovernanceRepository} {granted : String × String → Nat}
    (h : Tallied keys repo granted) (hdistinct : DistinctIds keys) {calls : List GovernanceCall}
    (hcalls : reserveKeys calls ⊆ keys) :
    Tallied keys (repo.after calls) (fun key => granted key + executionGrants key repo calls) ∧
      ∀ {key record}, repo.execution? key = some record →
        ∃ record', (repo.after calls).execution? key = some record' ∧ Continues record record' := by
  induction calls generalizing repo granted with
  | nil => exact ⟨h, fun hget => ⟨_, hget, .refl _⟩⟩
  | cons call rest ih =>
    have hkeys := reserveKeys_append [call] rest
    rw [List.singleton_append] at hkeys
    rw [hkeys, List.append_subset] at hcalls
    obtain ⟨hnext, hcontinues⟩ := h.apply hdistinct hcalls.1
    obtain ⟨hlast, hrest⟩ := ih hnext hcalls.2
    refine ⟨?_, ?_⟩
    · have hsum : (fun key => granted key + executionGrants key repo (call :: rest)) =
          fun key => granted key + call.grants repo key +
            executionGrants key (call.apply repo) rest := by
        funext key
        rw [executionGrants, Nat.add_assoc]
      rw [hsum]
      exact hlast
    · intro key record hget
      obtain ⟨record', hget', hsame⟩ := hcontinues hget
      obtain ⟨record'', hget'', hsame'⟩ := hrest hget'
      exact ⟨record'', hget'', hsame.trans hsame'⟩

/-- The refusal of a key that was used for another action. -/
def idempotencyConflict : GatewayExn :=
  .gateway (conflictError "Idempotency key was already used for a different tool action."
    "IDEMPOTENCY_CONFLICT")

/-- What holds of the executions of a store, with the reservations granted so far, and of every
later store `repo'`. -/
structure ExecutesOnce (repo repo' : GovernanceRepository) (granted : String × String → Nat) :
    Prop where
  /-- There is at most one record for a key, and the key leads to it. -/
  unique : ∀ {place place' record record'}, repo.executions.get? place = some record →
    repo.executions.get? place' = some record' → record.key = record'.key → place = place'
  found : ∀ {place record}, repo.executions.get? place = some record →
    repo.execution? record.key = some record
  attempts : ∀ {key record}, repo.execution? key = some record → record.attemptCount = granted key
  /-- The record of a key stays the record of the same execution; once it has succeeded it stays
  as it is. -/
  stable : ∀ {key record}, repo.execution? key = some record →
    ∃ record', repo'.execution? key = some record' ∧ SameExecution record record' ∧
      (record.status = .SUCCEEDED → record' = record)
  /-- Once it has succeeded, a call that returns is given the stored result, -/
  ungranted : ∀ {call record reservation}, repo.execution? call.key = some record →
    record.status = .SUCCEEDED → (repo'.reserveExecution call).1 = .ok reservation →
    reservation = ⟨record, true⟩
  /-- and every call for the same action with a valid approval is. -/
  replays : ∀ {call record}, repo.execution? call.key = some record → record.status = .SUCCEEDED →
    call.inputHash = record.inputHash → repo'.checkApproval call = .ok () →
    repo'.reserveExecution call = (.ok ⟨record, true⟩, repo')
  /-- A call for another action is refused: by the approval check, or else as a conflict. -/
  conflicts : ∀ {call record}, repo.execution? call.key = some record →
    call.inputHash ≠ record.inputHash → repo'.checkApproval call = .ok () →
    repo'.reserveExecution call = (.error idempotencyConflict, repo')
  unapproved : ∀ {call e}, repo'.checkApproval call = .error e →
    repo'.reserveExecution call = (.error e, repo')

/-- The part of a reservation after the approval check, for a key that has an execution. -/
theorem reserveExecution_existing {repo : GovernanceRepository} {call : ReserveCall}
    {record : ToolExecutionRecord} (hcheck : repo.checkApproval call = .ok ())
    (hget : repo.execution? call.key = some record) :
    (call.inputHash ≠ record.inputHash →
      repo.reserveExecution call = (.error idempotencyConflict, repo)) ∧
      (call.inputHash = record.inputHash → record.status = .SUCCEEDED →
        repo.reserveExecution call = (.ok ⟨record, true⟩, repo)) := by
  obtain ⟨id, hid, hrecord⟩ := Option.bind_eq_some_iff.mp hget
  rw [show call.key.1 = call.intent.tenantId from rfl] at hrecord
  unfold reserveExecution reserveChecked
  simp only [hcheck, hid, hrecord]
  constructor
  · intro hne
    rw [if_pos (Ne.symm hne)]
    rfl
  · intro heq hsucceeded
    rw [if_neg (not_not_intro heq.symm), if_pos hsucceeded]

/-- For every sequence of calls and every continuation of it, if the execution ids of its keys do
not collide. -/
theorem executesOnce (calls later : List GovernanceCall)
    (hdistinct : DistinctIds (reserveKeys (calls ++ later))) :
    ExecutesOnce (GovernanceRepository.empty.after calls)
      ((GovernanceRepository.empty.after calls).after later)
      (fun key => executionGrants key .empty calls) := by
  rw [reserveKeys_append] at hdistinct
  obtain ⟨htally, -⟩ := tallied_empty.after hdistinct
    (List.subset_append_left (reserveKeys calls) (reserveKeys later))
  obtain ⟨-, hcontinues⟩ := htally.after hdistinct
    (List.subset_append_right (reserveKeys calls) (reserveKeys later))
  simp only [Nat.zero_add] at htally
  constructor
  case unique =>
    intro place place' record record' hget hget' hkey
    obtain ⟨hplace, hid⟩ := htally.inv.owned hget
    obtain ⟨hplace', hid'⟩ := htally.inv.owned hget'
    rw [hkey, hid'] at hid
    rw [hplace, hplace', Option.some.inj hid]
    exact congrArg (Prod.mk · _) (congrArg Prod.fst hkey)
  case found =>
    intro place record hget
    refine htally.inv.execution?_eq_some.mpr ⟨?_, rfl⟩
    rw [← (htally.inv.owned hget).1]
    exact hget
  case attempts =>
    intro key record hget
    exact htally.attempts hget
  case stable =>
    intro key record hget
    obtain ⟨record', hget', hsame, hfinal⟩ := hcontinues hget
    exact ⟨record', hget', hsame, hfinal⟩
  case ungranted =>
    intro call record reservation hget hsucceeded hok
    obtain ⟨record', hget', hsame, hfinal⟩ := hcontinues hget
    obtain rfl := hfinal hsucceeded
    cases hcheck : ((GovernanceRepository.empty.after calls).after later).checkApproval call with
    | error e =>
      rw [reserveExecution, hcheck] at hok
      cases hok
    | ok u =>
      obtain ⟨hconflict, hreplay⟩ := reserveExecution_existing hcheck hget'
      by_cases hhash : call.inputHash = record'.inputHash
      · rw [hreplay hhash hsucceeded] at hok
        exact (Except.ok.inj hok).symm
      · rw [hconflict hhash] at hok
        cases hok
  case replays =>
    intro call record hget hsucceeded hhash hcheck
    obtain ⟨record', hget', hsame, hfinal⟩ := hcontinues hget
    obtain rfl := hfinal hsucceeded
    exact (reserveExecution_existing hcheck hget').2 hhash hsucceeded
  case conflicts =>
    intro call record hget hhash hcheck
    obtain ⟨record', hget', hsame, hfinal⟩ := hcontinues hget
    rw [← hsame.inputHash] at hhash
    exact (reserveExecution_existing hcheck hget').1 hhash
  case unapproved =>
    intro call e hcheck
    rw [reserveExecution, hcheck]

/-- A key without an execution is reserved. -/
theorem execution?_reserve_empty {call : ReserveCall} {inputHash : String}
    (hrequired : call.decision.approvalRequired = false)
    (hdigest : digestStr call.inputHash = .ok inputHash) :
    ∃ record, ((GovernanceCall.reserveExecution call).apply .empty).execution? call.key =
      some record ∧ record.inputHash = inputHash := by
  rcases reserveExecution_cases call .empty with ⟨e, heq⟩ | ⟨_, _, -, hid, -⟩ | ⟨_, _, hid, -⟩ |
    ⟨inputHash', -, hdigest', heq⟩
  · simp [reserveExecution, checkApproval, hrequired, reserveChecked, GovernanceRepository.empty,
      hdigest] at heq
  · cases hid
  · cases hid
  · rw [hdigest] at hdigest'
    cases hdigest'
    refine ⟨newExecution (executionId call.key) inputHash call.intent call.decision.decisionId
      call.approvalId call.now, ?_, rfl⟩
    rw [GovernanceCall.apply, heq, execution?]
    dsimp only
    rw [Dict.get?_set_self, Option.bind_some]
    exact Dict.get?_set_self _ _ _

end Calls

/-! ## Another action without an approval

The key is used by an action that needs no approval; then another action is submitted under it
that needs one and has none. -/

namespace Demo

def toolIntent : ToolIntent where
  intentId := "intent_001"
  tenantId := "tenant_demo"
  changeId := "chg_001"
  workflowExecutionId := "wf_001"
  planId := "plan_001"
  planHash := "sha256:00"
  stepId := "step_crm"
  agentIdentity := "crm"
  toolName := "crm.update_field_mapping"
  action := "update"
  resource := "crm://tenant/tenant_demo/configuration/customer"
  arguments := ⟨[], by decide⟩
  reason := "Rename the customer field"
  evidenceRefs := []
  idempotencyKey := "key_crm"
  requestedAt := 0

def policyDecision (approvalRequired : Bool) : PolicyDecision where
  decisionId := "decision_001"
  tenantId := "tenant_demo"
  intentId := "intent_001"
  effect := .ALLOW
  computedRisk := .HIGH
  approvalRequired := approvalRequired
  approvalValid := false
  matchedPolicyIds := []
  reasons := []
  evaluatedAt := 0

def inputHash (digit : Char) : String := "sha256:" ++ String.ofList (List.replicate 64 digit)

def reserve (approvalRequired : Bool) (digit : Char) : ReserveCall :=
  ⟨toolIntent, policyDecision approvalRequired, none, inputHash digit, 0⟩

/-- The same action under another key. -/
def reserveOther : ReserveCall :=
  { reserve false '0' with intent := { toolIntent with idempotencyKey := "key_crm_2" } }

end Demo

open scoped Demo

/-- The ids of the two keys differ. -/
theorem executesOnce_demo : ExecutesOnce
    (GovernanceRepository.empty.after
      [.reserveExecution (Demo.reserve false '0'), .reserveExecution Demo.reserveOther])
    ((GovernanceRepository.empty.after
      [.reserveExecution (Demo.reserve false '0'), .reserveExecution Demo.reserveOther]).after
      [.reserveExecution (Demo.reserve false '1')])
    (fun key => executionGrants key .empty
      [.reserveExecution (Demo.reserve false '0'), .reserveExecution Demo.reserveOther]) := by
  apply executesOnce
  unfold DistinctIds
  decide +kernel

theorem digestStr_demo : digestStr (Demo.inputHash '0') = .ok (Demo.inputHash '0') := by
  unfold digestStr stripWhitespace
  decide +kernel

theorem not_conflicts_unapproved :
    ¬ ∀ [Sha256] (calls : List GovernanceCall) (call : ReserveCall) (record : ToolExecutionRecord),
      DistinctIds (reserveKeys calls) →
      (GovernanceRepository.empty.after calls).execution? call.key = some record →
      call.inputHash ≠ record.inputHash →
      (GovernanceRepository.empty.after calls).reserveExecution call =
        (.error idempotencyConflict, GovernanceRepository.empty.after calls) := by
  intro h
  obtain ⟨record, hget, hhash⟩ :=
    execution?_reserve_empty (show (Demo.reserve false '0').decision.approvalRequired = false from rfl)
      digestStr_demo
  have hconflict := h [.reserveExecution (Demo.reserve false '0')] (Demo.reserve true '1') record
    (by
      intro key hmem key' hmem' _ _
      rw [List.mem_singleton.mp hmem, List.mem_singleton.mp hmem'])
    hget (by rw [hhash]; decide)
  have hrefused : ∀ repo : GovernanceRepository, repo.checkApproval (Demo.reserve true '1') =
      .error (.gateway approvalRequiredError) := fun _ => rfl
  rw [reserveExecution, hrefused] at hconflict
  have herror : GatewayExn.gateway approvalRequiredError = idempotencyConflict :=
    Except.error.inj (Prod.mk.inj hconflict).1
  exact absurd herror (by decide)

end ChangeOps
