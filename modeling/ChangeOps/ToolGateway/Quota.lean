import ChangeOps.ToolGateway.Takeover

/-!
# ChangeOps.ToolGateway — the quota of a tool

`ToolQuotaManager` (`quota.py`) with the lock that its entry and its exit take. The blocks under the
lock do not await, so each of them is one step; what may happen in between is that the lock is
waited for, that the body ends, and that the request's scope is cancelled, after which its next
await raises.

The count of a key is the number of the requests that are inside and of those that were cancelled
before they had the lock of the exit (`Balanced`): these are gone, and their places are not given
back. The last section follows `evaluate_and_execute`, where an execution is reserved inside only.
-/

namespace ChangeOps

/-! ## The manager -/

/-- `ToolQuotaManager`; a maximum below one is refused. -/
structure ToolQuotaManager where
  maximum : Nat
  maximum_pos : 1 ≤ maximum
  /-- `defaultdict(int)`. -/
  active : Dict (String × String) Int

namespace ToolQuotaManager

def new (maximum : Nat) (h : 1 ≤ maximum) : ToolQuotaManager := ⟨maximum, h, .empty⟩

/-- `self._active[key]`. -/
def count (quotas : ToolQuotaManager) (key : String × String) : Int := quotas.active.getD key 0

/-- `self._active[key] = count`; to read a key that is missing enters a zero for it. -/
def enter (quotas : ToolQuotaManager) (key : String × String) (count : Int) : ToolQuotaManager :=
  { quotas with active := quotas.active.set key count }

/-- The block under the lock of the entry. -/
def reserve (quotas : ToolQuotaManager) (key : String × String) :
    Except GatewayError Unit × ToolQuotaManager :=
  let quotas := quotas.enter key (quotas.count key)
  if (quotas.maximum : Int) ≤ quotas.count key then (.error rateLimitedError, quotas)
  else (.ok (), quotas.enter key (quotas.count key + 1))

/-- The block under the lock of the exit. -/
def dismiss (quotas : ToolQuotaManager) (key : String × String) : ToolQuotaManager :=
  let quotas := quotas.enter key (quotas.count key - 1)
  if quotas.count key = 0 then { quotas with active := quotas.active.erase key } else quotas

/-! ### What the two blocks do -/

variable {quotas : ToolQuotaManager} {key : String × String}

/-- No entry of the table is zero. -/
def Positive (quotas : ToolQuotaManager) : Prop :=
  ∀ key n, quotas.active.get? key = some n → 0 < n

@[simp] theorem maximum_enter (quotas : ToolQuotaManager) (key : String × String) (count : Int) :
    (quotas.enter key count).maximum = quotas.maximum := rfl

@[simp] theorem count_enter (quotas : ToolQuotaManager) (key key' : String × String) (count : Int) :
    (quotas.enter key count).count key' = if key' = key then count else quotas.count key' :=
  Dict.getD_set _ _ _ _ _

theorem Positive.enter (h : quotas.Positive) {count : Int} (hcount : 0 < count) :
    (quotas.enter key count).Positive := by
  intro key' n hget
  unfold ToolQuotaManager.enter at hget
  rw [Dict.get?_set] at hget
  split_ifs at hget
  · cases hget
    exact hcount
  · exact h _ _ hget

theorem reserve_of_le (h : (quotas.maximum : Int) ≤ quotas.count key) :
    quotas.reserve key = (.error rateLimitedError, quotas.enter key (quotas.count key)) := by
  simp [reserve, h]

theorem reserve_of_lt (h : quotas.count key < quotas.maximum) :
    quotas.reserve key = (.ok (), (quotas.enter key (quotas.count key)).enter key
      (quotas.count key + 1)) := by
  have hnot : ¬ (quotas.maximum : Int) ≤ quotas.count key := by omega
  simp [reserve, hnot]

@[simp] theorem maximum_reserve (quotas : ToolQuotaManager) (key : String × String) :
    (quotas.reserve key).2.maximum = quotas.maximum := by
  unfold reserve
  dsimp only
  split_ifs <;> rfl

@[simp] theorem maximum_dismiss (quotas : ToolQuotaManager) (key : String × String) :
    (quotas.dismiss key).maximum = quotas.maximum := by
  unfold dismiss
  dsimp only
  split_ifs <;> rfl

theorem count_reserve (quotas : ToolQuotaManager) (key key' : String × String) :
    (quotas.reserve key).2.count key' =
      quotas.count key' + if (quotas.reserve key).1.isOk ∧ key' = key then 1 else 0 := by
  by_cases h : (quotas.maximum : Int) ≤ quotas.count key
  · rw [reserve_of_le h, count_enter]
    split_ifs <;> simp_all [Except.isOk, Except.toBool]
  · rw [reserve_of_lt (by omega), count_enter, count_enter]
    split_ifs <;> simp_all [Except.isOk, Except.toBool]

theorem count_dismiss (quotas : ToolQuotaManager) (key key' : String × String) :
    (quotas.dismiss key).count key' = quotas.count key' - if key' = key then 1 else 0 := by
  unfold dismiss
  dsimp only
  split_ifs with hzero heq heq
  · -- the entry is deleted, and a key that is missing counts zero
    subst heq
    rw [count_enter, if_pos rfl] at hzero
    rw [count, Dict.getD_erase, if_pos rfl]
    omega
  · rw [count, Dict.getD_erase, if_neg heq]
    show (quotas.enter key (quotas.count key - 1)).count key' = _
    rw [count_enter, if_neg heq]
    omega
  · rw [count_enter, if_pos heq, heq]
  · rw [count_enter, if_neg heq]
    omega

theorem count_reserve_le (h : ∀ key, quotas.count key ≤ quotas.maximum) (key' : String × String) :
    (quotas.reserve key).2.count key' ≤ quotas.maximum := by
  have hle := h key'
  by_cases hfull : (quotas.maximum : Int) ≤ quotas.count key
  · rw [reserve_of_le hfull, count_enter]
    split_ifs with heq
    · exact h key
    · exact hle
  · rw [reserve_of_lt (by omega), count_enter, count_enter]
    split_ifs <;> omega

theorem Positive.reserve (h : quotas.Positive) (hnonneg : 0 ≤ quotas.count key) :
    (quotas.reserve key).2.Positive := by
  have hmaximum := quotas.maximum_pos
  by_cases hfull : (quotas.maximum : Int) ≤ quotas.count key
  · rw [reserve_of_le hfull]
    exact h.enter (by omega)
  · rw [reserve_of_lt (by omega)]
    intro key' n hget
    unfold ToolQuotaManager.enter at hget
    rw [Dict.get?_set] at hget
    split_ifs at hget with hkey
    · cases hget
      omega
    · rw [Dict.get?_set, if_neg hkey] at hget
      exact h _ _ hget

theorem Positive.dismiss (h : quotas.Positive) (hcount : 1 ≤ quotas.count key) :
    (quotas.dismiss key).Positive := by
  unfold ToolQuotaManager.dismiss
  dsimp only
  rw [count_enter, if_pos rfl]
  split_ifs with hzero
  · intro key' n hget
    rw [Dict.get?_erase] at hget
    split_ifs at hget with hkey
    unfold ToolQuotaManager.enter at hget
    rw [Dict.get?_set, if_neg hkey] at hget
    exact h _ _ hget
  · exact h.enter (by omega)

/-- A table without zeros in which every key counts zero is empty. -/
theorem Positive.empty (h : quotas.Positive) (hzero : ∀ key, quotas.count key = 0) :
    quotas.active = .empty := by
  have hentries : quotas.active.entries = [] := by
    rw [List.eq_nil_iff_forall_not_mem]
    rintro ⟨key, n⟩ hmem
    have hget := Dict.get?_of_mem hmem
    have hn := h _ _ hget
    have hcount := hzero key
    rw [count, Dict.getD, hget] at hcount
    exact absurd hcount (by simpa using hn.ne')
  cases quotas with
  | mk maximum maximum_pos active =>
    cases active with
    | mk entries nodup =>
      cases hentries
      rfl

end ToolQuotaManager

/-! ## Requests and their steps -/

/-- Where a request is in `async with quotas.acquire(tenant_id, tool_name)`. -/
inductive QuotaPhase where
  /-- It waits for the lock of the entry. -/
  | entering
  /-- It owns that lock. -/
  | admitting
  /-- It is in the body. -/
  | inside
  /-- The body has ended; it waits for the lock of the exit. -/
  | leaving
  /-- It owns that lock. -/
  | releasing
  /-- There was no room. -/
  | refused
  /-- It has left, or was cancelled before it came in. -/
  | left
  /-- It was cancelled on its way out, before the count was taken back. -/
  | abandoned
deriving DecidableEq

namespace QuotaPhase

/-- It was let in and has not left. -/
def Inside : QuotaPhase → Bool
  | .inside | .leaving | .releasing => true
  | _ => false

/-- It has ended. -/
def Ended : QuotaPhase → Bool
  | .refused | .left | .abandoned => true
  | _ => false

/-- On its way out. -/
def Exiting : QuotaPhase → Bool
  | .leaving | .releasing => true
  | _ => false

end QuotaPhase

/-- A request, with the key of its tenant and tool and whether its scope is cancelled. -/
structure QuotaRequest where
  key : String × String
  phase : QuotaPhase
  cancelled : Bool

/-- The manager, the owner of its lock, and the requests there have been. -/
structure QuotaState where
  quotas : ToolQuotaManager
  owner : Option Nat
  requests : List QuotaRequest

/-- What may happen to a request: its scope is cancelled; it gets the lock; it does what it has to
    do without waiting; the await it is at raises. -/
inductive QuotaAction where
  | cancel
  | lock
  | proceed
  | interrupt

inductive QuotaEvent where
  | enter (key : String × String)
  | act (index : Nat) (action : QuotaAction)

namespace QuotaState

def start (maximum : Nat) (h : 1 ≤ maximum) : QuotaState := ⟨.new maximum h, none, []⟩

/-- The request at the index moves on. -/
def move (s : QuotaState) (index : Nat) (request : QuotaRequest) (phase : QuotaPhase) : QuotaState :=
  { s with requests := s.requests.set index { request with phase := phase } }

/-- One action of a request. -/
def act (s : QuotaState) (index : Nat) (request : QuotaRequest) : QuotaAction → Option QuotaState
  | .cancel =>
      some { s with requests := s.requests.set index { request with cancelled := true } }
  | .lock =>
      -- the lock is free, and in a cancelled scope to wait for it raises
      if s.owner = none ∧ request.cancelled = false then
        match request.phase with
        | .entering => some ({ s with owner := some index }.move index request .admitting)
        | .leaving => some ({ s with owner := some index }.move index request .releasing)
        | _ => none
      else none
  | .proceed =>
      match request.phase with
      | .admitting =>
          let result := s.quotas.reserve request.key
          some ({ s with quotas := result.2, owner := none }.move index request
            (if result.1.isOk then .inside else .refused))
      | .inside => some (s.move index request .leaving)
      | .releasing =>
          some ({ s with quotas := s.quotas.dismiss request.key, owner := none }.move index request
            .left)
      | _ => none
  | .interrupt =>
      if request.cancelled = true then
        match request.phase with
        | .entering => some (s.move index request .left)
        | .admitting => some ({ s with owner := none }.move index request .left)
        | .inside => some (s.move index request .leaving)
        -- the exception comes out of the `finally`, and the rest of it is not run
        | .leaving => some (s.move index request .abandoned)
        | .releasing => some ({ s with owner := none }.move index request .abandoned)
        | _ => none
      else none

def step (s : QuotaState) : QuotaEvent → Option QuotaState
  | .enter key => some { s with requests := s.requests ++ [⟨key, .entering, false⟩] }
  | .act index action => do s.act index (← s.requests[index]?) action

/-- A run, if each of its events can happen. -/
def run (s : QuotaState) (events : List QuotaEvent) : Option QuotaState := events.foldlM step s

/-- How many requests for the key are inside. -/
def inside (s : QuotaState) (key : String × String) : Nat :=
  s.requests.countP fun request => request.key = key && request.phase.Inside

/-- What the quota is for. -/
structure Accounts (s : QuotaState) : Prop where
  counted : ∀ key, s.quotas.count key = s.inside key
  bounded : ∀ key, s.quotas.count key ≤ s.quotas.maximum
  emptied : (∀ request ∈ s.requests, request.phase.Ended) → s.quotas.active = .empty

/-- The event interrupts a request on its way out. -/
def Abandons (s : QuotaState) (event : QuotaEvent) : Prop :=
  ∃ index request, event = .act index .interrupt ∧ s.requests[index]? = some request ∧
    request.phase.Exiting

/-- No event of the run interrupts a request on its way out. -/
def Shielded : QuotaState → List QuotaEvent → Prop
  | _, [] => True
  | s, event :: rest => ¬ s.Abandons event ∧ ∀ t, s.step event = some t → Shielded t rest

/-! ## The count -/

/-- The requests for the key that were cancelled on their way out. -/
def abandoned (s : QuotaState) (key : String × String) : Nat :=
  s.requests.countP fun request => request.key = key && request.phase = .abandoned

structure Balanced (s : QuotaState) : Prop where
  counted : ∀ key, s.quotas.count key = s.inside key + s.abandoned key
  bounded : ∀ key, s.quotas.count key ≤ s.quotas.maximum
  positive : s.quotas.Positive

/-- What an action of a request makes of its phase and of the quotas. -/
inductive Moves (quotas : ToolQuotaManager) (request : QuotaRequest) :
    QuotaAction → QuotaPhase → ToolQuotaManager → Prop
  | stays {action phase} (hinside : phase.Inside = request.phase.Inside)
      (habandoned : phase = .abandoned ↔ request.phase = .abandoned)
      (hexiting : action = .interrupt → request.phase.Exiting = false) :
      Moves quotas request action phase quotas
  | admitted (hphase : request.phase = .admitting) :
      Moves quotas request .proceed
        (if (quotas.reserve request.key).1.isOk then .inside else .refused)
        (quotas.reserve request.key).2
  | dismissed (hphase : request.phase = .releasing) :
      Moves quotas request .proceed .left (quotas.dismiss request.key)
  | abandoned (hphase : request.phase.Exiting) :
      Moves quotas request .interrupt .abandoned quotas

theorem act_cases {s t : QuotaState} {index : Nat} {request : QuotaRequest} {action : QuotaAction}
    (h : s.act index request action = some t) :
    ∃ phase cancelled, t.requests = s.requests.set index ⟨request.key, phase, cancelled⟩ ∧
      Moves s.quotas request action phase t.quotas := by
  obtain ⟨key, phase, cancelled⟩ := request
  cases action with
  | cancel =>
    cases h
    exact ⟨phase, true, rfl, .stays rfl Iff.rfl (by simp)⟩
  | lock =>
    simp only [act] at h
    split_ifs at h
    cases phase <;> cases h <;> exact ⟨_, _, rfl, .stays rfl (by simp) (by simp)⟩
  | proceed =>
    cases phase <;> cases h
    · exact ⟨_, _, rfl, .admitted rfl⟩
    · exact ⟨_, _, rfl, .stays rfl (by simp) (by simp)⟩
    · exact ⟨_, _, rfl, .dismissed rfl⟩
  | interrupt =>
    simp only [act] at h
    split_ifs at h
    cases phase <;> cases h
    · exact ⟨_, _, rfl, .stays rfl (by simp) fun _ => rfl⟩
    · exact ⟨_, _, rfl, .stays rfl (by simp) fun _ => rfl⟩
    · exact ⟨_, _, rfl, .stays rfl (by simp) fun _ => rfl⟩
    · exact ⟨_, _, rfl, .abandoned rfl⟩
    · exact ⟨_, _, rfl, .abandoned rfl⟩

theorem step_cases {s t : QuotaState} {event : QuotaEvent} (h : s.step event = some t) :
    (∃ key, event = .enter key ∧ t = { s with requests := s.requests ++ [⟨key, .entering, false⟩] }) ∨
      ∃ index request action phase cancelled, event = .act index action ∧
        s.requests[index]? = some request ∧
        t.requests = s.requests.set index ⟨request.key, phase, cancelled⟩ ∧
        Moves s.quotas request action phase t.quotas := by
  cases event with
  | enter key =>
    cases h
    exact Or.inl ⟨key, rfl, rfl⟩
  | act index action =>
    obtain ⟨request, hrequest, hact⟩ := Option.bind_eq_some_iff.mp h
    obtain ⟨phase, cancelled, hrequests, hmoves⟩ := act_cases hact
    exact Or.inr ⟨index, request, action, phase, cancelled, rfl, hrequest, hrequests, hmoves⟩

/-- Replacing a request changes a count by that request alone. -/
theorem countP_set_request {requests : List QuotaRequest} {index : Nat} {request : QuotaRequest}
    (hget : requests[index]? = some request) (new : QuotaRequest) (p : QuotaRequest → Bool) :
    ((requests.set index new).countP p : Int) =
      requests.countP p - (if p request then 1 else 0) + if p new then 1 else 0 := by
  obtain ⟨hindex, rfl⟩ := List.getElem?_eq_some_iff.mp hget
  have hpos : p requests[index] = true → 1 ≤ requests.countP p := fun hp =>
    List.countP_pos_iff.mpr ⟨_, List.getElem_mem hindex, hp⟩
  rw [List.countP_set hindex]
  split_ifs with hold hnew hnew
  · have hle := hpos hold
    omega
  · have hle := hpos hold
    omega
  · omega
  · omega

theorem balanced_start (maximum : Nat) (h : 1 ≤ maximum) : (start maximum h).Balanced where
  counted _ := rfl
  bounded _ := Int.natCast_nonneg _
  positive _ _ hget := by cases hget

theorem Balanced.step {s t : QuotaState} {event : QuotaEvent} (h : s.Balanced)
    (hstep : s.step event = some t) : t.Balanced := by
  rcases step_cases hstep with ⟨key, -, rfl⟩ |
    ⟨index, request, action, phase, cancelled, -, hget, hrequests, hmoves⟩
  · refine ⟨fun key' => ?_, h.bounded, h.positive⟩
    rw [h.counted key']
    simp [inside, abandoned, QuotaPhase.Inside]
  · have hinside : ∀ key, (t.inside key : Int) = s.inside key -
        (if request.key = key ∧ request.phase.Inside then 1 else 0) +
        if request.key = key ∧ phase.Inside then 1 else 0 := by
      intro key
      unfold inside
      rw [hrequests, countP_set_request hget]
      simp only [Bool.and_eq_true, decide_eq_true_eq]
    have habandoned : ∀ key, (t.abandoned key : Int) = s.abandoned key -
        (if request.key = key ∧ request.phase = .abandoned then 1 else 0) +
        if request.key = key ∧ phase = .abandoned then 1 else 0 := by
      intro key
      unfold abandoned
      rw [hrequests, countP_set_request hget]
      simp only [Bool.and_eq_true, decide_eq_true_eq]
    have hcounted := h.counted
    have hnonneg : 0 ≤ s.quotas.count request.key := by
      rw [hcounted]
      omega
    generalize ht : t.quotas = quotas at hmoves
    have hbalanced : (∀ key, quotas.count key = t.inside key + t.abandoned key) ∧
        (∀ key, quotas.count key ≤ quotas.maximum) ∧ quotas.Positive := by
      cases hmoves with
      | stays hsame hended _ =>
        refine ⟨fun key => ?_, h.bounded, h.positive⟩
        rw [hcounted, hinside, habandoned, hsame]
        simp only [hended]
        omega
      | admitted hphase =>
        refine ⟨fun key => ?_, fun key => ?_, h.positive.reserve hnonneg⟩
        · rw [ToolQuotaManager.count_reserve, hcounted, hinside, habandoned, hphase]
          cases (s.quotas.reserve request.key).1.isOk with
          | true =>
            simp [QuotaPhase.Inside, eq_comm]
            omega
          | false => simp [QuotaPhase.Inside]
        · rw [ToolQuotaManager.maximum_reserve]
          exact ToolQuotaManager.count_reserve_le h.bounded key
      | dismissed hphase =>
        -- the request itself is counted
        have hself : 1 ≤ s.inside request.key := by
          refine List.countP_pos_iff.mpr ⟨request, List.mem_of_getElem? hget, ?_⟩
          simp [hphase, QuotaPhase.Inside]
        have hcount : 1 ≤ s.quotas.count request.key := by
          rw [hcounted]
          omega
        refine ⟨fun key => ?_, fun key => ?_, h.positive.dismiss hcount⟩
        · rw [ToolQuotaManager.count_dismiss, hcounted, hinside, habandoned, hphase]
          simp [QuotaPhase.Inside, eq_comm]
          omega
        · have hle := h.bounded key
          rw [ToolQuotaManager.count_dismiss, ToolQuotaManager.maximum_dismiss]
          split_ifs <;> omega
      | abandoned hphase =>
        have hin : request.phase.Inside = true ∧ request.phase ≠ .abandoned := by
          revert hphase
          cases request.phase <;> decide
        refine ⟨fun key => ?_, h.bounded, h.positive⟩
        rw [hcounted, hinside, habandoned]
        have hout : QuotaPhase.abandoned.Inside = false := rfl
        simp only [hin.1, hin.2, hout, Bool.false_eq_true, and_false, and_true, if_false]
        omega
    subst ht
    exact ⟨hbalanced.1, hbalanced.2.1, hbalanced.2.2⟩

theorem Balanced.run {s t : QuotaState} {events : List QuotaEvent} (h : s.Balanced)
    (hrun : s.run events = some t) : t.Balanced := by
  induction events generalizing s with
  | nil =>
    cases hrun
    exact h
  | cons event rest ih =>
    obtain ⟨u, hstep, hrest⟩ := Option.bind_eq_some_iff.mp hrun
    exact ih (h.step hstep) hrest

/-! ## Requests that are interrupted on their way out -/

/-- Some request was cancelled on its way out. -/
def Leaks (s : QuotaState) : Prop := ∃ request ∈ s.requests, request.phase = .abandoned

theorem leaks_step {s t : QuotaState} {event : QuotaEvent} (hstep : s.step event = some t) :
    t.Leaks ↔ s.Leaks ∨ s.Abandons event := by
  unfold Leaks
  rcases step_cases hstep with ⟨key, rfl, rfl⟩ |
    ⟨index, request, action, phase, cancelled, rfl, hget, hrequests, hmoves⟩
  · simp [Abandons]
  · have habandons : s.Abandons (.act index action) ↔
        action = .interrupt ∧ request.phase.Exiting := by
      constructor
      · rintro ⟨_, _, ⟨⟩, hget', hexiting⟩
        obtain rfl := Option.some.inj (hget.symm.trans hget')
        exact ⟨rfl, hexiting⟩
      · rintro ⟨rfl, hexiting⟩
        exact ⟨index, request, rfl, hget, hexiting⟩
    -- the request is among the abandoned ones exactly if it was, or if this is what happens to it
    have hphase : phase = .abandoned ↔
        request.phase = .abandoned ∨ (action = .interrupt ∧ request.phase.Exiting) := by
      generalize t.quotas = quotas at hmoves
      cases hmoves with
      | stays _ hended hexiting =>
        rw [hended, or_iff_left]
        rintro ⟨haction, hexit⟩
        rw [hexiting haction] at hexit
        cases hexit
      | admitted hadmitting =>
        rw [hadmitting]
        split_ifs <;> simp
      | dismissed hreleasing => simp [hreleasing]
      | abandoned hexiting => simp [hexiting]
    obtain ⟨hindex, -⟩ := List.getElem?_eq_some_iff.mp hget
    rw [habandons, hrequests]
    constructor
    · rintro ⟨other, hmem, hother⟩
      rcases List.mem_or_eq_of_mem_set hmem with hold | rfl
      · exact Or.inl ⟨other, hold, hother⟩
      · exact (hphase.mp hother).imp_left fun heq => ⟨request, List.mem_of_getElem? hget, heq⟩
    · have hnew : phase = .abandoned → ∃ other ∈ s.requests.set index ⟨request.key, phase, cancelled⟩,
          other.phase = .abandoned := fun heq => ⟨_, List.mem_set hindex _, heq⟩
      rintro (⟨other, hmem, hother⟩ | habandon)
      · obtain ⟨j, hj⟩ := List.getElem?_of_mem hmem
        by_cases heq : index = j
        · subst heq
          obtain rfl := Option.some.inj (hget.symm.trans hj)
          exact hnew (hphase.mpr (Or.inl hother))
        · exact ⟨other, List.mem_of_getElem? ((List.getElem?_set_ne heq).trans hj), hother⟩
      · exact hnew (hphase.mpr (Or.inr habandon))

theorem leaks_run {s t : QuotaState} {events : List QuotaEvent} (hrun : s.run events = some t) :
    t.Leaks ↔ s.Leaks ∨ ¬ s.Shielded events := by
  induction events generalizing s with
  | nil =>
    cases hrun
    simp [Shielded]
  | cons event rest ih =>
    obtain ⟨u, hstep, hrest⟩ := Option.bind_eq_some_iff.mp hrun
    have hshielded : s.Shielded (event :: rest) ↔ ¬ s.Abandons event ∧ u.Shielded rest := by
      simp [Shielded, hstep]
    rw [ih hrest, leaks_step hstep, hshielded]
    tauto

/-- The quota accounts for the requests as long as none of them was cancelled on its way out. -/
theorem accounts_iff {s : QuotaState} (h : s.Balanced) : s.Accounts ↔ ¬ s.Leaks := by
  constructor
  · rintro haccounts ⟨request, hmem, habandoned⟩
    have hpos : 0 < s.abandoned request.key :=
      List.countP_pos_iff.mpr ⟨request, hmem, by simp [habandoned]⟩
    have hcount := h.counted request.key
    rw [haccounts.counted] at hcount
    omega
  · intro hnone
    have hzero : ∀ key, s.abandoned key = 0 := fun key => by
      refine List.countP_eq_zero.mpr fun request hmem habandoned => hnone ⟨request, hmem, ?_⟩
      simp only [Bool.and_eq_true, decide_eq_true_eq] at habandoned
      exact habandoned.2
    have hcounted : ∀ key, s.quotas.count key = s.inside key := fun key => by
      rw [h.counted, hzero]
      simp
    refine ⟨hcounted, h.bounded, fun hended => h.positive.empty fun key => ?_⟩
    have hinside : s.inside key = 0 := by
      refine List.countP_eq_zero.mpr fun request hmem hin => ?_
      have hend := hended request hmem
      simp only [Bool.and_eq_true, decide_eq_true_eq] at hin
      revert hin hend
      cases request.phase <;> simp [QuotaPhase.Ended, QuotaPhase.Inside]
    rw [hcounted, hinside]
    rfl

end QuotaState

/-! ## The executions

The handler's actions on the quota are the two blocks; an execution is reserved between them. -/

section Handler

/-- The quotas of the gateway's world count as the manager does. -/
def ToolQuotaManager.Counts (quotas : ToolQuotaManager) (w : GatewayWorld) : Prop :=
  ∀ key, quotas.count key = w.active.getD key 0

theorem counts_acquireQuota {gateway : ToolGateway} {quotas : ToolQuotaManager} {w : GatewayWorld}
    (hmaximum : gateway.maximumConcurrentPerTool = quotas.maximum) (hw : quotas.Counts w)
    (key : String × String) :
    ((acquireQuota gateway key).run w).1 = (quotas.reserve key).1.mapError .gateway ∧
      (quotas.reserve key).2.Counts ((acquireQuota gateway key).run w).2 := by
  have hkey := hw key
  unfold acquireQuota
  rw [Prog.run_atomic]
  dsimp only
  split_ifs with hfull
  · rw [ToolQuotaManager.reserve_of_le (by omega)]
    refine ⟨rfl, fun key' => ?_⟩
    rw [ToolQuotaManager.count_enter, ← hw key']
    split_ifs with heq
    · rw [heq]
    · rfl
  · rw [ToolQuotaManager.reserve_of_lt (by omega)]
    refine ⟨rfl, fun key' => ?_⟩
    have hkey' := hw key'
    rw [ToolQuotaManager.count_enter, ToolQuotaManager.count_enter, Dict.getD_set]
    split_ifs <;> omega

theorem counts_releaseQuota {quotas : ToolQuotaManager} {w : GatewayWorld} (hw : quotas.Counts w)
    (key : String × String) (hcount : 1 ≤ quotas.count key) :
    ((releaseQuota key).run w).1 = .ok () ∧
      (quotas.dismiss key).Counts ((releaseQuota key).run w).2 := by
  have hkey := hw key
  refine ⟨rfl, fun key' => ?_⟩
  have hkey' := hw key'
  unfold releaseQuota
  rw [ToolQuotaManager.count_dismiss, Prog.run_atomic, Dict.getD_set]
  split_ifs with heq
  · subst heq
    omega
  · omega

/-- An action writes executions only together with an entry about the request. -/
def JournalNoted (id : Nat) (w w' : GatewayWorld) : Prop :=
  (w'.governance.executions = w.governance.executions ∧
    w'.governance.executionIds = w.governance.executionIds ∧ w'.log = w.log) ∨
  ∃ note : ExecutionNote, note.request = id ∧ w'.log = note :: w.log

/-- The outcome is not that there was no room. -/
def NotLimited {α : Type} (r : Except GatewayExn α) : Prop :=
  r ≠ .error (.gateway rateLimitedError)

/-- The request has an entry only if its outcome is another one. -/
def LimitedAlone {α : Type} (id : Nat) (r : Except GatewayExn α) (w : GatewayWorld) : Prop :=
  NotLimited r ∨ HasNoNote id w

/-- The triple of a part of the handler. -/
abbrev Notes {α : Type} (id : Nat) (Q : Except GatewayExn α → GatewayWorld → Prop)
    (p : GatewayAction α) (w : GatewayWorld) : Prop :=
  p.RG (journalRely id) (JournalNoted id) Q w

variable {α : Type} {id : Nat} {w : GatewayWorld}

theorem limitedAlone_own (r : Except GatewayExn α) : OwnNotes id (LimitedAlone id r) := by
  intro w w' h hrely
  exact h.imp_right fun hnone => hasNoNote_own id hnone hrely

namespace Notes

theorem bystand {P : GatewayWorld → Prop} {p : GatewayAction α} (hp : Bystands p)
    (hP : OwnNotes id P) (hw : P w) : Notes id (fun _ t => P t) p w :=
  hp.keeps (fun h => Or.inl ⟨h.executions, h.executionIds, h.log⟩) hP
    (fun ht h => hP ht fun _ _ => by rw [h.log]) hw

/-- A part that comes after the reservation. -/
theorem after {p : GatewayAction α} (hp : Notes id (fun _ _ => True) p w)
    (hreturns : p.Returns NotLimited) : Notes id (LimitedAlone id) p w :=
  (hp.returns hreturns).mono fun _ _ h => Or.inl h.2

end Notes

/-! ### What is raised after the reservation -/

theorem notLimited_ok (a : α) : NotLimited (.ok a : Except GatewayExn α) := by simp [NotLimited]

theorem notLimited_raised (e : Exn) : NotLimited (.error (.raised e) : Except GatewayExn α) := by
  simp [NotLimited]

theorem notLimited_gateway {error : GatewayError} (h : error.code ≠ "RATE_LIMITED") :
    NotLimited (.error (.gateway error) : Except GatewayExn α) := by
  intro heq
  cases heq
  exact h rfl

theorem returns_bind {β : Type} {p : GatewayAction α} {f : α → GatewayAction β}
    (hp : p.Returns NotLimited) (hf : ∀ a, (f a).Returns NotLimited) :
    (p.bind f).Returns NotLimited := by
  refine hp.seq (fun a _ => hf a) fun e he heq => ?_
  cases heq
  exact he rfl

theorem returns_gatewayNow (gateway : ToolGateway) : (gatewayNow gateway).Returns NotLimited :=
  Prog.Returns.atomic fun _ => notLimited_ok _

theorem returns_auditAction (event : AuditEvent) : (auditAction event).Returns NotLimited := by
  refine Prog.Returns.atomic fun w => ?_
  dsimp only
  unfold GovernanceRepository.recordAudit
  split_ifs
  · exact notLimited_gateway (by decide)
  · exact notLimited_ok _

theorem returns_reportAction (request : Nat) (intent : ToolIntent) (held : ToolExecutionRecord)
    (report : ExecutionReport) : (reportAction request intent held report).Returns NotLimited := by
  refine Prog.Returns.atomic fun w => ?_
  cases hreport : (w.governance.reportExecution intent.tenantId intent.changeId held.executionId
    report).1 with
  | ok record => simpa only [hreport] using notLimited_ok record
  | error e =>
    simp only [hreport]
    revert hreport
    unfold GovernanceRepository.reportExecution
    cases w.governance.executions.get? (intent.tenantId, held.executionId) with
    | none =>
      rintro ⟨⟩
      exact notLimited_gateway (by decide)
    | some current =>
      dsimp only
      split_ifs with hchange hreserved
      · rintro ⟨⟩
        exact notLimited_gateway (by decide)
      · cases current.reported hreserved report with
        | ok updated => simp
        | error e =>
          rintro ⟨⟩
          exact notLimited_raised e
      · rintro ⟨⟩
        exact notLimited_gateway (by decide)

theorem returns_executeTool (gateway : ToolGateway) (id : Nat) (request : ExecutionRequest)
    (registration : ToolRegistration) (arguments : FieldPatchArguments) :
    (executeTool gateway id request registration arguments).Returns NotLimited := by
  unfold executeTool
  split
  · exact notLimited_gateway (by decide)
  next service _ =>
    have hcall : (callTool id).Returns NotLimited := Prog.Returns.atomic fun _ => notLimited_ok _
    refine returns_bind hcall fun call => Prog.Returns.atomic fun _ => ?_
    dsimp only
    cases gateway.patch call _ with
    | unavailable => simp [patchResult, NotLimited]
    | failed e => exact notLimited_raised e
    | response statusCode document =>
      unfold patchResult
      dsimp only
      split_ifs
      · simp [NotLimited]
      · simp [NotLimited]
      · cases document with
        | none => simp [NotLimited]
        | some result =>
          dsimp only
          split_ifs
          · simp [NotLimited]
          · exact notLimited_ok _

variable [Sha256]

theorem returns_auditTool (gateway : ToolGateway) (request : ExecutionRequest) (eventType : String)
    (decision : PolicyDecision) (output : Json) (status : AuditStatus) (summary : String)
    (now : Time) :
    (auditTool gateway request eventType decision output status summary now).Returns NotLimited := by
  have huuid : (gatewayUuid gateway).Returns NotLimited :=
    Prog.Returns.atomic fun _ => notLimited_ok _
  exact returns_bind huuid fun _ => returns_auditAction _

theorem returns_reportOutcome (gateway : ToolGateway) (id : Nat) (request : ExecutionRequest)
    (decision : PolicyDecision) (outcome : QuotaOutcome) :
    (reportOutcome gateway id request decision outcome).Returns NotLimited := by
  have hnow := returns_gatewayNow gateway
  cases outcome with
  | replayed result => exact notLimited_ok result
  | executed held output =>
    refine returns_bind hnow fun completedAt => returns_bind (returns_reportAction _ _ _ _) fun
      completed => returns_bind (returns_auditTool _ _ _ _ _ _ _ _) fun _ => ?_
    split
    · exact notLimited_ok _
    · exact notLimited_raised _
  | adapterFailed held code detail transient =>
    refine returns_bind hnow fun failedAt => returns_bind (returns_reportAction _ _ _ _) fun
      _ => returns_bind (returns_auditTool _ _ _ _ _ _ _ _) fun _ => ?_
    simp [Prog.Returns, NotLimited]

/-! ### The handler -/

namespace Notes

omit [Sha256] in
theorem executeTool (gateway : ToolGateway) (request : ExecutionRequest)
    (registration : ToolRegistration) (arguments : FieldPatchArguments) (w : GatewayWorld) :
    Notes id (fun _ _ => True) (executeTool gateway id request registration arguments) w := by
  unfold ChangeOps.executeTool
  split
  · exact fun _ _ => trivial
  · have hcall : Notes id (fun _ _ => True) (callTool id) w :=
      Prog.RG.atomic fun t _ => ⟨Or.inl ⟨rfl, rfl, rfl⟩, fun _ _ => trivial⟩
    refine hcall.bind (fun call t _ => ?_) fun _ _ _ => trivial
    exact Prog.RG.atomic fun t _ => ⟨Or.inl ⟨rfl, rfl, rfl⟩, fun _ _ => trivial⟩

/-- Only the grant of a reservation is entered. -/
theorem reserve {call : ReserveCall} (hw : HasNoNote id w) :
    Notes id (fun r t => (∃ reservation, r = .ok reservation ∧ reservation.replayed = false) ∨
      HasNoNote id t) (reserveAction id call) w := by
  refine Prog.RG.atomic fun t ht => ?_
  have hno := hasNoNote_own id hw ht
  rcases GovernanceRepository.reserveExecution_cases call t.governance with ⟨e, heq⟩ |
    ⟨_, existing, -, -, -, -, -, heq⟩ | ⟨existingId, existing, -, -, -, -, -, heq⟩ |
    ⟨inputHash, -, -, heq⟩
  · simp only [heq]
    exact ⟨Or.inl ⟨rfl, rfl, rfl⟩, fun t' ht' => Or.inr (hasNoNote_own id hno ht')⟩
  · simp only [heq]
    exact ⟨Or.inl ⟨rfl, rfl, rfl⟩, fun t' ht' => Or.inr (hasNoNote_own id hno ht')⟩
  · simp only [heq]
    exact ⟨Or.inr ⟨_, rfl, rfl⟩, fun t' _ => Or.inl ⟨_, rfl, rfl⟩⟩
  · simp only [heq]
    exact ⟨Or.inr ⟨_, rfl, rfl⟩, fun t' _ => Or.inl ⟨_, rfl, rfl⟩⟩

omit [Sha256] in
theorem report (intent : ToolIntent) (held : ToolExecutionRecord) (outcome : ExecutionReport)
    (w : GatewayWorld) :
    Notes id (fun _ _ => True) (reportAction id intent held outcome) w := by
  refine Prog.RG.atomic fun t _ => ⟨?_, fun _ _ => trivial⟩
  rcases GovernanceRepository.reportExecution_cases intent.tenantId intent.changeId held.executionId outcome
    t.governance with ⟨e, heq⟩ | ⟨_, _, _, -, -, -, heq⟩
  · simp only [heq]
    exact Or.inl ⟨rfl, rfl, rfl⟩
  · simp only [heq]
    exact Or.inr ⟨_, rfl, rfl⟩

/-- The block under the quota: without a reservation there is no entry, and after it nothing says
    that there was no room. -/
theorem reserveAndExecute (gateway : ToolGateway) (request : ExecutionRequest)
    (registration : ToolRegistration) (arguments : FieldPatchArguments) (decision : PolicyDecision)
    (approval : Option Approval) (hw : HasNoNote id w) :
    Notes id (LimitedAlone id)
      (reserveAndExecute gateway id request registration arguments decision approval) w := by
  unfold ChangeOps.reserveAndExecute
  refine (bystand (Bystands.gatewayNow gateway) (hasNoNote_own id) hw).bind ?_
    fun _ _ ht => Or.inr ht
  intro now t ht
  refine (reserve ht).bind ?_ ?_
  · intro reservation t hreserved
    cases hreplayed : reservation.replayed with
    | true =>
      have hno : HasNoNote id t := by
        rcases hreserved with ⟨_, ⟨⟩, hfalse⟩ | hno
        · cases hreplayed.symm.trans hfalse
        · exact hno
      simp only [if_true]
      refine (bystand (Bystands.replay gateway request decision reservation.record)
        (hasNoNote_own id) hno).bind ?_ fun _ _ ht => Or.inr ht
      exact fun result t _ t' _ => Or.inl (notLimited_ok _)
    | false =>
      simp only [Bool.false_eq_true, if_false]
      refine ((executeTool gateway request registration arguments t).returns
        (returns_executeTool gateway id request registration arguments)).andThen ?_
      rintro result t ⟨-, hresult⟩
      cases result with
      | ok output => exact fun t' _ => Or.inl (notLimited_ok _)
      | error error =>
        cases error with
        | adapter code detail transient => exact fun t' _ => Or.inl (notLimited_ok _)
        | raised e => exact fun t' _ => Or.inl (notLimited_raised e)
        | gateway e =>
          refine fun t' _ => Or.inl fun heq => hresult ?_
          cases heq
          rfl
  · rintro e t (⟨_, ⟨⟩, -⟩ | hno)
    exact Or.inr hno

theorem reportOutcome (gateway : ToolGateway) (request : ExecutionRequest)
    (decision : PolicyDecision) (outcome : QuotaOutcome) (w : GatewayWorld) :
    Notes id (fun _ _ => True) (reportOutcome gateway id request decision outcome) w := by
  have hrest : ∀ {α : Type} {p : GatewayAction α} {t}, Bystands p → Notes id (fun _ _ => True) p t :=
    fun hp => bystand hp (true_own id) trivial
  cases outcome with
  | replayed result => exact hrest (Bystands.ret result)
  | executed held output =>
    refine (hrest (Bystands.gatewayNow gateway)).bind (fun completedAt t _ => ?_) fun _ _ _ => trivial
    refine (report _ _ _ t).bind (fun completed t _ => ?_) fun _ _ _ => trivial
    refine hrest (Bystands.bind (Bystands.auditTool _ _ _ _ _ _ _ _) fun _ => ?_)
    split
    · exact Bystands.ret _
    · exact Bystands.raise _
  | adapterFailed held code detail transient =>
    refine (hrest (Bystands.gatewayNow gateway)).bind (fun failedAt t _ => ?_) fun _ _ _ => trivial
    refine (report _ _ _ t).bind (fun _ t _ => ?_) fun _ _ _ => trivial
    exact hrest (Bystands.bind (Bystands.auditTool _ _ _ _ _ _ _ _) fun _ => Bystands.raise _)

omit [Sha256] in
theorem withQuota (gateway : ToolGateway) (quota : String × String)
    {body : GatewayAction QuotaOutcome}
    (hbody : ∀ {t}, HasNoNote id t → Notes id (LimitedAlone id) body t) (hw : HasNoNote id w) :
    Notes id (LimitedAlone id) (withQuota gateway quota body) w := by
  refine (bystand (Bystands.acquireQuota gateway quota) (hasNoNote_own id) hw).bind ?_
    fun _ _ ht => Or.inr ht
  intro _ t ht
  refine (hbody ht).andThen fun r t ht => ?_
  have hreleased : (releaseQuota quota).Returns NotLimited :=
    Prog.Returns.atomic fun _ => notLimited_ok _
  refine ((bystand (Bystands.releaseQuota quota) (limitedAlone_own r) ht).returns hreleased).bind ?_ ?_
  · rintro _ t ⟨ht, -⟩
    exact Prog.RG.ofExcept fun t' ht' => limitedAlone_own r ht ht'
  · rintro e t ⟨-, he⟩
    refine Or.inl fun heq => he ?_
    cases heq
    rfl

/-- **The handler.** It writes executions with an entry, and has none if there was no room. -/
theorem evaluateAndExecute (gateway : ToolGateway) (request : ExecutionRequest)
    (hw : HasNoNote id w) :
    Notes id (LimitedAlone id) (evaluateAndExecute gateway id request) w := by
  have hbefore : ∀ {α : Type} {p : GatewayAction α} {t}, Bystands p → HasNoNote id t →
      Notes id (LimitedAlone id) p t := fun hp ht =>
    (bystand hp (hasNoNote_own id) ht).mono fun _ _ => Or.inr
  unfold ChangeOps.evaluateAndExecute
  dsimp only
  split_ifs
  · exact hbefore (Bystands.raise _) hw
  · exact hbefore (Bystands.raise _) hw
  · split
    · exact hbefore (Bystands.refuse _ _ _ _ _ _) hw
    next registration _ =>
      split
      · exact hbefore (Bystands.refuse _ _ _ _ _ _) hw
      next arguments _ =>
        have hread : Notes id (fun _ t => HasNoNote id t)
            (readChangeFor id request.identity.tenantId request.intent.changeId) w := by
          refine Prog.RG.atomic fun t ht => ⟨Or.inl ⟨rfl, rfl, rfl⟩, fun t' ht' => ?_⟩
          exact hasNoNote_own id (hasNoNote_own id hw ht) ht'
        refine hread.bind (fun change t ht => ?_) fun _ _ ht => Or.inr ht
        refine (bystand (Bystands.evaluatePolicy gateway request registration change)
          (hasNoNote_own id) ht).bind ?_ fun _ _ ht => Or.inr ht
        rintro ⟨decision, approval⟩ t ht
        refine (withQuota gateway _ (fun ht => reserveAndExecute gateway request registration
          arguments decision approval ht) ht).bind ?_ fun e t ht => ht.imp_left fun he heq => he ?_
        · intro outcome t _
          exact (reportOutcome gateway request decision outcome t).after
            (returns_reportOutcome gateway id request decision outcome)
        · cases heq
          rfl

end Notes

end Handler

/-! ## The quota of every run -/

/-- **The quota.** The counts are right after a run, never above the maximum and gone with the last
request, exactly if the run has interrupted no request on its way out; and a request that is refused
has made no reservation. -/
theorem acquireQuota_accounts_iff [Sha256] (maximum : Nat) (hmaximum : 1 ≤ maximum) :
    (∀ events t, (QuotaState.start maximum hmaximum).run events = some t →
      (t.Accounts ↔ (QuotaState.start maximum hmaximum).Shielded events)) ∧
    ∀ (gateway : ToolGateway) (id : Nat) (request : ExecutionRequest) (w : GatewayWorld),
      HasNoNote id w → Notes id (LimitedAlone id) (evaluateAndExecute gateway id request) w := by
  refine ⟨fun events t hrun => ?_, fun gateway id request w hw =>
    Notes.evaluateAndExecute gateway request hw⟩
  have hnone : ¬ (QuotaState.start maximum hmaximum).Leaks := by
    rintro ⟨request, hmem, -⟩
    cases hmem
  rw [QuotaState.accounts_iff ((QuotaState.balanced_start maximum hmaximum).run hrun),
    QuotaState.leaks_run hrun]
  tauto

namespace QuotaState

/-- A request comes in, through the lock of the entry. -/
def comesIn (index : Nat) (key : String × String) : List QuotaEvent :=
  [.enter key, .act index .lock, .act index .proceed]

/-- Its body ends, and it gets the lock of the exit. -/
def goesOut (index : Nat) : List QuotaEvent :=
  [.act index .proceed, .act index .lock, .act index .proceed]

/-- It is cancelled in the body: first the await there raises, then the one for the lock. -/
def isCancelled (index : Nat) : List QuotaEvent :=
  [.act index .cancel, .act index .interrupt, .act index .interrupt]

end QuotaState

open scoped Overlap

open QuotaState Overlap

/-- Two requests for one tool, the second of which finds no room. -/
theorem acquireQuota_accounts_iff_two :
    (∃ t, (start 1 (by decide)).run (comesIn 0 key ++ comesIn 1 key ++ goesOut 0) = some t ∧
      (t.Accounts ↔ (start 1 (by decide)).Shielded (comesIn 0 key ++ comesIn 1 key ++ goesOut 0))) ∧
    Notes 0 (LimitedAlone 0) (evaluateAndExecute gateway 0 request) world := by
  have hquota := acquireQuota_accounts_iff 1 (by decide)
  refine ⟨⟨_, rfl, hquota.1 _ _ rfl⟩, hquota.2 gateway 0 request world ?_⟩
  rintro note ⟨⟩

/-- The place of a request that is cancelled in the body is not given back. -/
theorem not_acquireQuota_accounts :
    ¬ ∀ (maximum : Nat) (h : 1 ≤ maximum) (events : List QuotaEvent) (t : QuotaState),
      (start maximum h).run events = some t → t.Accounts := by
  intro h
  have hcounted := (h 4 (by decide) (comesIn 0 key ++ isCancelled 0) _ rfl).counted key
  revert hcounted
  decide

end ChangeOps
