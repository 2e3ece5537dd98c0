import ChangeOps.EventGateway.Repository

/-!
# ChangeOps.EventGateway — the rate limiter

`TenantEventRateLimiter` (`rate_limit.py`). A tenant's deque holds the instants at which its calls
were accepted, the oldest first; a call drops those that have left the window and then counts the
rest. What is dropped stays out of the window as long as the clock does not go back, so the deque
always is the end of the list of all accepted instants (`Holds`), and counting it is counting the
window.
-/

namespace ChangeOps

/-! ## The limiter -/

structure TenantEventRateLimiter where
  limit : Nat
  /-- `defaultdict(deque)`. -/
  events : Dict String (List Time)

namespace TenantEventRateLimiter

/-- `TenantEventRateLimiter(limit_per_minute)`. -/
def new (limitPerMinute : Nat) : TenantEventRateLimiter := ⟨limitPerMinute, .empty⟩

/-- `now - timedelta(minutes=1)`: before the second minute of year 1 there is no such instant. -/
def cutoff (now : Time) : Except EventExn Time :=
  if now < Time.minutes 1 then .error (.other "date value out of range") else .ok (now - Time.minutes 1)

/-- The `while` loop over the deque. -/
def live (limiter : TenantEventRateLimiter) (tenantId : String) (cutoff : Time) : List Time :=
  (limiter.events.getD tenantId []).dropWhile fun event => decide (event ≤ cutoff)

def acquire (limiter : TenantEventRateLimiter) (tenantId : String) (now : Time) :
    Except EventExn Unit × TenantEventRateLimiter :=
  match cutoff now with
  | .error error => (.error error, limiter)
  | .ok cutoff =>
      let events := limiter.live tenantId cutoff
      if limiter.limit ≤ events.length then
        (.error (.gateway eventRateLimitedError),
          { limiter with events := limiter.events.set tenantId events })
      else (.ok (), { limiter with events := limiter.events.set tenantId (events ++ [now]) })

/-! ## Runs -/

/-- A call of `acquire`. -/
structure Call where
  tenantId : String
  now : Time

/-- The limiter after some calls, the latest first. -/
def after (limit : Nat) : List Call → TenantEventRateLimiter
  | [] => new limit
  | call :: earlier => ((after limit earlier).acquire call.tenantId call.now).2

/-- The call is accepted after those. -/
def Accepts (limit : Nat) (earlier : List Call) (call : Call) : Prop :=
  ((after limit earlier).acquire call.tenantId call.now).1 = .ok ()

instance (limit : Nat) (earlier : List Call) (call : Call) : Decidable (Accepts limit earlier call) :=
  inferInstanceAs (Decidable (_ = _))

/-- The calls that were accepted. -/
def accepted (limit : Nat) : List Call → List Call
  | [] => []
  | call :: earlier =>
    if Accepts limit earlier call then call :: accepted limit earlier else accepted limit earlier

/-- The instants of a tenant's calls, the oldest first. -/
def instants (tenantId : String) (calls : List Call) : List Time :=
  ((calls.filter fun call => decide (call.tenantId = tenantId)).map (·.now)).reverse

/-- The clock does not go back. -/
def Ordered (calls : List Call) : Prop := calls.Pairwise fun later earlier => earlier.now ≤ later.now

/-- The instants of the half-open minute before `now`. -/
def inWindow (now : Time) (times : List Time) : List Time :=
  times.filter fun t => decide ((now : Int) - (Time.minutes 1 : Nat) < t ∧ t ≤ now)

/-! ## One call -/

/-- A call whose cutoff is no instant changes nothing. -/
theorem acquire_of_lt (limiter : TenantEventRateLimiter) (tenantId : String) {now : Time}
    (h : now < Time.minutes 1) :
    limiter.acquire tenantId now = (.error (.other "date value out of range"), limiter) := by
  rw [acquire, cutoff, if_pos h]

theorem acquire_of_le (limiter : TenantEventRateLimiter) (tenantId : String) {now : Time}
    (h : Time.minutes 1 ≤ now) :
    limiter.acquire tenantId now =
      if limiter.limit ≤ (limiter.live tenantId (now - Time.minutes 1)).length then
        (.error (.gateway eventRateLimitedError), { limiter with
          events := limiter.events.set tenantId (limiter.live tenantId (now - Time.minutes 1)) })
      else (.ok (), { limiter with
        events := limiter.events.set tenantId
          (limiter.live tenantId (now - Time.minutes 1) ++ [now]) }) := by
  rw [acquire, cutoff, if_neg (Nat.not_lt.mpr h)]

/-- How a call can end. -/
theorem acquire_outcome (limiter : TenantEventRateLimiter) (tenantId : String) (now : Time) :
    (limiter.acquire tenantId now).1 = .ok () ∨
      (limiter.acquire tenantId now).1 = .error (.gateway eventRateLimitedError) ∨
      (limiter.acquire tenantId now).1 = .error (.other "date value out of range") := by
  rcases Nat.lt_or_ge now (Time.minutes 1) with hearly | hlate
  · exact .inr (.inr (congrArg Prod.fst (limiter.acquire_of_lt tenantId hearly)))
  · rw [limiter.acquire_of_le tenantId hlate]
    split_ifs
    · exact .inr (.inl rfl)
    · exact .inl rfl

@[simp] theorem limit_after (limit : Nat) (calls : List Call) : (after limit calls).limit = limit := by
  induction calls with
  | nil => rfl
  | cons call earlier ih =>
    rw [after]
    rcases Nat.lt_or_ge call.now (Time.minutes 1) with hearly | hlate
    · rw [acquire_of_lt _ _ hearly]
      exact ih
    · rw [acquire_of_le _ _ hlate]
      split_ifs <;> exact ih

theorem accepts_iff (limit : Nat) (earlier : List Call) (call : Call) :
    Accepts limit earlier call ↔ Time.minutes 1 ≤ call.now ∧
      ((after limit earlier).live call.tenantId (call.now - Time.minutes 1)).length < limit := by
  rw [Accepts]
  rcases Nat.lt_or_ge call.now (Time.minutes 1) with hearly | hlate
  · rw [acquire_of_lt _ _ hearly]
    exact iff_of_false (by simp) fun h => absurd h.1 (Nat.not_le.mpr hearly)
  · rw [acquire_of_le _ _ hlate, limit_after]
    split_ifs with h
    · exact iff_of_false (by simp) fun hroom => absurd hroom.2 (Nat.not_lt.mpr h)
    · exact iff_of_true rfl ⟨hlate, Nat.not_le.mp h⟩

theorem instants_cons (tenantId : String) (call : Call) (calls : List Call) :
    instants tenantId (call :: calls) = if call.tenantId = tenantId then
      instants tenantId calls ++ [call.now] else instants tenantId calls := by
  unfold instants
  rw [List.filter_cons]
  split_ifs <;> simp_all

theorem accepted_sublist (limit : Nat) (calls : List Call) : (accepted limit calls).Sublist calls := by
  induction calls with
  | nil => exact List.Sublist.refl _
  | cons call earlier ih =>
    rw [accepted]
    split_ifs
    · exact ih.cons_cons call
    · exact ih.cons call

/-! ## What the deque holds -/

section Deque

variable {limit : Nat} {calls : List Call} {tenantId : String} {now : Time}

theorem mem_instants {t : Time} :
    t ∈ instants tenantId calls ↔ ∃ call ∈ calls, call.tenantId = tenantId ∧ call.now = t := by
  simp [instants, and_assoc]

theorem Ordered.instants_sorted (h : Ordered calls) : (instants tenantId calls).Pairwise (· ≤ ·) := by
  rw [instants, List.pairwise_reverse, List.pairwise_map]
  exact h.sublist List.filter_sublist

theorem Ordered.accepted (h : Ordered calls) : Ordered (accepted limit calls) :=
  h.sublist (accepted_sublist limit calls)

/-- On instants in order, what is dropped is all that has left the window. -/
theorem dropWhile_eq_filter {times : List Time} (h : times.Pairwise (· ≤ ·)) (cutoff : Time) :
    (times.dropWhile fun t => decide (t ≤ cutoff)) = times.filter fun t => decide (cutoff < t) := by
  induction times with
  | nil => rfl
  | cons t times ih =>
    rw [List.pairwise_cons] at h
    rw [List.dropWhile_cons, List.filter_cons]
    by_cases hle : t ≤ cutoff
    · rw [if_pos (decide_eq_true hle), if_neg (by simpa using hle)]
      exact ih h.2
    · have hall : ∀ t' ∈ times, decide (cutoff < t') = true := by
        intro t' ht'
        exact decide_eq_true (Nat.lt_of_lt_of_le (Nat.not_le.mp hle) (h.1 t' ht'))
      rw [if_neg (by simpa using hle), if_pos (by simpa using hle), List.filter_eq_self.mpr hall]

/-- The deque is the end of the list of accepted instants, and what is missing has left the
window. -/
def Holds (limit : Nat) (calls : List Call) : Prop :=
  ∀ tenantId, ∃ gone, instants tenantId (accepted limit calls) =
      gone ++ (after limit calls).events.getD tenantId [] ∧
    ∀ t ∈ gone, ∀ now : Time, (∀ call ∈ calls, call.now ≤ now) →
      (t : Int) ≤ (now : Int) - (Time.minutes 1 : Nat)

/-- A later call sees the window. -/
theorem Holds.live_eq (h : Holds limit calls) (hordered : Ordered calls)
    (hnow : ∀ call ∈ calls, call.now ≤ now) (hlate : Time.minutes 1 ≤ now) :
    (after limit calls).live tenantId (now - Time.minutes 1) =
      inWindow now (instants tenantId (TenantEventRateLimiter.accepted limit calls)) := by
  obtain ⟨gone, hsplit, hgone⟩ := h tenantId
  have hsorted : (instants tenantId (TenantEventRateLimiter.accepted limit calls)).Pairwise _ :=
    hordered.accepted.instants_sorted
  have hle : ∀ t ∈ instants tenantId (TenantEventRateLimiter.accepted limit calls), t ≤ now := by
    intro t ht
    obtain ⟨call, hcall, -, rfl⟩ := mem_instants.mp ht
    exact hnow call ((accepted_sublist limit calls).subset hcall)
  rw [hsplit] at hsorted hle ⊢
  have hnone : inWindow now gone = [] := by
    rw [inWindow, List.filter_eq_nil_iff]
    intro t ht
    have := hgone t ht now hnow
    simp only [decide_eq_true_eq]
    omega
  rw [live, dropWhile_eq_filter (List.pairwise_append.mp hsorted).2.1, inWindow, List.filter_append]
  rw [inWindow] at hnone
  rw [hnone, List.nil_append]
  apply List.filter_congr
  intro t ht
  have hpast := hle t (List.mem_append_right gone ht)
  rw [decide_eq_decide, and_iff_left hpast, Nat.sub_lt_iff_lt_add hlate, ← Int.ofNat_lt]
  omega

theorem holds_after (hordered : Ordered calls) : Holds limit calls := by
  induction calls with
  | nil => exact fun tenantId => ⟨[], rfl, by simp⟩
  | cons call earlier ih =>
    intro tenantId
    obtain ⟨gone, hsplit, hgone⟩ := ih (List.pairwise_cons.mp hordered).2 tenantId
    have hgone' : ∀ t ∈ gone, ∀ now : Time, (∀ c ∈ call :: earlier, c.now ≤ now) →
        (t : Int) ≤ (now : Int) - (Time.minutes 1 : Nat) := fun t ht now hnow =>
      hgone t ht now fun c hc => hnow c (List.mem_cons_of_mem _ hc)
    rcases Nat.lt_or_ge call.now (Time.minutes 1) with hearly | hlate
    · -- nothing happens
      have hrejected : ¬ Accepts limit earlier call := fun haccepts =>
        absurd ((accepts_iff limit earlier call).mp haccepts).1 (Nat.not_le.mpr hearly)
      refine ⟨gone, ?_, hgone'⟩
      rw [accepted, if_neg hrejected, after, acquire_of_lt _ _ hearly]
      exact hsplit
    by_cases htenant : call.tenantId = tenantId
    · -- the call drops the front of its tenant's deque, and appends itself if it is accepted
      subst htenant
      let front := ((after limit earlier).events.getD call.tenantId []).takeWhile
        fun t => decide (t ≤ call.now - Time.minutes 1)
      have hfront : (after limit earlier).events.getD call.tenantId [] =
          front ++ (after limit earlier).live call.tenantId (call.now - Time.minutes 1) :=
        List.takeWhile_append_dropWhile.symm
      have hleft : ∀ t ∈ gone ++ front, ∀ now : Time, (∀ c ∈ call :: earlier, c.now ≤ now) →
          (t : Int) ≤ (now : Int) - (Time.minutes 1 : Nat) := by
        intro t ht now hnow
        rcases List.mem_append.mp ht with ht | ht
        · exact hgone' t ht now hnow
        · have hdropped : t ≤ call.now - Time.minutes 1 := by simpa using List.mem_takeWhile_imp ht
          rw [Nat.le_sub_iff_add_le hlate] at hdropped
          have hlater : (t : Int) + (Time.minutes 1 : Nat) ≤ now :=
            Int.ofNat_le.mpr (Nat.le_trans hdropped (hnow call List.mem_cons_self))
          omega
      refine ⟨gone ++ front, ?_, hleft⟩
      rw [hfront, ← List.append_assoc] at hsplit
      by_cases haccepts : Accepts limit earlier call
      · have hroom := ((accepts_iff limit earlier call).mp haccepts).2
        have hevents : (after limit (call :: earlier)).events.getD call.tenantId [] =
            (after limit earlier).live call.tenantId (call.now - Time.minutes 1) ++ [call.now] := by
          rw [after, acquire_of_le _ _ hlate, limit_after, if_neg (Nat.not_le.mpr hroom)]
          exact (Dict.getD_set _ _ _ _ _).trans (if_pos rfl)
        rw [accepted, if_pos haccepts, instants_cons, if_pos rfl, hsplit, hevents, List.append_assoc]
      · have hfull := fun hroom => haccepts ((accepts_iff limit earlier call).mpr ⟨hlate, hroom⟩)
        have hevents : (after limit (call :: earlier)).events.getD call.tenantId [] =
            (after limit earlier).live call.tenantId (call.now - Time.minutes 1) := by
          rw [after, acquire_of_le _ _ hlate, limit_after, if_pos (Nat.not_lt.mp hfull)]
          exact (Dict.getD_set _ _ _ _ _).trans (if_pos rfl)
        rw [accepted, if_neg haccepts, hsplit, hevents]
    · refine ⟨gone, ?_, hgone'⟩
      have hevents : (after limit (call :: earlier)).events.getD tenantId [] =
          (after limit earlier).events.getD tenantId [] := by
        rw [after, acquire_of_le _ _ hlate]
        split_ifs <;> exact (Dict.getD_set _ _ _ _ _).trans (if_neg (Ne.symm htenant))
      rw [hevents, ← hsplit, accepted]
      split_ifs
      · rw [instants_cons, if_neg htenant]
      · rfl

end Deque

/-! ## What a call finds -/

section Window

variable {limit : Nat} {calls : List Call}

/-- **A call is accepted exactly if its window has room.** -/
theorem accepts_iff_window {call : Call} (hordered : Ordered (call :: calls)) :
    Accepts limit calls call ↔ Time.minutes 1 ≤ call.now ∧
      (inWindow call.now (instants call.tenantId (accepted limit calls))).length < limit := by
  obtain ⟨hbefore, hcalls⟩ := List.pairwise_cons.mp hordered
  rw [accepts_iff]
  refine and_congr_right fun hlate => ?_
  rw [(holds_after hcalls).live_eq hcalls hbefore hlate]

/-- Instants that all lie within less than a minute. -/
def Near (near : Time → Prop) : Prop :=
  ∀ t t' : Time, near t → near t' → (t' : Int) < (t : Int) + (Time.minutes 1 : Nat)

/-- At most `limit` accepted instants lie within a minute of each other. -/
theorem length_near_le (hordered : Ordered calls) (tenantId : String) {near : Time → Prop}
    [DecidablePred near] (hnear : Near near) :
    ((instants tenantId (accepted limit calls)).filter (decide <| near ·)).length ≤ limit := by
  induction calls with
  | nil => exact Nat.zero_le _
  | cons call earlier ih =>
    obtain ⟨hbefore, hearlier⟩ := List.pairwise_cons.mp hordered
    rw [accepted]
    split_ifs with haccepts
    · rw [instants_cons]
      split_ifs with htenant
      · subst htenant
        rw [List.filter_append, List.length_append, List.filter_singleton]
        by_cases hin : near call.now
        · -- the others were in the window of this call
          have hroom := ((accepts_iff_window hordered).mp haccepts).2
          have hsub : ((instants call.tenantId (accepted limit earlier)).filter (decide <| near ·)).length ≤
              (inWindow call.now (instants call.tenantId (accepted limit earlier))).length := by
            rw [inWindow, ← List.countP_eq_length_filter, ← List.countP_eq_length_filter]
            refine List.countP_mono_left fun t ht hnt => ?_
            obtain ⟨c, hc, -, rfl⟩ := mem_instants.mp ht
            have hle := hbefore c ((accepted_sublist limit earlier).subset hc)
            have hlt := hnear _ _ (of_decide_eq_true hnt) hin
            exact decide_eq_true ⟨by omega, hle⟩
          simp only [hin, decide_true, cond_true, List.length_singleton]
          omega
        · simp only [hin, decide_false, cond_false, List.length_nil, Nat.add_zero]
          exact ih hearlier
      · exact ih hearlier
    · exact ih hearlier

/-! ### Other calls -/

/-- Two lists of calls with the same accepted instants of the tenant accept the same. -/
theorem accepts_congr {limit : Nat} {calls calls' : List Call} {call : Call}
    (hordered : Ordered (call :: calls)) (hordered' : Ordered (call :: calls'))
    (h : instants call.tenantId (accepted limit calls) = instants call.tenantId (accepted limit calls')) :
    Accepts limit calls call ↔ Accepts limit calls' call := by
  rw [accepts_iff_window hordered, accepts_iff_window hordered', h]

theorem Ordered.of_sublist {calls calls' : List Call} {call : Call} (h : Ordered (call :: calls))
    (hsub : calls'.Sublist calls) : Ordered (call :: calls') :=
  h.sublist (hsub.cons_cons call)

/-- Without the calls that were rejected, the others are accepted as before. -/
theorem accepted_accepted (hordered : Ordered calls) :
    accepted limit (accepted limit calls) = accepted limit calls := by
  induction calls with
  | nil => rfl
  | cons call earlier ih =>
    have hearlier := (List.pairwise_cons.mp hordered).2
    have hsame := ih hearlier
    rw [accepted]
    split_ifs with haccepts
    · have hagain : Accepts limit (accepted limit earlier) call := by
        refine (accepts_congr hordered (hordered.of_sublist (accepted_sublist limit earlier)) ?_).mp haccepts
        rw [hsame]
      rw [accepted, if_pos hagain, hsame]
    · exact hsame

/-- The calls of a tenant. -/
def ofTenant (tenantId : String) (calls : List Call) : List Call :=
  calls.filter fun call => decide (call.tenantId = tenantId)

/-- Without the calls of the other tenants, a tenant's calls are accepted as before. -/
theorem accepted_ofTenant (hordered : Ordered calls) (tenantId : String) :
    accepted limit (ofTenant tenantId calls) = ofTenant tenantId (accepted limit calls) := by
  induction calls with
  | nil => rfl
  | cons call earlier ih =>
    have hearlier := (List.pairwise_cons.mp hordered).2
    have hsame := ih hearlier
    unfold ofTenant at hsame ⊢
    rw [List.filter_cons]
    by_cases htenant : call.tenantId = tenantId
    · subst htenant
      have hcongr : Accepts limit (earlier.filter fun c => decide (c.tenantId = call.tenantId)) call ↔
          Accepts limit earlier call := by
        refine accepts_congr (hordered.of_sublist List.filter_sublist) hordered ?_
        rw [hsame, instants, List.filter_filter]
        simp only [Bool.and_self, instants]
      rw [if_pos (decide_eq_true rfl), accepted, accepted]
      simp only [hcongr]
      split_ifs
      · rw [hsame]
        exact (List.filter_cons_of_pos (by simp)).symm
      · exact hsame
    · rw [if_neg (by simpa using htenant), hsame, accepted]
      split_ifs
      · rw [List.filter_cons_of_neg (by simpa using htenant)]
      · rfl

end Window

/-- **The limiter.** With a clock that does not go back, a call is accepted exactly if fewer than
`limit` calls of its tenant were accepted in the minute before it; no minute holds more than `limit`
accepted calls of a tenant; and neither the rejected calls nor those of other tenants make a
difference. A call in the first minute of year 1 raises and changes nothing. -/
theorem acquire_window (limit : Nat) (calls : List Call) (hordered : Ordered calls) :
    (∀ call, (∀ c ∈ calls, c.now ≤ call.now) →
      (Accepts limit calls call ↔ Time.minutes 1 ≤ call.now ∧
        (inWindow call.now (instants call.tenantId (accepted limit calls))).length < limit) ∧
      (Accepts limit calls call ↔ Accepts limit (accepted limit calls) call) ∧
      (Accepts limit calls call ↔ Accepts limit (ofTenant call.tenantId calls) call) ∧
      (call.now < Time.minutes 1 → (after limit calls).acquire call.tenantId call.now =
        (.error (.other "date value out of range"), after limit calls))) ∧
    ∀ (tenantId : String) (start : Int),
      ((instants tenantId (accepted limit calls)).filter fun (t : Time) =>
        decide (start < t ∧ (t : Int) ≤ start + (Time.minutes 1 : Nat))).length ≤ limit ∧
      ((instants tenantId (accepted limit calls)).filter fun (t : Time) =>
        decide (start ≤ t ∧ (t : Int) < start + (Time.minutes 1 : Nat))).length ≤ limit := by
  refine ⟨fun call hnow => ?_, fun tenantId start => ⟨?_, ?_⟩⟩
  · have hcall : Ordered (call :: calls) := List.pairwise_cons.mpr ⟨hnow, hordered⟩
    refine ⟨accepts_iff_window hcall, ?_, ?_, acquire_of_lt _ _⟩
    · refine accepts_congr hcall (hcall.of_sublist (accepted_sublist limit calls)) ?_
      rw [accepted_accepted hordered]
    · refine accepts_congr hcall (hcall.of_sublist List.filter_sublist) ?_
      rw [accepted_ofTenant hordered, ofTenant, instants, instants, List.filter_filter]
      simp only [Bool.and_self]
  · refine length_near_le hordered tenantId fun t t' ht ht' => ?_
    omega
  · refine length_near_le hordered tenantId fun t t' ht ht' => ?_
    omega

/-- Three calls with room for two, and a fourth when the first has just left the window. -/
theorem acquire_window_two :
    Accepts 2 [⟨"tenant_demo", Time.minutes 5 + 30⟩, ⟨"tenant_demo", Time.minutes 5 + 20⟩,
        ⟨"tenant_demo", Time.minutes 5 + 10⟩] ⟨"tenant_demo", Time.minutes 6 + 10⟩ ↔
      Time.minutes 1 ≤ Time.minutes 6 + 10 ∧
      (inWindow (Time.minutes 6 + 10) (instants "tenant_demo" (accepted 2
        [⟨"tenant_demo", Time.minutes 5 + 30⟩, ⟨"tenant_demo", Time.minutes 5 + 20⟩,
          ⟨"tenant_demo", Time.minutes 5 + 10⟩]))).length < 2 := by
  have hordered : Ordered [⟨"tenant_demo", Time.minutes 5 + 30⟩, ⟨"tenant_demo", Time.minutes 5 + 20⟩,
      ⟨"tenant_demo", Time.minutes 5 + 10⟩] := by
    simp [Ordered]
  refine ((acquire_window 2 _ hordered).1 ⟨"tenant_demo", Time.minutes 6 + 10⟩ ?_).1
  decide

/-- In the first minute of year 1 a call is refused although its window is empty. -/
theorem not_accepts_of_window :
    ¬ ∀ (limit : Nat) (calls : List Call) (call : Call), 1 ≤ limit → Ordered (call :: calls) →
      (Accepts limit calls call ↔
        (inWindow call.now (instants call.tenantId (accepted limit calls))).length < limit) := by
  intro h
  have haccepts := (h 1 [] ⟨"tenant_demo", Time.seconds 30⟩ (Nat.le_refl 1) (by simp [Ordered])).mpr
    (by decide)
  rw [accepts_iff] at haccepts
  exact absurd haccepts.1 (by decide)

end TenantEventRateLimiter

end ChangeOps
