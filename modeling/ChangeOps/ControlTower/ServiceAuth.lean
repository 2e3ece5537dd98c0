import ChangeOps.Contracts.Canonical
import ChangeOps.Lib.Dict
import Mathlib.Logic.Relation

/-!
# ChangeOps.ControlTower — identity tokens for service calls

`ServiceAuthProvider` (`apps/control-tower/src/lib/service-auth.ts`). A call of `identityToken` runs
up to its first `await` without interruption; a refresh settles when its fetch is answered, with a
token or with an error; and a call that awaits a refresh goes on at some later time. Any number of
calls interleave at these points.

The call that starts a refresh owns it, and takes it out of `pending` when it goes on. This is
enough: an audience never has two fetches under way, nobody is given a token that was fetched for
somebody else or that had expired when its refresh began, and no token is fetched while the one
before is good.

Times are whole milliseconds; `expiresAt - margin > now` is written without the subtraction.
-/

namespace ChangeOps.ControlTower

structure CachedToken where
  token : String
  expiresAt : Int
deriving DecidableEq

/-- The options, and what `JSON.parse` reads from the payload of a token; `none` where it throws. -/
structure ServiceAuthOptions where
  refreshMarginMs : Int
  parsePayload : String → Option Json

def ServiceAuthOptions.tokenExpiry (options : ServiceAuthOptions) (token : String) :
    Except String Int := do
  let payload := ((token.toList.splitOn '.')[1]?).getD []
  if payload = [] then throw "Google Cloud returned an invalid identity token."
  match options.parsePayload (String.ofList payload) with
  | none => throw "Google Cloud returned an invalid identity token."
  | some (.obj fields) =>
    match fields.lookup "exp" with
    | some (.int exp) => return exp * 1000
    | _ => throw "Google Cloud identity token expiry is invalid."
  | some _ => throw "Google Cloud identity token expiry is invalid."

/-- The promise of a `refresh`, by the message of its error. -/
inductive RefreshState where
  | running
  | settled (result : Except String CachedToken)
deriving DecidableEq

structure Refresh where
  audience : String
  now : Int
  state : RefreshState
deriving DecidableEq

/-- A call of `identityToken`: it awaits a refresh, its own or another call's, or it has returned; then
it has awaited a refresh, or found its token in the cache. -/
inductive CallState where
  | awaiting (refresh : Nat) (owner : Bool)
  | returned (refresh : Option Nat) (result : Except String String)
deriving DecidableEq

structure TokenCall where
  audience : String
  now : Int
  state : CallState
deriving DecidableEq

/-- The provider, and every refresh and call there has been. -/
structure ServiceAuthProvider where
  cache : Dict String CachedToken
  pending : Dict String Nat
  refreshes : List Refresh
  calls : List TokenCall

namespace ServiceAuthProvider

def new : ServiceAuthProvider := ⟨.empty, .empty, [], []⟩

/-- The cached token, if it is good for longer than the margin. -/
def usable? (options : ServiceAuthOptions) (audience : String) (now : Int)
    (s : ServiceAuthProvider) : Option CachedToken :=
  (s.cache.get? audience).filter fun cached => now + options.refreshMarginMs < cached.expiresAt

/-- `identityToken`, up to where it awaits a refresh. -/
def identityToken (options : ServiceAuthOptions) (audience : String) (now : Int)
    (s : ServiceAuthProvider) : ServiceAuthProvider :=
  match s.usable? options audience now with
  | some cached =>
      { s with calls := s.calls ++ [⟨audience, now, .returned none (.ok cached.token)⟩] }
  | none =>
    match s.pending.get? audience with
    | some existing =>
        { s with calls := s.calls ++ [⟨audience, now, .awaiting existing false⟩] }
    | none =>
        { s with
          refreshes := s.refreshes ++ [⟨audience, now, .running⟩]
          pending := s.pending.set audience s.refreshes.length
          calls := s.calls ++ [⟨audience, now, .awaiting s.refreshes.length true⟩] }

/-- What a refresh makes of the answer of its fetch. -/
def refreshed (options : ServiceAuthOptions) (now : Int) (answer : Except String String) :
    Except String CachedToken := do
  let token ← answer
  let expiresAt ← options.tokenExpiry token
  if expiresAt ≤ now then throw "Google Cloud identity token is expired."
  return ⟨token, expiresAt⟩

/-- `refresh`, from the answer of its fetch on. -/
def settle (options : ServiceAuthOptions) (i : Nat) (refresh : Refresh)
    (answer : Except String String) (s : ServiceAuthProvider) : ServiceAuthProvider :=
  let result := refreshed options refresh.now answer
  { s with
    cache := match result with
      | .ok cached => s.cache.set refresh.audience cached
      | .error _ => s.cache
    refreshes := s.refreshes.set i { refresh with state := .settled result } }

/-- `identityToken`, from the end of the refresh on; the owner takes it out of `pending`. -/
def resume (c : Nat) (call : TokenCall) (i : Nat) (owner : Bool) (result : Except String CachedToken)
    (s : ServiceAuthProvider) : ServiceAuthProvider :=
  { s with
    pending := if owner then s.pending.erase call.audience else s.pending
    calls := s.calls.set c { call with state := .returned (some i) (result.map CachedToken.token) } }

end ServiceAuthProvider

open ServiceAuthProvider

/-- A step of the provider; the fetcher may answer anything. -/
inductive AuthStep (options : ServiceAuthOptions) (s : ServiceAuthProvider) :
    ServiceAuthProvider → Prop where
  | call (audience : String) (now : Int) : AuthStep options s (s.identityToken options audience now)
  | settle {i : Nat} {refresh : Refresh} (answer : Except String String)
      (hrefresh : s.refreshes[i]? = some refresh) (hrunning : refresh.state = .running) :
      AuthStep options s (s.settle options i refresh answer)
  | resume {c i : Nat} {call : TokenCall} {owner : Bool} {refresh : Refresh}
      {result : Except String CachedToken} (hcall : s.calls[c]? = some call)
      (hawaits : call.state = .awaiting i owner) (hrefresh : s.refreshes[i]? = some refresh)
      (hsettled : refresh.state = .settled result) :
      AuthStep options s (s.resume c call i owner result)

/-- The states that an interleaving of calls, answers and returns can get to. -/
abbrev Authenticated (options : ServiceAuthOptions) (s : ServiceAuthProvider) : Prop :=
  Relation.ReflTransGen (AuthStep options) .new s

/-! ## The invariant -/

/-- The refresh has settled with the result, and was for the audience. -/
def SettledFor (s : ServiceAuthProvider) (i : Nat) (audience : String)
    (result : Except String CachedToken) : Prop :=
  ∃ refresh, s.refreshes[i]? = some refresh ∧ refresh.audience = audience ∧
    refresh.state = .settled result

/-- A call awaits the refresh as its owner. -/
def Owns (s : ServiceAuthProvider) (c : Nat) (audience : String) (i : Nat) : Prop :=
  ∃ call, s.calls[c]? = some call ∧ call.audience = audience ∧ call.state = .awaiting i true

/-- What holds of a provider between two steps. -/
structure AuthInv (options : ServiceAuthOptions) (s : ServiceAuthProvider) : Prop where
  /-- A pending refresh has an owner that has not gone on. -/
  pending : ∀ audience i, s.pending.get? audience = some i → ∃ c, Owns s c audience i
  owned : ∀ c audience i, Owns s c audience i → s.pending.get? audience = some i
  owner_unique : ∀ c c' audience audience' i, Owns s c audience i → Owns s c' audience' i → c = c'
  awaits : ∀ (c : Nat) (call : TokenCall) (i : Nat) (owner : Bool), s.calls[c]? = some call →
    call.state = .awaiting i owner →
    ∃ refresh : Refresh, s.refreshes[i]? = some refresh ∧ refresh.audience = call.audience
  running : ∀ (i : Nat) (refresh : Refresh), s.refreshes[i]? = some refresh →
    refresh.state = .running → s.pending.get? refresh.audience = some i
  settled : ∀ (i : Nat) (refresh : Refresh) (token : CachedToken), s.refreshes[i]? = some refresh →
    refresh.state = .settled (.ok token) →
    options.tokenExpiry token.token = .ok token.expiresAt ∧ refresh.now < token.expiresAt
  cached : ∀ (audience : String) (token : CachedToken), s.cache.get? audience = some token →
    ∃ i, SettledFor s i audience (.ok token)
  /-- The last token that was fetched for an audience is in the cache. -/
  latest : ∀ i audience token, SettledFor s i audience (.ok token) →
    (∀ k token', i < k → ¬ SettledFor s k audience (.ok token')) →
    s.cache.get? audience = some token
  ordered : ∀ (i j : Nat) (refresh refresh' : Refresh), s.refreshes[i]? = some refresh →
    s.refreshes[j]? = some refresh' → refresh.audience = refresh'.audience → i < j →
    refresh.state ≠ .running
  spaced : ∀ (i j : Nat) (token : CachedToken) (refresh : Refresh),
    s.refreshes[j]? = some refresh → i < j → SettledFor s i refresh.audience (.ok token) →
    (∀ k token', i < k → k < j → ¬ SettledFor s k refresh.audience (.ok token')) →
    token.expiresAt ≤ refresh.now + options.refreshMarginMs
  hit : ∀ (c : Nat) (call : TokenCall) (result : Except String String), s.calls[c]? = some call →
    call.state = .returned none result →
    ∃ i token, SettledFor s i call.audience (.ok token) ∧ result = .ok token.token ∧
      call.now + options.refreshMarginMs < token.expiresAt
  awaited : ∀ (c : Nat) (call : TokenCall) (i : Nat) (result : Except String String),
    s.calls[c]? = some call → call.state = .returned (some i) result →
    ∃ settled, SettledFor s i call.audience settled ∧ result = settled.map CachedToken.token

theorem authInv_new (options : ServiceAuthOptions) : AuthInv options .new where
  pending _ _ h := by cases h
  owned _ _ _ h := by
    obtain ⟨call, hcall, -⟩ := h
    cases hcall
  owner_unique _ _ _ _ _ h := by
    obtain ⟨call, hcall, -⟩ := h
    cases hcall
  awaits _ _ _ _ h := by cases h
  running _ _ h := by cases h
  settled _ _ _ h := by cases h
  cached _ _ h := by cases h
  latest _ _ _ h := by
    obtain ⟨refresh, hrefresh, -⟩ := h
    cases hrefresh
  ordered _ _ _ _ h := by cases h
  spaced _ _ _ _ h := by cases h
  hit _ _ _ h := by cases h
  awaited _ _ _ _ h := by cases h

/-! ## Steps -/

theorem getElem?_concat_eq_some {α : Type} {l : List α} {x y : α} {i : Nat} :
    (l ++ [x])[i]? = some y ↔ l[i]? = some y ∨ (i = l.length ∧ y = x) := by
  rw [List.getElem?_append]
  split_ifs with hi
  · constructor
    · exact .inl
    · rintro (h | ⟨rfl, -⟩)
      · exact h
      · exact absurd hi (Nat.lt_irrefl _)
  · have hnone : l[i]? = none := List.getElem?_eq_none (Nat.le_of_not_lt hi)
    rw [hnone, List.getElem?_singleton]
    constructor
    · intro h
      split_ifs at h with hzero
      cases h
      exact .inr ⟨by omega, rfl⟩
    · rintro (h | ⟨rfl, rfl⟩)
      · cases h
      · rw [Nat.sub_self, if_pos rfl]

theorem getElem?_set_eq_some {α : Type} {l : List α} {x y : α} {i j : Nat}
    (h : (l.set i x)[j]? = some y) : (j = i ∧ y = x) ∨ (j ≠ i ∧ l[j]? = some y) := by
  rw [List.getElem?_set] at h
  split_ifs at h with hij hlt
  · cases h
    exact .inl ⟨hij.symm, rfl⟩
  · exact .inr ⟨fun heq => hij heq.symm, h⟩

section

variable {options : ServiceAuthOptions} {s : ServiceAuthProvider}

/-- The token that `identityToken` finds in the cache. -/
theorem usable?_eq_some {audience : String} {now : Int} {token : CachedToken}
    (h : s.usable? options audience now = some token) :
    s.cache.get? audience = some token ∧ now + options.refreshMarginMs < token.expiresAt := by
  rw [usable?, Option.filter_eq_some_iff] at h
  exact ⟨h.1, of_decide_eq_true h.2⟩

theorem usable?_eq_none {audience : String} {now : Int} {token : CachedToken}
    (h : s.usable? options audience now = none) (hcached : s.cache.get? audience = some token) :
    token.expiresAt ≤ now + options.refreshMarginMs := by
  rw [usable?, hcached, Option.filter_some] at h
  split_ifs at h with hfresh
  exact Int.not_lt.mp fun hlt => hfresh (decide_eq_true hlt)

theorem SettledFor.lt {i : Nat} {audience : String} {result : Except String CachedToken}
    (h : SettledFor s i audience result) : i < s.refreshes.length := by
  obtain ⟨refresh, hget, -⟩ := h
  exact (List.getElem?_eq_some_iff.mp hget).1

theorem SettledFor.not_running {i : Nat} {audience : String} {result : Except String CachedToken}
    {refresh : Refresh} (h : SettledFor s i audience result) (hget : s.refreshes[i]? = some refresh) :
    refresh.state ≠ .running := by
  obtain ⟨settled, hsettled, -, hstate⟩ := h
  rw [hget] at hsettled
  cases hsettled
  rw [hstate]
  intro hrunning
  cases hrunning

/-- A call that does not start a refresh is added. -/
theorem AuthInv.addCall (h : AuthInv options s) {added : TokenCall}
    (howner : ∀ i, added.state ≠ .awaiting i true)
    (hawaits : ∀ i owner, added.state = .awaiting i owner →
      ∃ refresh, s.refreshes[i]? = some refresh ∧ refresh.audience = added.audience)
    (hhit : ∀ result, added.state = .returned none result →
      ∃ i token, SettledFor s i added.audience (.ok token) ∧ result = .ok token.token ∧
        added.now + options.refreshMarginMs < token.expiresAt)
    (hawaited : ∀ i result, added.state ≠ .returned (some i) result) :
    AuthInv options { s with calls := s.calls ++ [added] } := by
  have howns : ∀ {c audience i}, Owns { s with calls := s.calls ++ [added] } c audience i →
      Owns s c audience i := by
    rintro c audience i ⟨call, hcall, haudience, hstate⟩
    rcases getElem?_concat_eq_some.mp hcall with hold | ⟨-, rfl⟩
    · exact ⟨call, hold, haudience, hstate⟩
    · exact absurd hstate (howner i)
  exact
    { pending := by
        intro audience i hget
        obtain ⟨c, call, hcall, hrest⟩ := h.pending audience i hget
        exact ⟨c, call, getElem?_concat_eq_some.mpr (.inl hcall), hrest⟩
      owned := fun c audience i ho => h.owned c audience i (howns ho)
      owner_unique := fun c c' audience audience' i ho ho' =>
        h.owner_unique c c' audience audience' i (howns ho) (howns ho')
      awaits := by
        intro c call i owner hcall hstate
        rcases getElem?_concat_eq_some.mp hcall with hold | ⟨-, rfl⟩
        · exact h.awaits c call i owner hold hstate
        · exact hawaits i owner hstate
      running := h.running
      settled := h.settled
      cached := h.cached
      latest := h.latest
      ordered := h.ordered
      spaced := h.spaced
      hit := by
        intro c call result hcall hstate
        rcases getElem?_concat_eq_some.mp hcall with hold | ⟨-, rfl⟩
        · exact h.hit c call result hold hstate
        · exact hhit result hstate
      awaited := by
        intro c call i result hcall hstate
        rcases getElem?_concat_eq_some.mp hcall with hold | ⟨-, rfl⟩
        · exact h.awaited c call i result hold hstate
        · exact absurd hstate (hawaited i result) }

/-- A call starts a refresh: none was pending for the audience. -/
theorem AuthInv.start (h : AuthInv options s) {audience : String} {now : Int}
    (hstale : s.usable? options audience now = none) (hnone : s.pending.get? audience = none) :
    AuthInv options { s with
      refreshes := s.refreshes ++ [⟨audience, now, .running⟩]
      pending := s.pending.set audience s.refreshes.length
      calls := s.calls ++ [⟨audience, now, .awaiting s.refreshes.length true⟩] } := by
  have hold : ∀ {i refresh}, s.refreshes[i]? = some refresh →
      (s.refreshes ++ [(⟨audience, now, .running⟩ : Refresh)])[i]? = some refresh :=
    fun hget => getElem?_concat_eq_some.mpr (.inl hget)
  have hsettledFor : ∀ {i a result}, SettledFor s i a result → SettledFor { s with
      refreshes := s.refreshes ++ [⟨audience, now, .running⟩]
      pending := s.pending.set audience s.refreshes.length
      calls := s.calls ++ [⟨audience, now, .awaiting s.refreshes.length true⟩] } i a result := by
    rintro i a result ⟨refresh, hget, hrest⟩
    exact ⟨refresh, hold hget, hrest⟩
  have hsettledFor' : ∀ {i a result}, SettledFor { s with
      refreshes := s.refreshes ++ [⟨audience, now, .running⟩]
      pending := s.pending.set audience s.refreshes.length
      calls := s.calls ++ [⟨audience, now, .awaiting s.refreshes.length true⟩] } i a result →
      SettledFor s i a result := by
    rintro i a result ⟨refresh, hget, haudience, hstate⟩
    rcases getElem?_concat_eq_some.mp hget with hget | ⟨-, rfl⟩
    · exact ⟨refresh, hget, haudience, hstate⟩
    · cases hstate
  -- an owner is the new call, or owned an earlier refresh
  have howns : ∀ {c a i}, Owns { s with
      refreshes := s.refreshes ++ [⟨audience, now, .running⟩]
      pending := s.pending.set audience s.refreshes.length
      calls := s.calls ++ [⟨audience, now, .awaiting s.refreshes.length true⟩] } c a i →
      (c = s.calls.length ∧ a = audience ∧ i = s.refreshes.length) ∨
      (Owns s c a i ∧ a ≠ audience ∧ i < s.refreshes.length) := by
    rintro c a i ⟨call, hcall, haudience, hstate⟩
    rcases getElem?_concat_eq_some.mp hcall with hget | ⟨rfl, rfl⟩
    · have howned : Owns s c a i := ⟨call, hget, haudience, hstate⟩
      obtain ⟨refresh, hrefresh, -⟩ := h.awaits c call i true hget hstate
      refine .inr ⟨howned, ?_, (List.getElem?_eq_some_iff.mp hrefresh).1⟩
      rintro rfl
      rw [h.owned c a i howned] at hnone
      cases hnone
    · cases hstate
      exact .inl ⟨rfl, haudience.symm, rfl⟩
  exact
    { pending := by
        intro a i hget
        dsimp only at hget
        rw [Dict.get?_set] at hget
        split_ifs at hget with ha
        · cases hget
          exact ⟨s.calls.length, _, getElem?_concat_eq_some.mpr (.inr ⟨rfl, rfl⟩), ha.symm, rfl⟩
        · obtain ⟨c, call, hcall, hrest⟩ := h.pending a i hget
          exact ⟨c, call, getElem?_concat_eq_some.mpr (.inl hcall), hrest⟩
      owned := by
        intro c a i ho
        dsimp only
        rcases howns ho with ⟨-, rfl, rfl⟩ | ⟨hos, hne, -⟩
        · exact Dict.get?_set_self _ _ _
        · rw [Dict.get?_set_ne _ _ hne]
          exact h.owned c a i hos
      owner_unique := by
        intro c c' a a' i ho ho'
        rcases howns ho with ⟨rfl, -, rfl⟩ | ⟨hos, -, hlt⟩
        · rcases howns ho' with ⟨rfl, -, -⟩ | ⟨-, -, hlt⟩
          · rfl
          · exact absurd hlt (Nat.lt_irrefl _)
        · rcases howns ho' with ⟨-, -, rfl⟩ | ⟨hos', -, -⟩
          · exact absurd hlt (Nat.lt_irrefl _)
          · exact h.owner_unique c c' a a' i hos hos'
      awaits := by
        intro c call i owner hcall hstate
        rcases getElem?_concat_eq_some.mp hcall with hget | ⟨-, rfl⟩
        · obtain ⟨refresh, hrefresh, haudience⟩ := h.awaits c call i owner hget hstate
          exact ⟨refresh, hold hrefresh, haudience⟩
        · cases hstate
          exact ⟨_, getElem?_concat_eq_some.mpr (.inr ⟨rfl, rfl⟩), rfl⟩
      running := by
        intro i refresh hget hrunning
        dsimp only
        rcases getElem?_concat_eq_some.mp hget with hget | ⟨rfl, rfl⟩
        · have hpending := h.running i refresh hget hrunning
          have hne : refresh.audience ≠ audience := by
            intro heq
            rw [heq, hnone] at hpending
            cases hpending
          rw [Dict.get?_set_ne _ _ hne]
          exact hpending
        · exact Dict.get?_set_self _ _ _
      settled := by
        intro i refresh token hget hstate
        rcases getElem?_concat_eq_some.mp hget with hget | ⟨-, rfl⟩
        · exact h.settled i refresh token hget hstate
        · cases hstate
      cached := by
        intro a token hget
        obtain ⟨i, hsettled⟩ := h.cached a token hget
        exact ⟨i, hsettledFor hsettled⟩
      latest := fun i a token hsettled hlast =>
        h.latest i a token (hsettledFor' hsettled) fun k token' hlt hk =>
          hlast k token' hlt (hsettledFor hk)
      ordered := by
        intro i j refresh refresh' hget hget' haudience hlt
        rcases getElem?_concat_eq_some.mp hget with hget | ⟨rfl, rfl⟩
        · rcases getElem?_concat_eq_some.mp hget' with hget' | ⟨rfl, rfl⟩
          · exact h.ordered i j refresh refresh' hget hget' haudience hlt
          · intro hrunning
            have hpending := h.running i refresh hget hrunning
            rw [haudience, hnone] at hpending
            cases hpending
        · have hlen := (List.getElem?_eq_some_iff.mp hget').1
          rw [List.length_append, List.length_singleton] at hlen
          omega
      spaced := by
        intro i j token refresh hget hlt hsettled hlast
        have hold := hsettledFor' hsettled
        rcases getElem?_concat_eq_some.mp hget with hget | ⟨rfl, rfl⟩
        · exact h.spaced i j token refresh hget hlt hold fun k token' hik hkj hk =>
            hlast k token' hik hkj (hsettledFor hk)
        · -- the refresh is the new one: the token was in the cache, and it was stale
          have hcached := h.latest i audience token hold fun k token' hik hk =>
            hlast k token' hik hk.lt (hsettledFor hk)
          exact usable?_eq_none hstale hcached
      hit := by
        intro c call result hcall hstate
        rcases getElem?_concat_eq_some.mp hcall with hget | ⟨-, rfl⟩
        · obtain ⟨i, token, hsettled, hrest⟩ := h.hit c call result hget hstate
          exact ⟨i, token, hsettledFor hsettled, hrest⟩
        · cases hstate
      awaited := by
        intro c call i result hcall hstate
        rcases getElem?_concat_eq_some.mp hcall with hget | ⟨-, rfl⟩
        · obtain ⟨settled, hsettled, hrest⟩ := h.awaited c call i result hget hstate
          exact ⟨settled, hsettledFor hsettled, hrest⟩
        · cases hstate }

theorem refreshed_eq_ok {now : Int} {answer : Except String String} {token : CachedToken}
    (h : refreshed options now answer = .ok token) :
    options.tokenExpiry token.token = .ok token.expiresAt ∧ now < token.expiresAt := by
  unfold refreshed at h
  cases answer with
  | error e => cases h
  | ok text =>
    simp only [bind, Except.bind] at h
    cases hexpiry : options.tokenExpiry text with
    | error e =>
      rw [hexpiry] at h
      cases h
    | ok expiresAt =>
      rw [hexpiry] at h
      dsimp only at h
      split_ifs at h with hexpired
      cases h
      exact ⟨hexpiry, Int.lt_of_not_ge hexpired⟩

/-- The answer of a fetch settles its refresh. -/
theorem AuthInv.settle (h : AuthInv options s) {i : Nat} {refresh : Refresh}
    (answer : Except String String) (hrefresh : s.refreshes[i]? = some refresh)
    (hrunning : refresh.state = .running) :
    AuthInv options (s.settle options i refresh answer) := by
  have hlt : i < s.refreshes.length := (List.getElem?_eq_some_iff.mp hrefresh).1
  have hnew : SettledFor (s.settle options i refresh answer) i refresh.audience
      (refreshed options refresh.now answer) :=
    ⟨_, List.getElem?_set_self hlt, rfl, rfl⟩
  have hkept : ∀ {j a result}, SettledFor s j a result →
      SettledFor (s.settle options i refresh answer) j a result := by
    rintro j a result ⟨other, hget, haudience, hstate⟩
    have hne : i ≠ j := by
      rintro rfl
      exact SettledFor.not_running ⟨other, hget, haudience, hstate⟩ hrefresh hrunning
    exact ⟨other, (List.getElem?_set_ne hne).trans hget, haudience, hstate⟩
  have hsettledFor : ∀ {j a result}, SettledFor (s.settle options i refresh answer) j a result →
      (j = i ∧ a = refresh.audience ∧ result = refreshed options refresh.now answer) ∨
      SettledFor s j a result := by
    rintro j a result ⟨other, hget, haudience, hstate⟩
    rcases getElem?_set_eq_some hget with ⟨rfl, rfl⟩ | ⟨-, hget⟩
    · exact .inl ⟨rfl, haudience.symm, (RefreshState.settled.inj hstate).symm⟩
    · exact .inr ⟨other, hget, haudience, hstate⟩
  exact
    { pending := h.pending
      owned := h.owned
      owner_unique := h.owner_unique
      awaits := by
        intro c call j owner hcall hstate
        obtain ⟨other, hget, haudience⟩ := h.awaits c call j owner hcall hstate
        by_cases hij : i = j
        · subst hij
          rw [hrefresh] at hget
          cases hget
          exact ⟨_, List.getElem?_set_self hlt, haudience⟩
        · exact ⟨other, (List.getElem?_set_ne hij).trans hget, haudience⟩
      running := by
        intro j other hget hstate
        rcases getElem?_set_eq_some hget with ⟨-, rfl⟩ | ⟨-, hget⟩
        · cases hstate
        · exact h.running j other hget hstate
      settled := by
        intro j other token hget hstate
        rcases getElem?_set_eq_some hget with ⟨-, rfl⟩ | ⟨-, hget⟩
        · exact refreshed_eq_ok (RefreshState.settled.inj hstate)
        · exact h.settled j other token hget hstate
      cached := by
        intro a token hget
        unfold ServiceAuthProvider.settle at hget
        dsimp only at hget
        split at hget
        · next fetched hfetched =>
          rw [Dict.get?_set] at hget
          split_ifs at hget with ha
          · cases hget
            exact ⟨i, ha ▸ hfetched ▸ hnew⟩
          · obtain ⟨j, hsettled⟩ := h.cached a token hget
            exact ⟨j, hkept hsettled⟩
        · obtain ⟨j, hsettled⟩ := h.cached a token hget
          exact ⟨j, hkept hsettled⟩
      latest := by
        intro j a token hsettled hlast
        rcases hsettledFor hsettled with ⟨rfl, rfl, hfetched⟩ | hold
        · unfold ServiceAuthProvider.settle
          dsimp only
          rw [← hfetched]
          exact Dict.get?_set_self _ _ _
        · have hcached := h.latest j a token hold fun k token' hlt hk =>
            hlast k token' hlt (hkept hk)
          unfold ServiceAuthProvider.settle
          dsimp only
          split
          · next fetched hfetched =>
            have hne : a ≠ refresh.audience := by
              rintro rfl
              -- the refresh that settles is the audience's last
              have hij : ¬ i < j := by
                intro hlt
                obtain ⟨other, hother, haudience, -⟩ := hold
                exact h.ordered i j refresh other hrefresh hother haudience.symm hlt hrunning
              have hji : j ≠ i := by
                rintro rfl
                exact hold.not_running hrefresh hrunning
              exact hlast i fetched (by omega) (hfetched ▸ hnew)
            rw [Dict.get?_set_ne _ _ hne]
            exact hcached
          · exact hcached
      ordered := by
        intro j k other other' hget hget' haudience hjk
        rcases getElem?_set_eq_some hget with ⟨-, rfl⟩ | ⟨-, hold⟩
        · intro hstate
          cases hstate
        · rcases getElem?_set_eq_some hget' with ⟨rfl, rfl⟩ | ⟨-, hold'⟩
          · exact h.ordered j k other refresh hold hrefresh haudience hjk
          · exact h.ordered j k other other' hold hold' haudience hjk
      spaced := by
        intro j k token other hget hjk hsettled hlast
        obtain ⟨before, hbefore, hnow, haudience⟩ : ∃ before : Refresh,
            s.refreshes[k]? = some before ∧ before.now = other.now ∧
              before.audience = other.audience := by
          rcases getElem?_set_eq_some hget with ⟨rfl, rfl⟩ | ⟨-, hget⟩
          · exact ⟨refresh, hrefresh, rfl, rfl⟩
          · exact ⟨other, hget, rfl, rfl⟩
        rw [← hnow]
        rw [← haudience] at hsettled hlast
        rcases hsettledFor hsettled with ⟨rfl, hfor, -⟩ | hold
        · exact absurd hrunning (h.ordered j k refresh before hrefresh hbefore hfor.symm hjk)
        · exact h.spaced j k token before hbefore hjk hold fun m token' hjm hmk hm =>
            hlast m token' hjm hmk (hkept hm)
      hit := by
        intro c call result hcall hstate
        obtain ⟨j, token, hsettled, hrest⟩ := h.hit c call result hcall hstate
        exact ⟨j, token, hkept hsettled, hrest⟩
      awaited := by
        intro c call j result hcall hstate
        obtain ⟨settled, hsettled, hrest⟩ := h.awaited c call j result hcall hstate
        exact ⟨settled, hkept hsettled, hrest⟩ }

/-- A call goes on with what its refresh has settled with. -/
theorem AuthInv.resume (h : AuthInv options s) {c i : Nat} {call : TokenCall} {owner : Bool}
    {refresh : Refresh} {result : Except String CachedToken} (hcall : s.calls[c]? = some call)
    (hawaits : call.state = .awaiting i owner) (hrefresh : s.refreshes[i]? = some refresh)
    (hsettled : refresh.state = .settled result) :
    AuthInv options (s.resume c call i owner result) := by
  have hfor : SettledFor s i call.audience result := by
    obtain ⟨awaitedRefresh, hget, haudience⟩ := h.awaits c call i owner hcall hawaits
    rw [hrefresh] at hget
    cases hget
    exact ⟨refresh, hrefresh, haudience, hsettled⟩
  have howns : ∀ {c' a j}, Owns (s.resume c call i owner result) c' a j → c' ≠ c ∧ Owns s c' a j := by
    rintro c' a j ⟨other, hget, haudience, hstate⟩
    rcases getElem?_set_eq_some hget with ⟨-, rfl⟩ | ⟨hne, hget⟩
    · cases hstate
    · exact ⟨hne, other, hget, haudience, hstate⟩
  have howns' : ∀ {c' a j}, c' ≠ c → Owns s c' a j → Owns (s.resume c call i owner result) c' a j := by
    rintro c' a j hne ⟨other, hget, hrest⟩
    exact ⟨other, (List.getElem?_set_ne hne.symm).trans hget, hrest⟩
  -- the owner is the only one, so no other refresh is taken out of `pending`
  have hpending : ∀ {a j}, (s.resume c call i owner result).pending.get? a = some j ↔
      s.pending.get? a = some j ∧ ¬ (owner = true ∧ a = call.audience) := by
    intro a j
    unfold ServiceAuthProvider.resume
    cases owner with
    | false => simp
    | true =>
      simp only [if_true, Dict.get?_erase]
      split_ifs with ha
      · simp [ha]
      · simp [ha]
  have hown : owner = true → Owns s c call.audience i := by
    rintro rfl
    exact ⟨call, hcall, rfl, hawaits⟩
  exact
    { pending := by
        intro a j hget
        obtain ⟨hget, hother⟩ := hpending.mp hget
        obtain ⟨c', ho⟩ := h.pending a j hget
        refine ⟨c', howns' ?_ ho⟩
        rintro rfl
        obtain ⟨same, hsame, haudience, hstate⟩ := ho
        rw [hcall] at hsame
        cases hsame
        rw [hawaits] at hstate
        cases hstate
        exact hother ⟨rfl, haudience.symm⟩
      owned := by
        intro c' a j ho
        obtain ⟨hne, ho⟩ := howns ho
        refine hpending.mpr ⟨h.owned c' a j ho, ?_⟩
        rintro ⟨howner, rfl⟩
        have hi := h.owned c call.audience i (hown howner)
        rw [h.owned c' call.audience j ho] at hi
        cases hi
        exact hne (h.owner_unique c' c _ _ i ho (hown howner))
      owner_unique := fun c' c'' a a' j ho ho' =>
        h.owner_unique c' c'' a a' j (howns ho).2 (howns ho').2
      awaits := by
        intro c' call' j owner' hget hstate
        rcases getElem?_set_eq_some hget with ⟨-, rfl⟩ | ⟨-, hget⟩
        · cases hstate
        · exact h.awaits c' call' j owner' hget hstate
      running := by
        intro j other hget hstate
        have hj := h.running j other hget hstate
        refine hpending.mpr ⟨hj, ?_⟩
        rintro ⟨howner, haudience⟩
        have hi := h.owned c call.audience i (hown howner)
        rw [← haudience, hj] at hi
        cases hi
        have hsame : s.refreshes[i]? = some other := hget
        rw [hrefresh] at hsame
        cases hsame
        rw [hsettled] at hstate
        cases hstate
      settled := h.settled
      cached := h.cached
      latest := h.latest
      ordered := h.ordered
      spaced := h.spaced
      hit := by
        intro c' call' result' hget hstate
        rcases getElem?_set_eq_some hget with ⟨-, rfl⟩ | ⟨-, hget⟩
        · cases hstate
        · exact h.hit c' call' result' hget hstate
      awaited := by
        intro c' call' j result' hget hstate
        rcases getElem?_set_eq_some hget with ⟨-, rfl⟩ | ⟨-, hget⟩
        · cases hstate
          exact ⟨result, hfor, rfl⟩
        · exact h.awaited c' call' j result' hget hstate }

/-- **One step.** -/
theorem AuthInv.step (h : AuthInv options s) {s' : ServiceAuthProvider}
    (hstep : AuthStep options s s') : AuthInv options s' := by
  cases hstep with
  | settle answer hrefresh hrunning => exact h.settle answer hrefresh hrunning
  | resume hcall hawaits hrefresh hsettled => exact h.resume hcall hawaits hrefresh hsettled
  | call audience now =>
    unfold identityToken
    cases husable : s.usable? options audience now with
    | some token =>
      obtain ⟨hget, hfresh⟩ := usable?_eq_some husable
      obtain ⟨i, hsettled⟩ := h.cached audience token hget
      refine h.addCall (fun i heq => by cases heq) (fun i owner heq => by cases heq) ?_
        fun i result heq => by cases heq
      rintro result ⟨⟩
      exact ⟨i, token, hsettled, rfl, hfresh⟩
    | none =>
      dsimp only
      cases hpending : s.pending.get? audience with
      | none => exact h.start husable hpending
      | some existing =>
        refine h.addCall (fun i heq => by cases heq) ?_ (fun result heq => by cases heq)
          fun i result heq => by cases heq
        rintro i owner ⟨⟩
        obtain ⟨c, call, hcall, haudience, hstate⟩ := h.pending audience existing hpending
        obtain ⟨refresh, hrefresh, hfor⟩ := h.awaits c call existing true hcall hstate
        exact ⟨refresh, hrefresh, hfor.trans haudience⟩

theorem Authenticated.inv (h : Authenticated options s) : AuthInv options s := by
  induction h with
  | refl => exact authInv_new options
  | tail _ hstep ih => exact ih.step hstep

/-! ## What callers get -/

theorem map_token_eq_ok {settled : Except String CachedToken} {token : String}
    (h : (.ok token : Except String String) = settled.map CachedToken.token) :
    ∃ expiresAt, settled = .ok ⟨token, expiresAt⟩ := by
  cases settled with
  | error message => cases h
  | ok fetched =>
    cases h
    exact ⟨fetched.expiresAt, rfl⟩

theorem map_token_eq_error {settled : Except String CachedToken} {message : String}
    (h : (.error message : Except String String) = settled.map CachedToken.token) :
    settled = .error message := by
  cases settled with
  | ok fetched => cases h
  | error other =>
    cases h
    rfl

/-- The token was fetched for the audience, by the refresh, and had not expired when that began. -/
def FetchedFor (options : ServiceAuthOptions) (s : ServiceAuthProvider) (audience token : String)
    (i : Nat) (expiresAt : Int) : Prop :=
  ∃ refresh : Refresh, s.refreshes[i]? = some refresh ∧ refresh.audience = audience ∧
    refresh.state = .settled (.ok ⟨token, expiresAt⟩) ∧ options.tokenExpiry token = .ok expiresAt ∧
    refresh.now < expiresAt

/-- What the provider does for its callers. -/
structure SingleFlight (options : ServiceAuthOptions) (s : ServiceAuthProvider) : Prop where
  single : ∀ (i j : Nat) (refresh refresh' : Refresh), s.refreshes[i]? = some refresh →
    s.refreshes[j]? = some refresh' → refresh.audience = refresh'.audience →
    refresh.state = .running → refresh'.state = .running → i = j
  /-- A refresh begins when the last token that was fetched before it is within the margin. -/
  spaced : ∀ (i j : Nat) (token : CachedToken) (refresh : Refresh),
    s.refreshes[j]? = some refresh → i < j → SettledFor s i refresh.audience (.ok token) →
    (∀ k token', i < k → k < j → ¬ SettledFor s k refresh.audience (.ok token')) →
    token.expiresAt ≤ refresh.now + options.refreshMarginMs
  awaited : ∀ (c : Nat) (call : TokenCall) (i : Nat) (token : String), s.calls[c]? = some call →
    call.state = .returned (some i) (.ok token) →
    ∃ expiresAt, FetchedFor options s call.audience token i expiresAt
  hit : ∀ (c : Nat) (call : TokenCall) (token : String), s.calls[c]? = some call →
    call.state = .returned none (.ok token) →
    ∃ i expiresAt, FetchedFor options s call.audience token i expiresAt ∧
      call.now + options.refreshMarginMs < expiresAt
  /-- Only a refresh fails, and with it those who awaited it. -/
  failed : ∀ (c : Nat) (call : TokenCall) (source : Option Nat) (message : String),
    s.calls[c]? = some call → call.state = .returned source (.error message) →
    ∃ i, source = some i ∧ SettledFor s i call.audience (.error message)
  /-- When every call has returned, nothing is left behind. -/
  quiet : (∀ (c : Nat) (call : TokenCall) (i : Nat) (owner : Bool), s.calls[c]? = some call →
      call.state ≠ .awaiting i owner) →
    (∀ audience, s.pending.get? audience = none) ∧
      ∀ (i : Nat) (refresh : Refresh), s.refreshes[i]? = some refresh → refresh.state ≠ .running

theorem AuthInv.fetchedFor (h : AuthInv options s) {i : Nat} {audience : String} {token : CachedToken}
    (hsettled : SettledFor s i audience (.ok token)) :
    FetchedFor options s audience token.token i token.expiresAt := by
  obtain ⟨refresh, hget, haudience, hstate⟩ := hsettled
  obtain ⟨hexpiry, hlive⟩ := h.settled i refresh token hget hstate
  exact ⟨refresh, hget, haudience, hstate, hexpiry, hlive⟩

theorem AuthInv.no_pending (h : AuthInv options s)
    (hreturned : ∀ (c : Nat) (call : TokenCall) (i : Nat) (owner : Bool), s.calls[c]? = some call →
      call.state ≠ .awaiting i owner) (audience : String) : s.pending.get? audience = none := by
  cases hpending : s.pending.get? audience with
  | none => rfl
  | some i =>
    obtain ⟨c, call, hcall, -, hstate⟩ := h.pending audience i hpending
    exact absurd hstate (hreturned c call i true hcall)

/-- **In every state that calls, answers and returns can get to**, in any order. -/
theorem serviceAuth_singleFlight (options : ServiceAuthOptions) (s : ServiceAuthProvider)
    (h : Authenticated options s) : SingleFlight options s where
  single i j refresh refresh' hget hget' haudience hrunning hrunning' := by
    have hi := h.inv.running i refresh hget hrunning
    have hj := h.inv.running j refresh' hget' hrunning'
    rw [haudience, hj] at hi
    exact (Option.some.inj hi).symm
  spaced := h.inv.spaced
  awaited c call i token hcall hstate := by
    obtain ⟨settled, hsettled, heq⟩ := h.inv.awaited c call i _ hcall hstate
    obtain ⟨expiresAt, rfl⟩ := map_token_eq_ok heq
    exact ⟨expiresAt, h.inv.fetchedFor hsettled⟩
  hit c call token hcall hstate := by
    obtain ⟨i, fetched, hsettled, heq, hfresh⟩ := h.inv.hit c call _ hcall hstate
    cases heq
    exact ⟨i, fetched.expiresAt, h.inv.fetchedFor hsettled, hfresh⟩
  failed c call source message hcall hstate := by
    cases source with
    | none =>
      obtain ⟨i, fetched, -, heq, -⟩ := h.inv.hit c call _ hcall hstate
      cases heq
    | some i =>
      obtain ⟨settled, hsettled, heq⟩ := h.inv.awaited c call i _ hcall hstate
      exact ⟨i, rfl, map_token_eq_error heq ▸ hsettled⟩
  quiet hreturned := by
    refine ⟨h.inv.no_pending hreturned, fun i refresh hget hrunning => ?_⟩
    have hpending := h.inv.running i refresh hget hrunning
    rw [h.inv.no_pending hreturned] at hpending
    cases hpending

end

namespace ServiceAuthDemo

/-- A payload that is `n` characters long says that its token expires at `100 * n` seconds. -/
def options : ServiceAuthOptions where
  refreshMarginMs := 300000
  parsePayload payload := some (.obj [("exp", .int (100 * payload.toList.length))])

def audience : String := "https://tool-gateway.run.app"

def token : String := "e30.eyJleHAifQ.c2ln"

/-- Two calls have begun, and the fetch of the first is answered. -/
def fetched : ServiceAuthProvider :=
  (((ServiceAuthProvider.new.identityToken options audience 0).identityToken options audience 10).settle
    options 0 ⟨audience, 0, .running⟩ (.ok token))

/-- The second goes on before the first. -/
def joined : ServiceAuthProvider :=
  (fetched.resume 1 ⟨audience, 10, .awaiting 0 false⟩ 0 false (.ok ⟨token, 1000000⟩)).resume 0
    ⟨audience, 0, .awaiting 0 true⟩ 0 true (.ok ⟨token, 1000000⟩)

/-- A third finds the token in the cache, and a fourth fetches another. -/
def renewing : ServiceAuthProvider :=
  (joined.identityToken options audience 699999).identityToken options audience 700000

theorem authenticated_fetched : Authenticated options fetched :=
  ((Relation.ReflTransGen.refl.tail (.call audience 0)).tail (.call audience 10)).tail
    (.settle (.ok token) (by decide) rfl)

theorem authenticated_joined : Authenticated options joined :=
  (authenticated_fetched.tail (.resume (by decide) rfl
    (show fetched.refreshes[0]? = some ⟨audience, 0, .settled (.ok ⟨token, 1000000⟩)⟩ by decide)
    rfl)).tail (.resume (by decide) rfl
    (show fetched.refreshes[0]? = some ⟨audience, 0, .settled (.ok ⟨token, 1000000⟩)⟩ by decide) rfl)

theorem serviceAuth_singleFlight_renewing : SingleFlight options renewing ∧ renewing.calls =
    [⟨audience, 0, .returned (some 0) (.ok token)⟩, ⟨audience, 10, .returned (some 0) (.ok token)⟩,
      ⟨audience, 699999, .returned none (.ok token)⟩, ⟨audience, 700000, .awaiting 1 true⟩] :=
  ⟨serviceAuth_singleFlight options renewing
    ((authenticated_joined.tail (.call audience 699999)).tail (.call audience 700000)), by decide⟩

end ServiceAuthDemo

end ChangeOps.ControlTower
