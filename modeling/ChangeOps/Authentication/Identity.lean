import ChangeOps.Lib.Fallible
import ChangeOps.Policy.Engine
import ChangeOps.Workflow.Models

/-!
# ChangeOps.Authentication — identity tokens

`HmacIdentityVerifier.verify` (`changeops_tool_gateway/identity.py`), exception by exception: which
ones its handlers catch is what the callers depend on.

HMAC-SHA256, `json.loads` and `int` of a text are parameters. `json.loads` gives a value, or raises a
`ValueError` (the hook against duplicate keys raises one too), or a `RecursionError` when the
document is nested too deeply for the interpreter.
-/

namespace ChangeOps.Authentication

/-! ## Exceptions -/

inductive PyException where
  /-- `AuthenticationError`, a `RuntimeError`. -/
  | authentication (detail : String)
  /-- `SignatureError`, a `RuntimeError`. -/
  | signature
  /-- `CallbackAuthenticationError`, a `RuntimeError`. -/
  | callbackAuthentication
  | valueError (message : String)
  /-- `UnicodeEncodeError`, a `ValueError`. -/
  | unicodeEncode
  | typeError (message : String)
  | keyError (name : String)
  | overflow
  | os
  | recursion
deriving DecidableEq, Repr

/-- `except (KeyError, TypeError, ValueError)`. -/
def PyException.caught : PyException → Bool
  | .valueError _ | .unicodeEncode | .typeError _ | .keyError _ => true
  | _ => false

def PyException.isAuthentication : PyException → Prop
  | .authentication _ => True
  | _ => False

/-- What passes through the handlers of `verify` and is not its own error either. -/
def PyException.escapes (error : PyException) : Prop :=
  error.caught = false ∧ ¬ error.isAuthentication

/-! ## Values of a JSON document -/

/-- A `float`, as `int` sees it. -/
inductive PyFloat where
  | finite (truncated : Int)
  | infinite
  | nan
deriving DecidableEq, Repr

inductive PyValue where
  | none
  | bool (b : Bool)
  | int (n : Int)
  | float (x : PyFloat)
  | str (s : String)
  | list (items : List PyValue)
  | dict (fields : List (String × PyValue))

inductive LoadsError where
  | valueError (message : String)
  | recursion
deriving DecidableEq, Repr

/-- What the verifier uses of the standard library. -/
class TokenLibrary where
  hmacSha256 : (key message : List UInt8) → List UInt8
  /-- `json.loads` with `_reject_duplicate_keys`. -/
  loads : List UInt8 → Except LoadsError PyValue
  /-- `int(text)`, if it does not raise. -/
  intOfText : String → Option Int
  length_hmacSha256 : ∀ key message, (hmacSha256 key message).length = 32

/-! ## Base64 -/

/-- The value of a character of the alphabet, with `-` and `_` as altchars. -/
def sextet (c : Char) : Option Nat :=
  if 65 ≤ c.toNat ∧ c.toNat ≤ 90 then some (c.toNat - 65)
  else if 97 ≤ c.toNat ∧ c.toNat ≤ 122 then some (c.toNat - 71)
  else if 48 ≤ c.toNat ∧ c.toNat ≤ 57 then some (c.toNat + 4)
  else if c = '-' ∨ c = '+' then some 62
  else if c = '_' ∨ c = '/' then some 63
  else none

/-- The loop of `binascii.a2b_base64` in strict mode. -/
def a2bLoop : List Char → (quadPos leftchar pads : Nat) → (paddingStarted : Bool) →
    List UInt8 → Option (List UInt8)
  | [], quadPos, _, _, _, out => if quadPos = 0 then some out else none
  | c :: rest, quadPos, leftchar, pads, paddingStarted, out =>
    if c = '=' then
      if 2 ≤ quadPos ∧ 4 ≤ quadPos + (pads + 1) then
        -- a pad sequence ends the input: excess data after it is an error
        if rest = [] then some out else none
      else a2bLoop rest quadPos leftchar (if 2 ≤ quadPos then pads + 1 else pads) true out
    else
      match sextet c with
      | none => none
      | some value =>
        if paddingStarted then none
        else if quadPos = 0 then a2bLoop rest 1 value 0 false out
        else if quadPos = 1 then
          a2bLoop rest 2 (value % 16) 0 false (out ++ [UInt8.ofNat (leftchar * 4 + value / 16)])
        else if quadPos = 2 then
          a2bLoop rest 3 (value % 4) 0 false (out ++ [UInt8.ofNat (leftchar * 16 + value / 4)])
        else a2bLoop rest 0 0 0 false (out ++ [UInt8.ofNat (leftchar * 64 + value)])

/-- `base64.b64decode(value, altchars=b"-_", validate=True)`: `none` for its `ValueError`, which a
    character outside of ASCII raises as well. -/
def b64decodeStrict (value : List Char) : Option (List UInt8) :=
  if value.head? = some '=' then none else a2bLoop value 0 0 0 false []

/-- `_b64decode`. -/
def b64decode (value : List Char) : Except PyException (List UInt8) :=
  match b64decodeStrict (value ++ List.replicate ((4 - value.length % 4) % 4) '=') with
  | some bytes => .ok bytes
  | none => .error (.authentication "Identity token encoding is invalid.")

/-! ## Claims -/

variable [TokenLibrary]

def loads (bytes : List UInt8) : Except PyException PyValue :=
  match TokenLibrary.loads bytes with
  | .ok value => .ok value
  | .error (.valueError message) => .error (.valueError message)
  | .error .recursion => .error .recursion

/-- `int(value)`. -/
def intOf : PyValue → Except PyException Int
  | .bool b => .ok (if b then 1 else 0)
  | .int n => .ok n
  | .float (.finite n) => .ok n
  | .float .infinite => .error .overflow
  | .float .nan => .error (.valueError "cannot convert float NaN to integer")
  | .str text =>
    match TokenLibrary.intOfText text with
    | some n => .ok n
    | none => .error (.valueError "invalid literal for int() with base 10")
  | _ => .error (.typeError "int() argument must be a string, a bytes-like object or a real number")

omit [TokenLibrary] in
/-- The seconds that `gmtime` can convert: the year fits into an `int`. -/
def gmtimeRange (n : Int) : Prop := -67768040609740800 ≤ n ∧ n ≤ 67768036191676799

instance (n : Int) : Decidable (gmtimeRange n) :=
  inferInstanceAs (Decidable (_ ∧ _))

omit [TokenLibrary] in
/-- `datetime.fromtimestamp(n, tz=UTC)`: the seconds must fit into a `time_t`, `gmtime` must be able to
    convert them, and the year must be one from 1 to 9999. -/
def fromTimestamp (n : Int) : Except PyException Time :=
  if n < -9223372036854775808 ∨ 9223372036854775807 < n then .error .overflow
  else if ¬ gmtimeRange n then .error .os
  else if n < -62135596800 ∨ 253402300799 < n then .error (.valueError "year is out of range")
  else .ok (Time.seconds (n + 62135596800).toNat)

/-- `datetime.fromtimestamp(int(value), tz=UTC)`. -/
def timestamp (value : PyValue) : Except PyException Time := do fromTimestamp (← intOf value)

/-- `payload[name]`. -/
def item (fields : List (String × PyValue)) (name : String) : Except PyException PyValue :=
  match fields.lookup name with
  | some value => .ok value
  | none => .error (.keyError name)

/-- `tuple(value)`. -/
def tupleOf : PyValue → Except PyException (List PyValue)
  | .list items => .ok items
  | .str text => .ok (text.toList.map fun c => .str (String.singleton c))
  | .dict fields => .ok (fields.map fun field => .str field.1)
  | _ => .error (.typeError "object is not iterable")

/-- `header == {"alg": "HS256", "typ": "JWT"}`. -/
def isSupportedHeader : PyValue → Bool
  | .dict fields => fields.length == 2 && isText (fields.lookup "alg") "HS256" &&
      isText (fields.lookup "typ") "JWT"
  | _ => false
where
  isText : Option PyValue → String → Bool
    | some (.str text), expected => text == expected
    | _, _ => false

/-- A field of type `NonEmptyStr`. -/
def textOf : PyValue → Except PyException String
  | .str text => (nonEmptyStr text).mapError fun _ => .valueError "String has a wrong length"
  | _ => .error (.valueError "Input should be a valid string")

def kindText : IdentityKind → String
  | .AGENT => "agent"
  | .SERVICE => "service"
  | .USER => "user"

def kindOf : PyValue → Except PyException IdentityKind
  | .str text =>
    match [IdentityKind.AGENT, .SERVICE, .USER].find? fun kind => kindText kind = text with
    | some kind => .ok kind
    | none => .error (.valueError "Input should be 'agent', 'service' or 'user'")
  | _ => .error (.valueError "Input should be 'agent', 'service' or 'user'")

def roleOf : PyValue → Except PyException UserRole
  | .str text =>
    match [UserRole.CHANGE_REQUESTER, .APPROVER, .AUDITOR, .PLATFORM_ADMIN].find?
        fun role => role.value = text with
    | some role => .ok role
    | none => .error (.valueError "Input should be a role")
  | _ => .error (.valueError "Input should be a role")

/-- A `VerifiedIdentity` with its audience. -/
structure AuthenticatedIdentity extends VerifiedIdentity where
  audience : String

/-- `VerifiedIdentity(...)`: the arguments are evaluated first, then the model validates them. -/
def identityOf (claims : List (String × PyValue)) (issuedAt expiresAt : Time) :
    Except PyException AuthenticatedIdentity := do
  let subject ← item claims "sub"
  let tenantId ← item claims "tenant_id"
  let kind ← item claims "kind"
  let roles ← tupleOf ((claims.lookup "roles").getD (.list []))
  let audience ← item claims "aud"
  let subject ← textOf subject
  let tenantId ← textOf tenantId
  let kind ← kindOf kind
  let roles ← roles.mapM roleOf
  let audience ← textOf audience
  if hexpires : issuedAt < expiresAt then
    if hroles : roles.Nodup then
      if hkind : kind = .USER ∨ roles = [] then
        return { subject, tenantId, kind, roles, issuedAt, expiresAt, audience,
                 issued_lt_expires := hexpires, nodup_roles := hroles, roles_of_user := hkind }
      else .error (.valueError "only user identities may carry user roles")
    else .error (.valueError "identity roles must be unique")
  else .error (.valueError "identity expiration must be after issuance")

/-! ## The verifier -/

structure HmacIdentityVerifier where
  secret : List UInt8
  audience : String
  maximumLifetime : Time
  secret_length : 32 ≤ secret.length
  audience_text : stripWhitespace audience ≠ ""

def isAscii (text : List Char) : Bool := text.all fun c => decide (c.toNat < 128)

/-- `text.encode("ascii")`. -/
def encodeAscii (text : List Char) : Except PyException (List UInt8) :=
  if isAscii text then .ok (text.map fun c => UInt8.ofNat c.toNat) else .error .unicodeEncode

namespace HmacIdentityVerifier

variable (verifier : HmacIdentityVerifier)

/-- The claims of a payload. -/
def readPayload (now : Time) : PyValue → Except PyException AuthenticatedIdentity
  | .dict claims => do
    let issuedAt ← timestamp (← item claims "iat")
    let expiresAt ← timestamp (← item claims "exp")
    if !isSupportedHeader.isText (some (← item claims "aud")) verifier.audience then
      .error (.valueError "audience mismatch")
    else if datetimeEnd ≤ now + Time.seconds 30 then .error .overflow
    else if now + Time.seconds 30 < issuedAt then .error (.valueError "token issued in the future")
    else if expiresAt ≤ now then .error (.valueError "token expired")
    else if verifier.maximumLifetime < expiresAt - issuedAt then
      .error (.valueError "token lifetime exceeds policy")
    else identityOf claims issuedAt expiresAt
  | _ => .error (.valueError "token claims must be an object")

/-- The body of the `try` of `verify`. -/
def readClaims (now : Time) (encodedHeader encodedPayload : List Char) :
    Except PyException AuthenticatedIdentity := do
  let header ← loads (← b64decode encodedHeader)
  let payload ← loads (← b64decode encodedPayload)
  if isSupportedHeader header then verifier.readPayload now payload
  else .error (.valueError "unsupported token header")

omit [TokenLibrary] in
/-- The `except` clause of `verify`. -/
def exceptClause : Except PyException AuthenticatedIdentity → Except PyException AuthenticatedIdentity
  | .ok identity => .ok identity
  | .error error =>
    if error.caught then .error (.authentication "Identity token claims are invalid.")
    else .error error

def verify (now : Time) (token : String) : Except PyException AuthenticatedIdentity :=
  match token.toList.splitOn '.' with
  | [encodedHeader, encodedPayload, encodedSignature] => do
    let signingInput ← encodeAscii (encodedHeader ++ '.' :: encodedPayload)
    let expected := TokenLibrary.hmacSha256 verifier.secret signingInput
    let supplied ← b64decode encodedSignature
    if expected ≠ supplied then .error (.authentication "Identity token signature is invalid.")
    else exceptClause (verifier.readClaims now encodedHeader encodedPayload)
  | _ => .error (.authentication "Identity token structure is invalid.")

end HmacIdentityVerifier

/-! ## What each part raises -/

omit [TokenLibrary] in
theorem b64decode_raises (value : List Char) :
    Fallible.Raises PyException.isAuthentication (b64decode value) := by
  unfold b64decode
  split
  · exact Fallible.raises_ok
  · exact Fallible.raises_error trivial

omit [TokenLibrary] in
theorem item_raises (fields : List (String × PyValue)) (name : String) :
    Fallible.Raises (·.caught = true) (item fields name) := by
  unfold item
  split
  · exact Fallible.raises_ok
  · exact Fallible.raises_error rfl

omit [TokenLibrary] in
theorem tupleOf_raises (value : PyValue) : Fallible.Raises (·.caught = true) (tupleOf value) := by
  unfold tupleOf
  split
  · exact Fallible.raises_ok
  · exact Fallible.raises_ok
  · exact Fallible.raises_ok
  · exact Fallible.raises_error rfl

omit [TokenLibrary] in
theorem textOf_raises (value : PyValue) : Fallible.Raises (·.caught = true) (textOf value) := by
  unfold textOf
  split
  · cases nonEmptyStr _ with
    | ok text => exact Fallible.raises_ok
    | error e => exact Fallible.raises_error rfl
  · exact Fallible.raises_error rfl

omit [TokenLibrary] in
theorem kindOf_raises (value : PyValue) : Fallible.Raises (·.caught = true) (kindOf value) := by
  unfold kindOf
  split
  · split
    · exact Fallible.raises_ok
    · exact Fallible.raises_error rfl
  · exact Fallible.raises_error rfl

omit [TokenLibrary] in
theorem roleOf_raises (value : PyValue) : Fallible.Raises (·.caught = true) (roleOf value) := by
  unfold roleOf
  split
  · split
    · exact Fallible.raises_ok
    · exact Fallible.raises_error rfl
  · exact Fallible.raises_error rfl

omit [TokenLibrary] in
/-- Every error of the identity's validation is one that `verify` catches. -/
theorem identityOf_raises (claims : List (String × PyValue)) (issuedAt expiresAt : Time) :
    Fallible.Raises (·.caught = true) (identityOf claims issuedAt expiresAt) := by
  unfold identityOf
  apply (item_raises claims "sub").bind
  intro subject
  apply (item_raises claims "tenant_id").bind
  intro tenantId
  apply (item_raises claims "kind").bind
  intro kind
  apply (tupleOf_raises _).bind
  intro roles
  apply (item_raises claims "aud").bind
  intro audience
  apply (textOf_raises subject).bind
  intro subject
  apply (textOf_raises tenantId).bind
  intro tenantId
  apply (kindOf_raises kind).bind
  intro kind
  apply (Fallible.raises_mapM roleOf_raises roles).bind
  intro roles
  apply (textOf_raises audience).bind
  intro audience
  split
  · split
    · split
      · exact Fallible.raises_ok
      · exact Fallible.raises_error rfl
    · exact Fallible.raises_error rfl
  · exact Fallible.raises_error rfl

omit [TokenLibrary] in
/-- The identity carries the times it was validated with. -/
theorem identityOf_times {claims : List (String × PyValue)} {issuedAt expiresAt : Time}
    {identity : AuthenticatedIdentity} (h : identityOf claims issuedAt expiresAt = .ok identity) :
    identity.issuedAt = issuedAt ∧ identity.expiresAt = expiresAt := by
  simp only [identityOf, Fallible.bind_eq_ok_iff] at h
  obtain ⟨_, -, _, -, _, -, _, -, _, -, _, -, _, -, _, -, _, -, _, -, h⟩ := h
  split at h
  · split at h
    · split at h
      · cases h
        exact ⟨rfl, rfl⟩
      · cases h
    · cases h
  · cases h

/-! ## What escapes -/

omit [TokenLibrary] in
theorem PyException.not_escapes_of_caught {error : PyException} (h : error.caught = true) :
    ¬ error.escapes := by
  intro hesc
  rw [hesc.1] at h
  cases h

/-- The computation raises an error that passes through the handlers. -/
def Escaping {α : Type} (x : Except PyException α) : Prop := ∃ e, x = .error e ∧ e.escapes

section

omit [TokenLibrary]

variable {α β : Type}

theorem not_escaping_ok (a : α) : ¬ Escaping (.ok a : Except PyException α) := by
  rintro ⟨e, h, -⟩
  cases h

theorem escaping_error_iff {error : PyException} :
    Escaping (.error error : Except PyException α) ↔ error.escapes := by
  constructor
  · rintro ⟨e, h, hesc⟩
    cases h
    exact hesc
  · intro hesc
    exact ⟨error, rfl, hesc⟩

theorem escaping_bind_iff {x : Except PyException α} {f : α → Except PyException β} :
    Escaping (x >>= f) ↔ Escaping x ∨ ∃ a, x = .ok a ∧ Escaping (f a) := by
  constructor
  · rintro ⟨e, h, hesc⟩
    rcases Fallible.bind_eq_error_iff.mp h with h | ⟨a, hx, h⟩
    · exact .inl ⟨e, h, hesc⟩
    · exact .inr ⟨a, hx, e, h, hesc⟩
  · rintro (⟨e, h, hesc⟩ | ⟨a, hx, e, h, hesc⟩)
    · exact ⟨e, Fallible.bind_eq_error_iff.mpr (.inl h), hesc⟩
    · exact ⟨e, Fallible.bind_eq_error_iff.mpr (.inr ⟨a, hx, h⟩), hesc⟩

theorem not_escaping_of_caught {x : Except PyException α}
    (hx : Fallible.Raises (·.caught = true) x) : ¬ Escaping x := by
  rintro ⟨e, h, hesc⟩
  exact PyException.not_escapes_of_caught (hx e h) hesc

theorem not_escaping_b64decode (value : List Char) : ¬ Escaping (b64decode value) := by
  rintro ⟨e, h, hesc⟩
  exact hesc.2 (b64decode_raises value e h)

theorem item_eq_ok_iff {fields : List (String × PyValue)} {name : String} {value : PyValue} :
    item fields name = .ok value ↔ fields.lookup name = some value := by
  unfold item
  cases fields.lookup name with
  | none =>
    constructor
    · intro h
      cases h
    · intro h
      cases h
  | some found =>
    constructor
    · intro h
      cases h
      rfl
    · intro h
      cases h
      rfl

theorem escaping_fromTimestamp_iff {n : Int} : Escaping (fromTimestamp n) ↔ ¬ gmtimeRange n := by
  unfold fromTimestamp
  split
  · -- outside of a `time_t`, and so outside of the range
    constructor
    · intro _
      unfold gmtimeRange
      omega
    · intro _
      exact escaping_error_iff.mpr ⟨rfl, id⟩
  · split
    · next hrange =>
      constructor
      · intro _
        exact hrange
      · intro _
        exact escaping_error_iff.mpr ⟨rfl, id⟩
    · next hrange =>
      constructor
      · intro h
        split at h
        · exact absurd h (not_escaping_of_caught (Fallible.raises_error rfl))
        · exact absurd h (not_escaping_ok _)
      · intro h
        exact absurd h hrange

end

/-- A value that `datetime.fromtimestamp(int(value))` refuses with another error than a `ValueError`
    or a `TypeError`: an infinite float, or seconds beyond the years that `gmtime` knows. -/
def Unconvertible (value : PyValue) : Prop :=
  value = .float .infinite ∨ ∃ n, intOf value = .ok n ∧ ¬ gmtimeRange n

theorem escaping_intOf_iff {value : PyValue} : Escaping (intOf value) ↔ value = .float .infinite := by
  constructor
  · rintro ⟨e, h, hesc⟩
    unfold intOf at h
    split at h
    · cases h
    · cases h
    · cases h
    · rfl
    · cases h
      exact absurd hesc (PyException.not_escapes_of_caught rfl)
    · split at h
      · cases h
      · cases h
        exact absurd hesc (PyException.not_escapes_of_caught rfl)
    · cases h
      exact absurd hesc (PyException.not_escapes_of_caught rfl)
  · intro h
    rw [h]
    exact escaping_error_iff.mpr ⟨rfl, id⟩

theorem escaping_timestamp_iff {value : PyValue} : Escaping (timestamp value) ↔ Unconvertible value := by
  unfold timestamp Unconvertible
  rw [escaping_bind_iff, escaping_intOf_iff]
  simp only [escaping_fromTimestamp_iff]

theorem escaping_loads_iff {bytes : List UInt8} :
    Escaping (loads bytes) ↔ TokenLibrary.loads bytes = .error .recursion := by
  unfold loads
  split
  · next h =>
    rw [h]
    constructor
    · intro hesc
      exact absurd hesc (not_escaping_ok _)
    · intro h
      cases h
  · next h =>
    rw [h]
    constructor
    · intro hesc
      exact absurd hesc (not_escaping_of_caught (Fallible.raises_error rfl))
    · intro h
      cases h
  · next h =>
    rw [h]
    constructor
    · intro _
      rfl
    · intro _
      exact escaping_error_iff.mpr ⟨rfl, id⟩

theorem loads_eq_ok_iff {bytes : List UInt8} {value : PyValue} :
    loads bytes = .ok value ↔ TokenLibrary.loads bytes = .ok value := by
  unfold loads
  cases TokenLibrary.loads bytes with
  | ok found =>
    constructor
    · intro h
      cases h
      rfl
    · intro h
      cases h
      rfl
  | error error =>
    cases error <;>
    · constructor
      · intro h
        cases h
      · intro h
        cases h

/-- The document of an encoded part. -/
def Opens (encoded : List Char) (value : PyValue) : Prop :=
  ∃ bytes, b64decode encoded = .ok bytes ∧ TokenLibrary.loads bytes = .ok value

/-- The document of an encoded part is nested too deeply. -/
def TooDeep (encoded : List Char) : Prop :=
  ∃ bytes, b64decode encoded = .ok bytes ∧ TokenLibrary.loads bytes = .error .recursion

namespace HmacIdentityVerifier

variable (verifier : HmacIdentityVerifier)

/-- `iat` cannot be converted, or `exp` cannot once `iat` is. -/
def UnconvertibleTimes (claims : List (String × PyValue)) : Prop :=
  (∃ value, claims.lookup "iat" = some value ∧ Unconvertible value) ∨
  ∃ iat issuedAt value, claims.lookup "iat" = some iat ∧ timestamp iat = .ok issuedAt ∧
    claims.lookup "exp" = some value ∧ Unconvertible value

/-- The clock is in the last half minute of the datetimes when it is asked for. -/
def OutOfTime (now : Time) (claims : List (String × PyValue)) : Prop :=
  ∃ iat issuedAt exp expiresAt, claims.lookup "iat" = some iat ∧ timestamp iat = .ok issuedAt ∧
    claims.lookup "exp" = some exp ∧ timestamp exp = .ok expiresAt ∧
    isSupportedHeader.isText (claims.lookup "aud") verifier.audience = true ∧
    datetimeEnd ≤ now + Time.seconds 30

omit [TokenLibrary] in
/-- Once the times are converted, only the clock is left to fail. -/
theorem escaping_checks_iff {now issuedAt expiresAt : Time} {claims : List (String × PyValue)} :
    Escaping (do
      if !isSupportedHeader.isText (some (← item claims "aud")) verifier.audience then
        .error (.valueError "audience mismatch")
      else if datetimeEnd ≤ now + Time.seconds 30 then .error .overflow
      else if now + Time.seconds 30 < issuedAt then
        .error (.valueError "token issued in the future")
      else if expiresAt ≤ now then .error (.valueError "token expired")
      else if verifier.maximumLifetime < expiresAt - issuedAt then
        .error (.valueError "token lifetime exceeds policy")
      else identityOf claims issuedAt expiresAt) ↔
    isSupportedHeader.isText (claims.lookup "aud") verifier.audience = true ∧
      datetimeEnd ≤ now + Time.seconds 30 := by
  have hitem : ¬ Escaping (item claims "aud") := not_escaping_of_caught (item_raises claims "aud")
  rw [escaping_bind_iff, or_iff_right hitem]
  -- of the checks, only the addition of the clock skew raises what the handler does not catch
  constructor
  · rintro ⟨aud, haud, h⟩
    rw [item_eq_ok_iff] at haud
    rw [haud]
    split at h
    · exact absurd h (not_escaping_of_caught (Fallible.raises_error rfl))
    · next haudience =>
      split at h
      · next hlate => exact ⟨by simpa using haudience, hlate⟩
      · refine absurd h (not_escaping_of_caught ?_)
        split
        · exact Fallible.raises_error rfl
        · split
          · exact Fallible.raises_error rfl
          · split
            · exact Fallible.raises_error rfl
            · exact identityOf_raises claims issuedAt expiresAt
  · rintro ⟨haudience, hlate⟩
    cases haud : claims.lookup "aud" with
    | none =>
      rw [haud] at haudience
      cases haudience
    | some aud =>
      rw [haud] at haudience
      refine ⟨aud, item_eq_ok_iff.mpr haud, ?_⟩
      have hsame : ¬ (!isSupportedHeader.isText (some aud) verifier.audience) = true := by
        rw [haudience]
        decide
      rw [if_neg hsame, if_pos hlate, escaping_error_iff]
      exact ⟨rfl, id⟩

theorem escaping_readPayload_iff {now : Time} {payload : PyValue} :
    Escaping (verifier.readPayload now payload) ↔
      ∃ claims, payload = .dict claims ∧
        (UnconvertibleTimes claims ∨ verifier.OutOfTime now claims) := by
  cases payload with
  | dict claims =>
    have hitem (name : String) : ¬ Escaping (item claims name) :=
      not_escaping_of_caught (item_raises claims name)
    unfold readPayload
    rw [escaping_bind_iff, or_iff_right (hitem "iat")]
    -- `iat` is converted before `exp` is read, so an `exp` counts only after a good `iat`
    constructor
    · rintro ⟨iat, hiat, h⟩
      rw [item_eq_ok_iff] at hiat
      rw [escaping_bind_iff, escaping_timestamp_iff] at h
      obtain h | ⟨issuedAt, hissued, h⟩ := h
      · exact ⟨claims, rfl, .inl (.inl ⟨iat, hiat, h⟩)⟩
      rw [escaping_bind_iff, or_iff_right (hitem "exp")] at h
      obtain ⟨exp, hexp, h⟩ := h
      rw [item_eq_ok_iff] at hexp
      rw [escaping_bind_iff, escaping_timestamp_iff] at h
      obtain h | ⟨expiresAt, hexpires, h⟩ := h
      · exact ⟨claims, rfl, .inl (.inr ⟨iat, issuedAt, exp, hiat, hissued, hexp, h⟩)⟩
      · exact ⟨claims, rfl, .inr ⟨iat, issuedAt, exp, expiresAt, hiat, hissued, hexp, hexpires,
          verifier.escaping_checks_iff.mp h⟩⟩
    · rintro ⟨_, hclaims, h⟩
      cases hclaims
      obtain (⟨iat, hiat, h⟩ | ⟨iat, issuedAt, exp, hiat, hissued, hexp, h⟩) |
        ⟨iat, issuedAt, exp, expiresAt, hiat, hissued, hexp, hexpires, h⟩ := h
      · exact ⟨iat, item_eq_ok_iff.mpr hiat,
          escaping_bind_iff.mpr (.inl (escaping_timestamp_iff.mpr h))⟩
      · refine ⟨iat, item_eq_ok_iff.mpr hiat, escaping_bind_iff.mpr (.inr ⟨issuedAt, hissued, ?_⟩)⟩
        exact escaping_bind_iff.mpr (.inr ⟨exp, item_eq_ok_iff.mpr hexp,
          escaping_bind_iff.mpr (.inl (escaping_timestamp_iff.mpr h))⟩)
      · refine ⟨iat, item_eq_ok_iff.mpr hiat, escaping_bind_iff.mpr (.inr ⟨issuedAt, hissued, ?_⟩)⟩
        refine escaping_bind_iff.mpr (.inr ⟨exp, item_eq_ok_iff.mpr hexp, ?_⟩)
        exact escaping_bind_iff.mpr (.inr ⟨expiresAt, hexpires, verifier.escaping_checks_iff.mpr h⟩)
  | _ =>
    constructor
    · intro h
      exact absurd h (not_escaping_of_caught (Fallible.raises_error rfl))
    · rintro ⟨claims, h, -⟩
      cases h

/-- What a signed header and payload must hold for an error to pass through the handlers. -/
def EscapingClaims (now : Time) (encodedHeader encodedPayload : List Char) : Prop :=
  TooDeep encodedHeader ∨
  ∃ header, Opens encodedHeader header ∧
    (TooDeep encodedPayload ∨
     (isSupportedHeader header = true ∧
      ∃ claims, Opens encodedPayload (.dict claims) ∧
        (UnconvertibleTimes claims ∨ verifier.OutOfTime now claims)))

theorem escaping_readClaims_iff {now : Time} {encodedHeader encodedPayload : List Char} :
    Escaping (verifier.readClaims now encodedHeader encodedPayload) ↔
      verifier.EscapingClaims now encodedHeader encodedPayload := by
  have hlast (header payload : PyValue) :
      Escaping (if isSupportedHeader header then verifier.readPayload now payload
        else .error (.valueError "unsupported token header")) ↔
      isSupportedHeader header = true ∧ ∃ claims, payload = .dict claims ∧
        (UnconvertibleTimes claims ∨ verifier.OutOfTime now claims) := by
    by_cases hheader : isSupportedHeader header = true
    · rw [if_pos hheader, verifier.escaping_readPayload_iff]
      simp only [hheader, true_and]
    · rw [if_neg hheader]
      constructor
      · intro h
        exact absurd h (not_escaping_of_caught (Fallible.raises_error rfl))
      · intro h
        exact absurd h.1 hheader
  unfold readClaims
  simp only [escaping_bind_iff, not_escaping_b64decode, false_or, escaping_loads_iff,
    loads_eq_ok_iff, hlast]
  constructor
  · rintro ⟨bytes, hbytes, h | ⟨header, hheader, bytes', hbytes', h⟩⟩
    · exact .inl ⟨bytes, hbytes, h⟩
    · refine .inr ⟨header, ⟨bytes, hbytes, hheader⟩, ?_⟩
      rcases h with h | ⟨payload, hpayload, hsupported, claims, hclaims, htimes⟩
      · exact .inl ⟨bytes', hbytes', h⟩
      · rw [hclaims] at hpayload
        exact .inr ⟨hsupported, claims, ⟨bytes', hbytes', hpayload⟩, htimes⟩
  · rintro (⟨bytes, hbytes, h⟩ | ⟨header, ⟨bytes, hbytes, hheader⟩, h⟩)
    · exact ⟨bytes, hbytes, .inl h⟩
    · refine ⟨bytes, hbytes, .inr ⟨header, hheader, ?_⟩⟩
      rcases h with ⟨bytes', hbytes', h⟩ | ⟨hsupported, claims, ⟨bytes', hbytes', h⟩, htimes⟩
      · exact ⟨bytes', hbytes', .inl h⟩
      · exact ⟨bytes', hbytes', .inr ⟨_, h, hsupported, claims, rfl, htimes⟩⟩

/-- The claims of an identity that is valid now. -/
structure ValidClaims (now : Time) (claims : List (String × PyValue))
    (identity : AuthenticatedIdentity) : Prop where
  issuedAt : ∃ value, claims.lookup "iat" = some value ∧ timestamp value = .ok identity.issuedAt
  expiresAt : ∃ value, claims.lookup "exp" = some value ∧ timestamp value = .ok identity.expiresAt
  audience : isSupportedHeader.isText (claims.lookup "aud") verifier.audience = true
  inTime : now + Time.seconds 30 < datetimeEnd
  issued : identity.issuedAt ≤ now + Time.seconds 30
  notExpired : now < identity.expiresAt
  lifetime : identity.expiresAt - identity.issuedAt ≤ verifier.maximumLifetime
  fields : identityOf claims identity.issuedAt identity.expiresAt = .ok identity

/-- A supported header and valid claims. -/
structure ValidParts (now : Time) (encodedHeader encodedPayload : List Char)
    (identity : AuthenticatedIdentity) : Prop where
  header : ∃ header, Opens encodedHeader header ∧ isSupportedHeader header = true
  claims : ∃ claims, Opens encodedPayload (.dict claims) ∧ verifier.ValidClaims now claims identity

omit [TokenLibrary] in
/-- The checks after the conversions, one after the other. -/
theorem checks_eq_ok_iff {now issuedAt expiresAt : Time} {audience : Bool}
    {rest : Except PyException AuthenticatedIdentity} {identity : AuthenticatedIdentity} :
    (if !audience then .error (.valueError "audience mismatch")
      else if datetimeEnd ≤ now + Time.seconds 30 then .error .overflow
      else if now + Time.seconds 30 < issuedAt then
        .error (.valueError "token issued in the future")
      else if expiresAt ≤ now then .error (.valueError "token expired")
      else if verifier.maximumLifetime < expiresAt - issuedAt then
        .error (.valueError "token lifetime exceeds policy")
      else rest) = .ok identity ↔
      audience = true ∧ now + Time.seconds 30 < datetimeEnd ∧ issuedAt ≤ now + Time.seconds 30 ∧
        now < expiresAt ∧ expiresAt - issuedAt ≤ verifier.maximumLifetime ∧ rest = .ok identity := by
  constructor
  · intro h
    split at h
    · cases h
    · next haudience =>
      split at h
      · cases h
      · next hlate =>
        split at h
        · cases h
        · next hissued =>
          split at h
          · cases h
          · next hexpired =>
            split at h
            · cases h
            · next hlifetime =>
              exact ⟨by simpa using haudience, not_le.mp hlate, not_lt.mp hissued,
                not_le.mp hexpired, not_lt.mp hlifetime, h⟩
  · intro ⟨haudience, hlate, hissued, hexpired, hlifetime, h⟩
    have haudience : ¬ (!audience) = true := by
      rw [haudience]
      decide
    rw [if_neg haudience, if_neg (not_le.mpr hlate), if_neg (not_lt.mpr hissued),
      if_neg (not_le.mpr hexpired), if_neg (not_lt.mpr hlifetime), h]

theorem readPayload_eq_ok_iff {now : Time} {payload : PyValue} {identity : AuthenticatedIdentity} :
    verifier.readPayload now payload = .ok identity ↔
      ∃ claims, payload = .dict claims ∧ verifier.ValidClaims now claims identity := by
  cases payload with
  | dict claims =>
    simp only [readPayload, Fallible.bind_eq_ok_iff, item_eq_ok_iff, checks_eq_ok_iff]
    constructor
    · rintro ⟨iat, hiat, issuedAt, hissued, exp, hexp, expiresAt, hexpires, aud, haud, haudience,
        hlate, hissuance, hexpiry, hlifetime, hfields⟩
      obtain ⟨rfl, rfl⟩ := identityOf_times hfields
      rw [← haud] at haudience
      exact ⟨claims, rfl, ⟨iat, hiat, hissued⟩, ⟨exp, hexp, hexpires⟩, haudience, hlate, hissuance,
        hexpiry, hlifetime, hfields⟩
    · rintro ⟨_, hclaims, valid⟩
      cases hclaims
      obtain ⟨iat, hiat, hissued⟩ := valid.issuedAt
      obtain ⟨exp, hexp, hexpires⟩ := valid.expiresAt
      have haudience := valid.audience
      cases haud : claims.lookup "aud" with
      | none =>
        rw [haud] at haudience
        cases haudience
      | some aud =>
        rw [haud] at haudience
        exact ⟨iat, hiat, _, hissued, exp, hexp, _, hexpires, aud, rfl, haudience, valid.inTime,
          valid.issued, valid.notExpired, valid.lifetime, valid.fields⟩
  | _ =>
    constructor
    · intro h
      cases h
    · rintro ⟨claims, h, -⟩
      cases h

theorem readClaims_eq_ok_iff {now : Time} {encodedHeader encodedPayload : List Char}
    {identity : AuthenticatedIdentity} :
    verifier.readClaims now encodedHeader encodedPayload = .ok identity ↔
      verifier.ValidParts now encodedHeader encodedPayload identity := by
  simp only [readClaims, Fallible.bind_eq_ok_iff, loads_eq_ok_iff]
  constructor
  · rintro ⟨bytes, hbytes, header, hheader, bytes', hbytes', payload, hpayload, h⟩
    split at h
    · next hsupported =>
      obtain ⟨claims, rfl, valid⟩ := verifier.readPayload_eq_ok_iff.mp h
      exact ⟨⟨header, ⟨bytes, hbytes, hheader⟩, hsupported⟩, claims, ⟨bytes', hbytes', hpayload⟩, valid⟩
    · cases h
  · rintro ⟨⟨header, ⟨bytes, hbytes, hheader⟩, hsupported⟩, claims, ⟨bytes', hbytes', hpayload⟩, valid⟩
    refine ⟨bytes, hbytes, header, hheader, bytes', hbytes', _, hpayload, ?_⟩
    rw [if_pos hsupported]
    exact verifier.readPayload_eq_ok_iff.mpr ⟨claims, rfl, valid⟩

end HmacIdentityVerifier

end ChangeOps.Authentication
