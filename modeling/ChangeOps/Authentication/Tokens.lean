import ChangeOps.Authentication.Base64
import ChangeOps.Authentication.JsonText

/-!
# ChangeOps.Authentication — issued tokens

`HmacIdentityVerifier.issue` and back. A token carries its times as whole seconds,
`int(instant.timestamp())`: the float nearest to the timestamp, truncated towards zero. The two times
need not lose the same fraction, so the truncated lifetime can be a second shorter than the one asked
for (around 1970) or longer (far from it, where floats are coarser than a microsecond). `verify`
accepts the token until it expires exactly if the truncated lifetime is still admissible
(`issue_verify_iff`).
-/

namespace ChangeOps.Authentication

/-! ## Times -/

/-- `datetime.fromtimestamp(0, tz=UTC)`. -/
def epoch : Time := Time.seconds 62135596800

/-- The double nearest to a number of microseconds, in seconds, without its fraction. Below `2 ^ 53`
seconds, the nearest double is the next second if that is not further away than half of the distance
between two doubles, `2 ^ (e - 53)` seconds for the exponent `e`. -/
def wholeSeconds (microseconds : Nat) : Nat :=
  (microseconds + 1000000 * 2 ^ Nat.log2 (microseconds / 1000000) / 2 ^ 53) / 1000000

/-- `int(instant.timestamp())`. -/
def intTimestamp (instant : Time) : Int :=
  if epoch ≤ instant then wholeSeconds (instant - epoch) else -wholeSeconds (epoch - instant)

/-- The instant of a timestamp. -/
def instantOf (n : Int) : Time := Time.seconds (n + 62135596800).toNat

/-! ## Issuing -/

/-- The `header` of `issue`. -/
def tokenHeader : Json := .obj [("alg", .str "HS256"), ("typ", .str "JWT")]

/-- The `payload` of `issue`. -/
def tokenPayload (audience subject tenantId : String) (kind : IdentityKind) (roles : List String)
    (iat exp : Int) : Json :=
  .obj [("aud", .str audience), ("exp", .int exp), ("iat", .int iat), ("kind", .str (kindText kind)),
    ("roles", .arr (roles.map .str)), ("sub", .str subject), ("tenant_id", .str tenantId)]

namespace HmacIdentityVerifier

variable [TokenLibrary] (verifier : HmacIdentityVerifier)

def issue (now : Time) (subject tenantId : String) (kind : IdentityKind) (roles : List String)
    (lifetime : Time) : Except PyException String := do
  -- `now + lifetime` is a datetime
  if datetimeEnd ≤ now + lifetime then .error .overflow
  let payload := tokenPayload verifier.audience subject tenantId kind roles (intTimestamp now)
    (intTimestamp (now + lifetime))
  let encodedHeader := b64encode (encodeUtf8 (dumps tokenHeader))
  let encodedPayload := b64encode (encodeUtf8 (dumps payload))
  let signingInput := encodedHeader ++ '.' :: encodedPayload
  let signature := TokenLibrary.hmacSha256 verifier.secret (← encodeAscii signingInput)
  return String.ofList (signingInput ++ '.' :: b64encode signature)

end HmacIdentityVerifier

/-! ## Truncation -/

theorem slack_lt {microseconds : Nat} (h : microseconds / 1000000 < 2 ^ 53) :
    1000000 * 2 ^ Nat.log2 (microseconds / 1000000) / 2 ^ 53 < 1000000 := by
  have hlog : Nat.log2 (microseconds / 1000000) < 53 := by
    by_cases hzero : microseconds / 1000000 = 0
    · rw [hzero]
      decide
    · exact (Nat.log2_lt hzero).mpr h
  apply Nat.div_lt_of_lt_mul
  rw [Nat.mul_comm (2 ^ 53)]
  exact Nat.mul_lt_mul_of_pos_left (Nat.pow_lt_pow_right (by decide) hlog) (by decide)

/-- Less than a second is rounded up. -/
theorem wholeSeconds_bounds {microseconds : Nat} (h : microseconds / 1000000 < 2 ^ 53) :
    microseconds < (wholeSeconds microseconds + 1) * 1000000 ∧
      wholeSeconds microseconds * 1000000 < microseconds + 1000000 := by
  have hslack := slack_lt h
  unfold wholeSeconds
  generalize 1000000 * 2 ^ Nat.log2 (microseconds / 1000000) / 2 ^ 53 = slack at hslack
  omega

/-- Nothing is rounded up while doubles are fine enough. -/
theorem wholeSeconds_eq {microseconds : Nat} (h : microseconds / 1000000 < 17179869184) :
    wholeSeconds microseconds = microseconds / 1000000 := by
  have hpower : 17179869184 = 2 ^ 34 := by decide
  rw [hpower] at h
  have hlog : Nat.log2 (microseconds / 1000000) < 34 := by
    by_cases hzero : microseconds / 1000000 = 0
    · rw [hzero]
      decide
    · exact (Nat.log2_lt hzero).mpr h
  have hpow : 2 ^ Nat.log2 (microseconds / 1000000) ≤ 2 ^ 33 :=
    Nat.pow_le_pow_right (by decide) (by omega)
  have hslack : 1000000 * 2 ^ Nat.log2 (microseconds / 1000000) / 2 ^ 53 = 0 := by
    rw [Nat.div_eq_zero_iff]
    omega
  rw [wholeSeconds, hslack, Nat.add_zero]

/-- A truncated instant is less than a second away, and a timestamp of the supported years or the
first one after them. -/
theorem intTimestamp_near {now : Nat} (h : now < datetimeEnd) :
    -62135596800 ≤ intTimestamp now ∧ intTimestamp now ≤ 253402300800 ∧
      now < instantOf (intTimestamp now) + Time.seconds 1 ∧
      instantOf (intTimestamp now) < now + Time.seconds 1 := by
  have hnow : now < 315537897600000000 := h
  show _ ∧ _ ∧ now < (intTimestamp now + 62135596800).toNat * 1000000 + 1000000 ∧
    (intTimestamp now + 62135596800).toNat * 1000000 < now + 1000000
  unfold intTimestamp
  split_ifs with hepoch
  · have hepoch : 62135596800000000 ≤ now := hepoch
    have hrange : (now - epoch) / 1000000 < 2 ^ 53 := by
      show (now - 62135596800000000) / 1000000 < 2 ^ 53
      omega
    obtain ⟨hfar, hnear⟩ := wholeSeconds_bounds hrange
    generalize wholeSeconds (now - epoch) = n at hfar hnear
    have hfar : now - 62135596800000000 < (n + 1) * 1000000 := hfar
    have hnear : n * 1000000 < now - 62135596800000000 + 1000000 := hnear
    omega
  · have hepoch : ¬ 62135596800000000 ≤ now := hepoch
    have hrange : (epoch - now) / 1000000 < 2 ^ 53 := by
      show (62135596800000000 - now) / 1000000 < 2 ^ 53
      omega
    obtain ⟨hfar, hnear⟩ := wholeSeconds_bounds hrange
    generalize wholeSeconds (epoch - now) = n at hfar hnear
    have hfar : 62135596800000000 - now < (n + 1) * 1000000 := hfar
    have hnear : n * 1000000 < 62135596800000000 - now + 1000000 := hnear
    omega

/-! ## What is accepted -/

namespace HmacIdentityVerifier

variable [TokenLibrary] (verifier : HmacIdentityVerifier)

theorem verify_eq_ok_iff {now : Time} {token : String} {identity : AuthenticatedIdentity} :
    verifier.verify now token = .ok identity ↔ verifier.Genuine now token identity := by
  unfold verify
  split
  · next encodedHeader encodedPayload encodedSignature hparts =>
    rw [verifier.genuine_iff hparts]
    simp only [Fallible.bind_eq_ok_iff]
    constructor
    · rintro ⟨signingInput, hinput, supplied, hsupplied, h⟩
      split at h
      · cases h
      · next hequal =>
        rw [not_not] at hequal
        refine ⟨⟨signingInput, hinput, by rw [hsupplied, hequal]⟩, ?_⟩
        cases hclaims : verifier.readClaims now encodedHeader encodedPayload with
        | error error =>
          rw [hclaims, exceptClause] at h
          split at h <;> cases h
        | ok found =>
          rw [hclaims, exceptClause] at h
          cases h
          exact verifier.readClaims_eq_ok_iff.mp hclaims
    · rintro ⟨⟨signingInput, hinput, hsupplied⟩, hvalid⟩
      refine ⟨signingInput, hinput, _, hsupplied, ?_⟩
      rw [if_neg (not_not.mpr rfl), verifier.readClaims_eq_ok_iff.mpr hvalid]
      rfl
  · next hparts =>
    constructor
    · intro h
      cases h
    · rintro ⟨h, p, s, hsplit, -⟩
      exact absurd hsplit (hparts h p s)

end HmacIdentityVerifier

/-! ### The parts of an issued token -/

theorem length_toString_le {n : Int} (hlow : -10 ^ 13 < n) (hhigh : n < 10 ^ 13) :
    (toString n).length ≤ 4300 := by
  have hrepr : ∀ m : Nat, m < 10 ^ 13 → (Nat.repr m).length ≤ 13 := fun m hm =>
    (Nat.length_repr_le_iff (by decide)).mpr hm
  cases n with
  | ofNat m =>
    have hm := hrepr m (Int.ofNat_lt.mp hhigh)
    show (Nat.repr m).length ≤ 4300
    omega
  | negSucc m =>
    have hm := hrepr (m + 1) (by omega)
    show ("-" ++ Nat.repr (m + 1)).length ≤ 4300
    rw [String.length_append]
    have hsign : "-".length = 1 := by decide
    omega

theorem fits_tokenHeader : Fits 16 tokenHeader := by
  refine .obj ?_ (by decide) (by decide)
  intro field hfield
  simp only [List.mem_cons, List.not_mem_nil, or_false] at hfield
  rcases hfield with rfl | rfl
  · exact .str _
  · exact .str _

theorem fits_tokenPayload (audience subject tenantId : String) (kind : IdentityKind)
    (roles : List String) {iat exp : Int} (hiat : (toString iat).length ≤ 4300)
    (hexp : (toString exp).length ≤ 4300) :
    Fits 16 (tokenPayload audience subject tenantId kind roles iat exp) := by
  have hsorted : ["aud", "exp", "iat", "kind", "roles", "sub", "tenant_id"].Pairwise (· ≤ ·) := by
    decide
  have hkeys : ["aud", "exp", "iat", "kind", "roles", "sub", "tenant_id"].Nodup := by decide
  refine .obj ?_ hsorted hkeys
  intro field hfield
  simp only [List.mem_cons, List.not_mem_nil, or_false] at hfield
  rcases hfield with rfl | rfl | rfl | rfl | rfl | rfl | rfl
  · exact .str _
  · exact .int hexp
  · exact .int hiat
  · exact .str _
  · refine .arr fun item hitem => ?_
    obtain ⟨role, -, rfl⟩ := List.mem_map.mp hitem
    exact .str _
  · exact .str _
  · exact .str _

/-- The claims of an issued token. -/
def tokenClaims (audience subject tenantId : String) (kind : IdentityKind) (roles : List String)
    (iat exp : Int) : List (String × PyValue) :=
  [("aud", .str audience), ("exp", .int exp), ("iat", .int iat), ("kind", .str (kindText kind)),
    ("roles", .list (roles.map .str)), ("sub", .str subject), ("tenant_id", .str tenantId)]

theorem valueOf_tokenPayload (audience subject tenantId : String) (kind : IdentityKind)
    (roles : List String) (iat exp : Int) :
    valueOf (tokenPayload audience subject tenantId kind roles iat exp) =
      .dict (tokenClaims audience subject tenantId kind roles iat exp) := by
  have hroles : valuesOf (roles.map .str) = roles.map .str := by
    rw [valuesOf_eq_map, List.map_map]
    rfl
  simp only [tokenPayload, valueOf, fieldsOf, hroles, tokenClaims]

section

variable [TokenLibrary]

/-- A document in base64 opens to its value. -/
theorem LoadsDocuments.opens_iff (hloads : LoadsDocuments) {document : Json}
    (hfits : Fits 16 document) {value : PyValue} :
    Opens (b64encode (encodeUtf8 (dumps document))) value ↔ value = valueOf document := by
  unfold Opens
  simp only [b64decode_b64encode, Except.ok.injEq, exists_eq_left', hloads.loads_dumps hfits]
  exact eq_comm

end

theorem splitOn_parts {a b c : List Char} (ha : '.' ∉ a) (hb : '.' ∉ b) (hc : '.' ∉ c) :
    (a ++ '.' :: b ++ '.' :: c).splitOn '.' = [a, b, c] := by
  rw [List.splitOn_append_cons_self, List.splitOn_append_cons_self, List.splitOn_eq_singleton ha,
    List.splitOn_eq_singleton hb, List.splitOn_eq_singleton hc]
  rfl

theorem dot_notMem_b64encode (value : List UInt8) : '.' ∉ b64encode value := by
  intro hmem
  exact ne_of_isBase64 (isBase64_of_mem_b64encode hmem) (d := '.') (by decide) rfl

theorem isAscii_b64encode (value : List UInt8) : isAscii (b64encode value) = true := by
  refine List.all_eq_true.mpr fun c hc => decide_eq_true ?_
  exact toNat_lt_of_isBase64 (isBase64_of_mem_b64encode hc)

/-! ### Claims -/

theorem fromTimestamp_eq_ok_iff {n : Int} {instant : Time} :
    fromTimestamp n = .ok instant ↔
      (-62135596800 ≤ n ∧ n ≤ 253402300799) ∧ instant = instantOf n := by
  unfold fromTimestamp
  split
  · exact iff_of_false (fun h => by cases h) fun h => by omega
  · split
    · next hgmtime =>
      refine iff_of_false (fun h => by cases h) fun h => ?_
      unfold gmtimeRange at hgmtime
      omega
    · split
      · exact iff_of_false (fun h => by cases h) fun h => by omega
      · rw [Except.ok.injEq]
        constructor
        · rintro rfl
          exact ⟨by omega, rfl⟩
        · rintro ⟨-, rfl⟩
          rfl

theorem timestamp_int_eq_ok_iff [TokenLibrary] {n : Int} {instant : Time} :
    timestamp (.int n) = .ok instant ↔
      (-62135596800 ≤ n ∧ n ≤ 253402300799) ∧ instant = instantOf n :=
  fromTimestamp_eq_ok_iff

/-- Not empty, not long, and without surrounding whitespace. -/
structure IsName (text : String) : Prop where
  stripped : stripWhitespace text = text
  nonempty : 1 ≤ text.length
  short : text.length ≤ 512

theorem IsName.textOf_str {text : String} (h : IsName text) : textOf (.str text) = .ok text := by
  have hname : nonEmptyStr text = .ok text := by
    unfold nonEmptyStr
    dsimp only
    rw [h.stripped, if_neg (Nat.not_lt.mpr h.nonempty), if_neg (Nat.not_lt.mpr h.short)]
  rw [textOf, hname]
  rfl

theorem ok_bind {ε α β : Type} (a : α) (f : α → Except ε β) : ((.ok a : Except ε α) >>= f) = f a := rfl

theorem kindOf_kindText (kind : IdentityKind) : kindOf (.str (kindText kind)) = .ok kind := by
  cases kind <;> rfl

theorem roleOf_value (role : UserRole) : roleOf (.str role.value) = .ok role := by
  cases role <;> rfl

theorem mapM_roleOf (roles : List UserRole) :
    ((roles.map UserRole.value).map PyValue.str).mapM roleOf = .ok roles := by
  induction roles with
  | nil => rfl
  | cons role roles ih =>
    rw [List.map_cons, List.map_cons, List.mapM_cons, roleOf_value, ih]
    rfl

section

variable {audience subject tenantId : String} {kind : IdentityKind} {roles : List UserRole}
  {iat exp : Int}

theorem identityOf_tokenClaims (haudience : IsName audience) (hsubject : IsName subject)
    (htenant : IsName tenantId) (hroles : roles.Nodup) (hkind : kind = .USER ∨ roles = [])
    {issuedAt expiresAt : Time} {identity : AuthenticatedIdentity} :
    identityOf (tokenClaims audience subject tenantId kind (roles.map UserRole.value) iat exp)
        issuedAt expiresAt = .ok identity ↔
      issuedAt < expiresAt ∧ identity.issuedAt = issuedAt ∧ identity.expiresAt = expiresAt ∧
        identity.subject = subject ∧ identity.tenantId = tenantId ∧ identity.kind = kind ∧
        identity.roles = roles ∧ identity.audience = audience := by
  have hitem : ∀ name value, (tokenClaims audience subject tenantId kind
      (roles.map UserRole.value) iat exp).lookup name = some value →
      item (tokenClaims audience subject tenantId kind (roles.map UserRole.value) iat exp) name =
        .ok value := fun name value h => item_eq_ok_iff.mpr h
  have hlookup : (tokenClaims audience subject tenantId kind
      (roles.map UserRole.value) iat exp).lookup "roles" =
        some (.list ((roles.map UserRole.value).map .str)) := by
    simp [tokenClaims, List.lookup_cons]
  have hidentity : identityOf (tokenClaims audience subject tenantId kind
      (roles.map UserRole.value) iat exp) issuedAt expiresAt =
      if hexpires : issuedAt < expiresAt then
        .ok { subject, tenantId, kind, roles, issuedAt, expiresAt, audience,
              issued_lt_expires := hexpires, nodup_roles := hroles, roles_of_user := hkind }
      else .error (.valueError "identity expiration must be after issuance") := by
    unfold identityOf
    rw [hitem "sub" (.str subject) (by simp [tokenClaims, List.lookup_cons]),
      hitem "tenant_id" (.str tenantId) (by simp [tokenClaims, List.lookup_cons]),
      hitem "kind" (.str (kindText kind)) (by simp [tokenClaims, List.lookup_cons]),
      hitem "aud" (.str audience) (by simp [tokenClaims]), hlookup]
    simp only [ok_bind, Option.getD_some, tupleOf, hsubject.textOf_str, htenant.textOf_str,
      haudience.textOf_str, kindOf_kindText, mapM_roleOf]
    by_cases hexpires : issuedAt < expiresAt
    · rw [dif_pos hexpires, dif_pos hexpires, dif_pos hroles, dif_pos hkind]
      rfl
    · rw [dif_neg hexpires, dif_neg hexpires]
  rw [hidentity]
  constructor
  · intro h
    split_ifs at h with hexpires
    cases h
    exact ⟨hexpires, rfl, rfl, rfl, rfl, rfl, rfl, rfl⟩
  · rintro ⟨hexpires, hissued, hexpired, hsubject, htenant, hkind, hroles, haudience⟩
    rw [dif_pos hexpires, Except.ok.injEq]
    obtain ⟨⟨⟩, _⟩ := identity
    subst hissued hexpired hsubject htenant hkind hroles haudience
    rfl

end

/-! ### Instants of timestamps -/

section

variable {i e : Int} (hi : -62135596800 ≤ i) (he : -62135596800 ≤ e)
include hi he

theorem instantOf_lt_iff : instantOf i < instantOf e ↔ i < e := by
  show (i + 62135596800).toNat * 1000000 < (e + 62135596800).toNat * 1000000 ↔ _
  omega

theorem instantOf_sub : instantOf e - instantOf i = Time.seconds (e - i).toNat := by
  show (e + 62135596800).toNat * 1000000 - (i + 62135596800).toNat * 1000000 =
    (e - i).toNat * 1000000
  omega

omit hi in
/-- Thirty seconds fit between the expiry and the end of the supported years. -/
theorem instantOf_add_le_iff : instantOf e + Time.seconds 30 ≤ datetimeEnd ↔ e ≤ 253402300770 := by
  show (e + 62135596800).toNat * 1000000 + 30000000 ≤ 315537897600000000 ↔ _
  omega

end

/-! ## The round trip -/

/-- The identity is the one that a token was issued for. -/
structure AuthenticatedIdentity.IsFor (identity : AuthenticatedIdentity) (subject tenantId : String)
    (kind : IdentityKind) (roles : List UserRole) (audience : String) : Prop where
  subject_eq : identity.subject = subject
  tenantId_eq : identity.tenantId = tenantId
  kind_eq : identity.kind = kind
  roles_eq : identity.roles = roles
  audience_eq : identity.audience = audience

namespace HmacIdentityVerifier

variable [TokenLibrary] (verifier : HmacIdentityVerifier)

theorem validClaims_tokenClaims_iff {subject tenantId : String} {kind : IdentityKind}
    {roles : List UserRole} {iat exp : Int} (haudience : IsName verifier.audience)
    (hsubject : IsName subject) (htenant : IsName tenantId) (hroles : roles.Nodup)
    (hkind : kind = .USER ∨ roles = []) {later : Time} {identity : AuthenticatedIdentity} :
    verifier.ValidClaims later (tokenClaims verifier.audience subject tenantId kind
        (roles.map UserRole.value) iat exp) identity ↔
      later + Time.seconds 30 < datetimeEnd ∧
      ((-62135596800 ≤ iat ∧ iat ≤ 253402300799) ∧ identity.issuedAt = instantOf iat) ∧
      ((-62135596800 ≤ exp ∧ exp ≤ 253402300799) ∧ identity.expiresAt = instantOf exp) ∧
      instantOf iat ≤ later + Time.seconds 30 ∧ later < instantOf exp ∧
      instantOf exp - instantOf iat ≤ verifier.maximumLifetime ∧ instantOf iat < instantOf exp ∧
      identity.IsFor subject tenantId kind roles verifier.audience := by
  have hiat : (tokenClaims verifier.audience subject tenantId kind
      (roles.map UserRole.value) iat exp).lookup "iat" = some (.int iat) := by
    simp [tokenClaims, List.lookup_cons]
  have hexp : (tokenClaims verifier.audience subject tenantId kind
      (roles.map UserRole.value) iat exp).lookup "exp" = some (.int exp) := by
    simp [tokenClaims, List.lookup_cons]
  have haud : (tokenClaims verifier.audience subject tenantId kind
      (roles.map UserRole.value) iat exp).lookup "aud" = some (.str verifier.audience) := by
    simp [tokenClaims]
  constructor
  · intro valid
    obtain ⟨value, hvalue, hissued⟩ := valid.issuedAt
    rw [hiat, Option.some.injEq] at hvalue
    rw [← hvalue, timestamp_int_eq_ok_iff] at hissued
    obtain ⟨value, hvalue, hexpires⟩ := valid.expiresAt
    rw [hexp, Option.some.injEq] at hvalue
    rw [← hvalue, timestamp_int_eq_ok_iff] at hexpires
    obtain ⟨hlt, -, -, hfields⟩ :=
      (identityOf_tokenClaims haudience hsubject htenant hroles hkind).mp valid.fields
    have hissuance := valid.issued
    have hexpiry := valid.notExpired
    have hlifetime := valid.lifetime
    rw [hissued.2] at hissuance hlifetime hlt
    rw [hexpires.2] at hexpiry hlifetime hlt
    exact ⟨valid.inTime, hissued, hexpires, hissuance, hexpiry, hlifetime, hlt,
      ⟨hfields.1, hfields.2.1, hfields.2.2.1, hfields.2.2.2.1, hfields.2.2.2.2⟩⟩
  · rintro ⟨hthirty, hissued, hexpires, hissuance, hexpiry, hlifetime, hlt, hfor⟩
    refine ⟨⟨_, hiat, timestamp_int_eq_ok_iff.mpr hissued⟩,
      ⟨_, hexp, timestamp_int_eq_ok_iff.mpr hexpires⟩, ?_, hthirty, ?_, ?_, ?_, ?_⟩
    · rw [haud]
      exact beq_self_eq_true _
    · rw [hissued.2]
      exact hissuance
    · rw [hexpires.2]
      exact hexpiry
    · rw [hissued.2, hexpires.2]
      exact hlifetime
    · rw [identityOf_tokenClaims haudience hsubject htenant hroles hkind, hissued.2, hexpires.2]
      exact ⟨hlt, rfl, rfl, hfor.subject_eq, hfor.tenantId_eq, hfor.kind_eq, hfor.roles_eq,
        hfor.audience_eq⟩

/-- The text of a token. -/
theorem issue_eq_ok {now lifetime : Time} {subject tenantId : String} {kind : IdentityKind}
    {roles : List String} {token : String}
    (hissue : verifier.issue now subject tenantId kind roles lifetime = .ok token) :
    now + lifetime < datetimeEnd ∧ ∃ encodedHeader encodedPayload bytes,
      encodedHeader = b64encode (encodeUtf8 (dumps tokenHeader)) ∧
      encodedPayload = b64encode (encodeUtf8 (dumps (tokenPayload verifier.audience subject tenantId
        kind roles (intTimestamp now) (intTimestamp (now + lifetime))))) ∧
      encodeAscii (encodedHeader ++ '.' :: encodedPayload) = .ok bytes ∧
      token.toList = encodedHeader ++ '.' :: encodedPayload ++
        '.' :: b64encode (TokenLibrary.hmacSha256 verifier.secret bytes) := by
  unfold issue at hissue
  by_cases hrange : datetimeEnd ≤ now + lifetime
  · rw [if_pos hrange] at hissue
    cases hissue
  · rw [if_neg hrange] at hissue
    obtain ⟨-, -, hissue⟩ := Fallible.bind_eq_ok_iff.mp hissue
    obtain ⟨bytes, hbytes, hissue⟩ := Fallible.bind_eq_ok_iff.mp hissue
    have htoken := Except.ok.inj hissue
    refine ⟨not_le.mp hrange, _, _, bytes, rfl, rfl, hbytes, ?_⟩
    rw [← htoken, String.toList_ofList]

/-- Tokens are issued as long as they expire in the supported years. -/
theorem exists_issue_iff {now lifetime : Time} {subject tenantId : String} {kind : IdentityKind}
    {roles : List String} :
    (∃ token, verifier.issue now subject tenantId kind roles lifetime = .ok token) ↔
      now + lifetime < datetimeEnd := by
  constructor
  · rintro ⟨token, hissue⟩
    exact (verifier.issue_eq_ok hissue).1
  · intro hend
    unfold issue
    rw [if_neg (not_le.mpr hend)]
    have hascii : ∀ header payload : List UInt8,
        isAscii (b64encode header ++ '.' :: b64encode payload) = true := by
      intro header payload
      have hdot : isAscii ['.'] = true := by decide
      show isAscii (b64encode header ++ (['.'] ++ b64encode payload)) = true
      rw [isAscii_append, isAscii_append, isAscii_b64encode, isAscii_b64encode, hdot]
      rfl
    dsimp only
    rw [encodeAscii_eq_encodeUtf8 (hascii _ _)]
    exact ⟨_, rfl⟩

/-- What makes a token that was issued genuine. -/
theorem genuine_issued_iff (hloads : LoadsDocuments) {now lifetime : Time} {subject tenantId : String}
    {kind : IdentityKind} {roles : List String} {token : String}
    (hissue : verifier.issue now subject tenantId kind roles lifetime = .ok token) (later : Time)
    (identity : AuthenticatedIdentity) : verifier.Genuine later token identity ↔
      verifier.ValidClaims later (tokenClaims verifier.audience subject tenantId kind roles
        (intTimestamp now) (intTimestamp (now + lifetime))) identity := by
  obtain ⟨hend, encodedHeader, encodedPayload, bytes, hheader, hpayload, hbytes, htoken⟩ :=
    verifier.issue_eq_ok hissue
  have hstart : now < datetimeEnd := lt_of_le_of_lt (Nat.le_add_right now lifetime) hend
  obtain ⟨hiatlow, hiathigh, -⟩ := intTimestamp_near hstart
  obtain ⟨hexplow, hexphigh, -⟩ := intTimestamp_near hend
  have hiat : (toString (intTimestamp now)).length ≤ 4300 :=
    length_toString_le (by omega) (by omega)
  have hexp : (toString (intTimestamp (now + lifetime))).length ≤ 4300 :=
    length_toString_le (by omega) (by omega)
  have hfits := fits_tokenPayload verifier.audience subject tenantId kind roles hiat hexp
  have hparts : token.toList.splitOn '.' = [encodedHeader, encodedPayload,
      b64encode (TokenLibrary.hmacSha256 verifier.secret bytes)] := by
    rw [htoken]
    apply splitOn_parts
    · rw [hheader]
      exact dot_notMem_b64encode _
    · rw [hpayload]
      exact dot_notMem_b64encode _
    · exact dot_notMem_b64encode _
  rw [verifier.genuine_iff hparts]
  constructor
  · rintro ⟨-, -, claims, hopens, hvalid⟩
    rw [hpayload, hloads.opens_iff hfits, valueOf_tokenPayload, PyValue.dict.injEq] at hopens
    rw [← hopens]
    exact hvalid
  · intro hvalid
    refine ⟨⟨bytes, hbytes, b64decode_b64encode _⟩, ⟨valueOf tokenHeader, ?_, rfl⟩, _, ?_, hvalid⟩
    · rw [hheader]
      exact (hloads.opens_iff fits_tokenHeader).mpr rfl
    · rw [hpayload, ← valueOf_tokenPayload]
      exact (hloads.opens_iff hfits).mpr rfl

/-! ### Times -/

/-- The token of a lifetime is accepted, with what it was issued for, until its expiry and no longer. -/
structure RoundTrips (now lifetime : Time) (subject tenantId : String) (kind : IdentityKind)
    (roles : List UserRole) (token : String) : Prop where
  accepted : ∀ later, now ≤ later → later < instantOf (intTimestamp (now + lifetime)) →
    ∃ identity, verifier.verify later token = .ok identity ∧
      identity.IsFor subject tenantId kind roles verifier.audience
  rejected : ∀ later identity, instantOf (intTimestamp (now + lifetime)) ≤ later →
    verifier.verify later token ≠ .ok identity

/-- The truncated lifetime is positive and admissible, and ends thirty seconds before the supported
years do. -/
structure KeepsLifetime (now lifetime : Time) : Prop where
  positive : intTimestamp now < intTimestamp (now + lifetime)
  admissible : Time.seconds (intTimestamp (now + lifetime) - intTimestamp now).toNat ≤
    verifier.maximumLifetime
  supported : intTimestamp (now + lifetime) ≤ 253402300770

omit [TokenLibrary] in
theorem KeepsLifetime.of_eq_add {now n m : Nat} (hn : 1 ≤ n)
    (hmaximum : Time.seconds n ≤ verifier.maximumLifetime) (hnow : intTimestamp now = (m : Nat))
    (hexpiry : intTimestamp (now + Time.seconds n) = (m + n : Nat)) (hfar : m + n < 17179869184) :
    verifier.KeepsLifetime now (Time.seconds n) := by
  have hdifference : (intTimestamp (now + Time.seconds n) - intTimestamp now).toNat = n := by
    rw [hnow, hexpiry]
    omega
  constructor
  · rw [hnow, hexpiry]
    omega
  · rw [hdifference]
    exact hmaximum
  · rw [hexpiry]
    omega

omit [TokenLibrary] in
/-- From 1970 to 2514 no second is gained or lost. -/
theorem keepsLifetime_of_between {now n : Nat} (hstart : epoch ≤ now)
    (hend : now + Time.seconds n < epoch + Time.seconds 17179869184) (hn : 1 ≤ n)
    (hmaximum : Time.seconds n ≤ verifier.maximumLifetime) :
    verifier.KeepsLifetime now (Time.seconds n) := by
  have hend' : now + n * 1000000 < 62135596800000000 + 17179869184000000 := hend
  have hstart' : 62135596800000000 ≤ now := hstart
  have hnear : (now - epoch) / 1000000 < 17179869184 := by
    show (now - 62135596800000000) / 1000000 < 17179869184
    omega
  have hfar : (now + Time.seconds n - epoch) / 1000000 < 17179869184 := by
    show (now + n * 1000000 - 62135596800000000) / 1000000 < 17179869184
    omega
  have hnow : intTimestamp now = ((now - epoch) / 1000000 : Nat) := by
    rw [intTimestamp, if_pos hstart, wholeSeconds_eq hnear]
  have hexpiry : intTimestamp (now + Time.seconds n) = ((now + Time.seconds n - epoch) / 1000000 : Nat) := by
    rw [intTimestamp, if_pos (le_trans hstart (Nat.le_add_right now _)), wholeSeconds_eq hfar]
  have hsame : (now + Time.seconds n - epoch) / 1000000 = (now - epoch) / 1000000 + n := by
    show (now + n * 1000000 - 62135596800000000) / 1000000 = (now - 62135596800000000) / 1000000 + n
    omega
  rw [hsame] at hexpiry hfar
  exact KeepsLifetime.of_eq_add verifier hn hmaximum hnow hexpiry hfar

/-- What a token that is accepted has passed. -/
structure Checked (now : Time) (token : String) (identity : AuthenticatedIdentity)
    (encodedHeader encodedPayload encodedSignature : List Char) : Prop where
  parts : token.toList.splitOn '.' = [encodedHeader, encodedPayload, encodedSignature]
  signed : verifier.Signed encodedHeader encodedPayload encodedSignature
  header : ∃ fields, Opens encodedHeader (.dict fields) ∧
    fields.Perm [("alg", .str "HS256"), ("typ", .str "JWT")]
  payload : ∃ claims, Opens encodedPayload (.dict claims) ∧
    claims.lookup "aud" = some (.str verifier.audience) ∧
    (∃ iat, claims.lookup "iat" = some iat ∧ timestamp iat = .ok identity.issuedAt) ∧
    ∃ exp, claims.lookup "exp" = some exp ∧ timestamp exp = .ok identity.expiresAt
  issued : identity.issuedAt ≤ now + Time.seconds 30
  notExpired : now < identity.expiresAt
  lifetime : identity.expiresAt - identity.issuedAt ≤ verifier.maximumLifetime

end HmacIdentityVerifier

theorem isText_eq_true_iff {value : Option PyValue} {text : String} :
    isSupportedHeader.isText value text = true ↔ value = some (.str text) := by
  unfold isSupportedHeader.isText
  split
  · rw [beq_iff_eq, Option.some.injEq, PyValue.str.injEq]
  · next hnone =>
    constructor
    · intro h
      cases h
    · intro h
      exact absurd h (hnone text)

theorem mem_of_lookup {fields : List (String × PyValue)} {name : String} {value : PyValue}
    (h : fields.lookup name = some value) : (name, value) ∈ fields := by
  obtain ⟨before, after, rfl, -⟩ := List.lookup_eq_some_iff.mp h
  simp

/-- A supported header has the two fields and no others. -/
theorem perm_of_isSupportedHeader {header : PyValue} (h : isSupportedHeader header = true) :
    ∃ fields, header = .dict fields ∧
      fields.Perm [("alg", .str "HS256"), ("typ", .str "JWT")] := by
  cases header with
  | dict fields =>
    refine ⟨fields, rfl, ?_⟩
    simp only [isSupportedHeader, Bool.and_eq_true, beq_iff_eq, isText_eq_true_iff] at h
    obtain ⟨⟨hlength, halg⟩, htyp⟩ := h
    have hdistinct : [("alg", PyValue.str "HS256"), ("typ", .str "JWT")].Nodup := by simp
    have hsubset : [("alg", PyValue.str "HS256"), ("typ", .str "JWT")] ⊆ fields := by
      intro field hfield
      simp only [List.mem_cons, List.not_mem_nil, or_false] at hfield
      rcases hfield with rfl | rfl
      · exact mem_of_lookup halg
      · exact mem_of_lookup htyp
    -- there is no room for a third field
    exact ((List.subperm_of_subset hdistinct hsubset).perm_of_length_le hlength.le).symm
  | _ => cases h

namespace HmacIdentityVerifier

variable [TokenLibrary] (verifier : HmacIdentityVerifier)

/-- Whatever is accepted has passed the checks. -/
theorem checked_of_verify {now : Time} {token : String} {identity : AuthenticatedIdentity}
    (h : verifier.verify now token = .ok identity) :
    ∃ encodedHeader encodedPayload encodedSignature,
      verifier.Checked now token identity encodedHeader encodedPayload encodedSignature := by
  obtain ⟨encodedHeader, encodedPayload, encodedSignature, hparts, hsigned, hvalid⟩ :=
    verifier.verify_eq_ok_iff.mp h
  obtain ⟨header, hopens, hsupported⟩ := hvalid.header
  obtain ⟨fields, rfl, hperm⟩ := perm_of_isSupportedHeader hsupported
  obtain ⟨claims, hclaims, valid⟩ := hvalid.claims
  exact ⟨encodedHeader, encodedPayload, encodedSignature,
    { parts := hparts
      signed := hsigned
      header := ⟨fields, hopens, hperm⟩
      payload := ⟨claims, hclaims, isText_eq_true_iff.mp valid.audience, valid.issuedAt, valid.expiresAt⟩
      issued := valid.issued
      notExpired := valid.notExpired
      lifetime := valid.lifetime }⟩

section

variable {verifier} {now lifetime : Time} {subject tenantId : String} {kind : IdentityKind}
  {roles : List UserRole} {token : String}

/-- When an issued token is accepted. -/
theorem accepts_issued_iff (hloads : LoadsDocuments) (haudience : IsName verifier.audience)
    (hsubject : IsName subject) (htenant : IsName tenantId) (hroles : roles.Nodup)
    (hkind : kind = .USER ∨ roles = [])
    (hissue : verifier.issue now subject tenantId kind (roles.map UserRole.value) lifetime = .ok token)
    {later : Time} {identity : AuthenticatedIdentity} :
    verifier.verify later token = .ok identity ↔ later + Time.seconds 30 < datetimeEnd ∧
      (((-62135596800 ≤ intTimestamp now ∧ intTimestamp now ≤ 253402300799) ∧
        identity.issuedAt = instantOf (intTimestamp now)) ∧
      ((-62135596800 ≤ intTimestamp (now + lifetime) ∧ intTimestamp (now + lifetime) ≤ 253402300799) ∧
        identity.expiresAt = instantOf (intTimestamp (now + lifetime))) ∧
      instantOf (intTimestamp now) ≤ later + Time.seconds 30 ∧
      later < instantOf (intTimestamp (now + lifetime)) ∧
      instantOf (intTimestamp (now + lifetime)) - instantOf (intTimestamp now) ≤
        verifier.maximumLifetime ∧
      instantOf (intTimestamp now) < instantOf (intTimestamp (now + lifetime)) ∧
      identity.IsFor subject tenantId kind roles verifier.audience) := by
  rw [verifier.verify_eq_ok_iff, verifier.genuine_issued_iff hloads hissue,
    verifier.validClaims_tokenClaims_iff haudience hsubject htenant hroles hkind]

/-- A token that round-trips keeps its lifetime. -/
theorem RoundTrips.keepsLifetime (hloads : LoadsDocuments) (haudience : IsName verifier.audience)
    (hsubject : IsName subject) (htenant : IsName tenantId) (hroles : roles.Nodup)
    (hkind : kind = .USER ∨ roles = []) (hlifetime : Time.seconds 1 ≤ lifetime)
    (hissue : verifier.issue now subject tenantId kind (roles.map UserRole.value) lifetime = .ok token)
    (h : verifier.RoundTrips now lifetime subject tenantId kind roles token) :
    verifier.KeepsLifetime now lifetime := by
  have hend := (verifier.issue_eq_ok hissue).1
  obtain ⟨hexplow, -, hbefore, -⟩ := intTimestamp_near hend
  have hstart : now < instantOf (intTimestamp (now + lifetime)) :=
    Nat.lt_of_add_lt_add_right (lt_of_le_of_lt (Nat.add_le_add_left hlifetime now) hbefore)
  -- the first and the last instant at which it is to be accepted
  obtain ⟨first, haccepted, -⟩ := h.accepted now le_rfl hstart
  rw [accepts_issued_iff hloads haudience hsubject htenant hroles hkind hissue] at haccepted
  obtain ⟨-, ⟨⟨hiatlow, -⟩, -⟩, -, -, -, hadmissible, hpositive, -⟩ := haccepted
  obtain ⟨last, haccepted, -⟩ := h.accepted (instantOf (intTimestamp (now + lifetime)) - 1)
    (Nat.le_sub_one_of_lt hstart) (Nat.sub_one_lt_of_lt hstart)
  rw [accepts_issued_iff hloads haudience hsubject htenant hroles hkind hissue] at haccepted
  have hthirty := haccepted.1
  rw [instantOf_sub hiatlow hexplow] at hadmissible
  refine ⟨(instantOf_lt_iff hiatlow hexplow).mp hpositive, hadmissible,
    (instantOf_add_le_iff hexplow).mp ?_⟩
  have hone : 1 ≤ instantOf (intTimestamp (now + lifetime)) := Nat.one_le_of_lt hstart
  calc instantOf (intTimestamp (now + lifetime)) + Time.seconds 30
      = instantOf (intTimestamp (now + lifetime)) - 1 + Time.seconds 30 + 1 := by
        rw [Nat.add_right_comm, Nat.sub_add_cancel hone]
    _ ≤ datetimeEnd := Nat.succ_le_of_lt hthirty

theorem KeepsLifetime.roundTrips (hloads : LoadsDocuments) (haudience : IsName verifier.audience)
    (hsubject : IsName subject) (htenant : IsName tenantId) (hroles : roles.Nodup)
    (hkind : kind = .USER ∨ roles = [])
    (hissue : verifier.issue now subject tenantId kind (roles.map UserRole.value) lifetime = .ok token)
    (h : verifier.KeepsLifetime now lifetime) :
    verifier.RoundTrips now lifetime subject tenantId kind roles token := by
  have hend := (verifier.issue_eq_ok hissue).1
  obtain ⟨hexplow, -⟩ := intTimestamp_near hend
  obtain ⟨hiatlow, -, -, hissued⟩ :=
    intTimestamp_near (lt_of_le_of_lt (Nat.le_add_right now lifetime) hend)
  have hpositive := (instantOf_lt_iff hiatlow hexplow).mpr h.positive
  have hsupported := h.supported
  have hbefore := h.positive
  constructor
  · intro later hlater hexpiry
    have hthirty : later + Time.seconds 30 < datetimeEnd :=
      lt_of_lt_of_le (Nat.add_lt_add_right hexpiry (Time.seconds 30))
        ((instantOf_add_le_iff hexplow).mpr hsupported)
    have hissuance : instantOf (intTimestamp now) ≤ later + Time.seconds 30 :=
      calc instantOf (intTimestamp now) ≤ now + Time.seconds 1 := Nat.le_of_lt hissued
        _ ≤ later + Time.seconds 30 := Nat.add_le_add hlater (by decide)
    have hadmissible : instantOf (intTimestamp (now + lifetime)) - instantOf (intTimestamp now) ≤
        verifier.maximumLifetime := by
      rw [instantOf_sub hiatlow hexplow]
      exact h.admissible
    let identity : AuthenticatedIdentity :=
      { subject, tenantId, kind, roles, audience := verifier.audience
        issuedAt := instantOf (intTimestamp now)
        expiresAt := instantOf (intTimestamp (now + lifetime))
        issued_lt_expires := hpositive, nodup_roles := hroles, roles_of_user := hkind }
    refine ⟨identity, ?_, ⟨rfl, rfl, rfl, rfl, rfl⟩⟩
    rw [accepts_issued_iff hloads haudience hsubject htenant hroles hkind hissue]
    exact ⟨hthirty, ⟨⟨hiatlow, by omega⟩, rfl⟩, ⟨⟨hexplow, by omega⟩, rfl⟩, hissuance, hexpiry,
      hadmissible, hpositive, ⟨rfl, rfl, rfl, rfl, rfl⟩⟩
  · intro later identity hexpired haccepted
    rw [accepts_issued_iff hloads haudience hsubject htenant hroles hkind hissue] at haccepted
    exact absurd haccepted.2.2.2.2.1 (not_lt.mpr hexpired)

/-- **Issued tokens.** A token with a lifetime of whole seconds comes back as it was issued, until its
expiry and no longer, exactly if the truncated times keep an admissible lifetime. And nothing is
accepted that has not passed every check. -/
theorem issue_verify_iff (hloads : LoadsDocuments) (haudience : IsName verifier.audience)
    (hsubject : IsName subject) (htenant : IsName tenantId) (hroles : roles.Nodup)
    (hkind : kind = .USER ∨ roles = []) {n : Nat} (hn : 1 ≤ n)
    (hissue : verifier.issue now subject tenantId kind (roles.map UserRole.value) (Time.seconds n) =
      .ok token) :
    (verifier.RoundTrips now (Time.seconds n) subject tenantId kind roles token ↔
      verifier.KeepsLifetime now (Time.seconds n)) ∧
    ∀ later text identity, verifier.verify later text = .ok identity →
      ∃ encodedHeader encodedPayload encodedSignature,
        verifier.Checked later text identity encodedHeader encodedPayload encodedSignature := by
  have hsecond : Time.seconds 1 ≤ Time.seconds n := Nat.mul_le_mul_right 1000000 hn
  refine ⟨⟨?_, ?_⟩, fun later text identity => verifier.checked_of_verify⟩
  · exact RoundTrips.keepsLifetime hloads haudience hsubject htenant hroles hkind hsecond hissue
  · exact KeepsLifetime.roundTrips hloads haudience hsubject htenant hroles hkind hissue

end

end HmacIdentityVerifier

/-! ### Two tokens -/

namespace Demo.Tokens

/-- The signing input of a token that is issued half a second before 1970. -/
def earlyInput : String :=
  "eyJhbGciOiJIUzI1NiIsInR5cCI6IkpXVCJ9.eyJhdWQiOiJ0b29sLWdhdGV3YXkiLCJleHAiOjAsImlhdCI6MCwi" ++
    "a2luZCI6ImFnZW50Iiwicm9sZXMiOltdLCJzdWIiOiJhZ2VudC0xIiwidGVuYW50X2lkIjoidGVuYW50LWEifQ"

def earlyDigest : List UInt8 :=
  [203, 176, 149, 66, 65, 44, 42, 169, 34, 98, 48, 167, 23, 199, 75, 53, 188, 54, 156, 149, 11, 191,
    102, 205, 173, 84, 249, 217, 90, 58, 234, 78]

/-- The digest of the other token. -/
def digest : List UInt8 :=
  [82, 193, 185, 186, 108, 130, 204, 211, 223, 45, 204, 234, 75, 158, 234, 9, 38, 131, 37, 145, 37,
    125, 218, 157, 19, 67, 176, 139, 225, 100, 113, 179]

def loadsBytes (bytes : List UInt8) : Except LoadsError PyValue :=
  match readDocument (bytes.map fun byte => Char.ofNat byte.toNat) with
  | some value => .ok value
  | none => .error (.valueError "Expecting value")

local instance : TokenLibrary where
  hmacSha256 _ message := if message = encodeUtf8 earlyInput.toList then earlyDigest else digest
  loads := loadsBytes
  intOfText _ := none
  length_hmacSha256 _ message := by split_ifs <;> rfl

theorem loadsDocuments : LoadsDocuments := by
  intro text value hascii hread
  have hbytes : (encodeUtf8 text).map (fun byte => Char.ofNat byte.toNat) = text := by
    have hencoded := encodeAscii_eq_encodeUtf8 hascii
    rw [encodeAscii, if_pos hascii, Except.ok.injEq] at hencoded
    rw [← hencoded, List.map_map]
    have hchars : ∀ c ∈ text, ((fun byte : UInt8 => Char.ofNat byte.toNat) ∘
        fun c : Char => UInt8.ofNat c.toNat) c = id c := by
      intro c hc
      have hlt := of_decide_eq_true (List.all_eq_true.mp hascii c hc)
      have hbyte : c.toNat < UInt8.size := Nat.lt_trans hlt (by decide)
      show Char.ofNat (UInt8.ofNat c.toNat).toNat = c
      rw [UInt8.toNat_ofNat_of_lt' hbyte, Char.ofNat_toNat]
    rw [List.map_congr_left hchars, List.map_id]
  show loadsBytes (encodeUtf8 text) = .ok value
  rw [loadsBytes, hbytes, hread]

/-- The secret is `b"k" * 32`. -/
def verifier : HmacIdentityVerifier where
  secret := List.replicate 32 107
  audience := "tool-gateway"
  maximumLifetime := Time.seconds 3600
  secret_length := by decide
  audience_text := by decide +kernel

theorem isName_audience : IsName verifier.audience :=
  ⟨by decide +kernel, by decide +kernel, by decide +kernel⟩

theorem isName_subject : IsName "Zoë 𝄞" := ⟨by decide +kernel, by decide +kernel, by decide +kernel⟩

theorem isName_agent : IsName "agent-1" := ⟨by decide +kernel, by decide +kernel, by decide +kernel⟩

theorem isName_tenant : IsName "tenant-a" := ⟨by decide +kernel, by decide +kernel, by decide +kernel⟩

/-- A token of 2026, issued a quarter of a second after midnight. -/
theorem issue_verify_iff_zoe : ∃ token,
    verifier.issue 63902822400250000 "Zoë 𝄞" "tenant-a" .USER [UserRole.APPROVER.value]
      (Time.seconds 900) = .ok token ∧
    verifier.RoundTrips 63902822400250000 (Time.seconds 900) "Zoë 𝄞" "tenant-a" .USER
      [UserRole.APPROVER] token := by
  have hend : 63902822400250000 + Time.seconds 900 < datetimeEnd := by decide
  obtain ⟨token, hissue⟩ := verifier.exists_issue_iff.mpr hend
  have hkeeps : verifier.KeepsLifetime 63902822400250000 (Time.seconds 900) :=
    ⟨by decide +kernel, by decide +kernel, by decide +kernel⟩
  have hiff := HmacIdentityVerifier.issue_verify_iff loadsDocuments isName_audience isName_subject
    isName_tenant (List.nodup_singleton UserRole.APPROVER) (.inl rfl) (by decide) hissue
  exact ⟨token, hissue, hiff.1.mpr hkeeps⟩

/-- Half a second before 1970, for a second: the expiry is not after the issuance. -/
theorem not_roundTrips : ¬ ∀ (now : Time) (subject tenantId : String) (kind : IdentityKind)
    (roles : List UserRole) (n : Nat) (token : String), IsName verifier.audience → IsName subject →
      IsName tenantId → roles.Nodup → (kind = .USER ∨ roles = []) → 1 ≤ n →
      Time.seconds n ≤ verifier.maximumLifetime →
      verifier.issue now subject tenantId kind (roles.map UserRole.value) (Time.seconds n) = .ok token →
      verifier.RoundTrips now (Time.seconds n) subject tenantId kind roles token := by
  intro h
  have hend : 62135596799500000 + Time.seconds 1 < datetimeEnd := by decide
  obtain ⟨token, hissue⟩ := verifier.exists_issue_iff.mpr hend
  have htrips := h 62135596799500000 "agent-1" "tenant-a" .AGENT [] 1 token isName_audience
    isName_agent isName_tenant List.nodup_nil (.inr rfl) le_rfl (by decide) hissue
  have hkeeps := htrips.keepsLifetime loadsDocuments isName_audience isName_agent isName_tenant
    List.nodup_nil (.inr rfl) le_rfl hissue
  exact absurd hkeeps.positive (by decide +kernel)

end Demo.Tokens

end ChangeOps.Authentication
