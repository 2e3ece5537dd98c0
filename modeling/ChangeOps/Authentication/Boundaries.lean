import ChangeOps.Authentication.Identity

/-!
# ChangeOps.Authentication — the boundaries

The webhook signature (`changeops_event_gateway/auth.py`), the callback secret
(`changeops_workflow_coordinator/app.py`) and the identity token: which requests each of them
answers with an acceptance or with its own error.
-/

namespace ChangeOps.Authentication

/-! ## The checks -/

/-- `hmac.compare_digest` of two texts. -/
def compareDigest (a b : List Char) : Except PyException Bool :=
  if isAscii a && isAscii b then .ok (a == b)
  else .error (.typeError "comparing strings with non-ASCII characters is not supported")

/-- `if not hmac.compare_digest(a, b): raise error`. -/
def requireEqual (a b : List Char) (error : PyException) : Except PyException Unit := do
  if ← compareDigest a b then return () else .error error

def hexDigit (n : Nat) : Char := if n < 10 then Char.ofNat (48 + n) else Char.ofNat (87 + n)

/-- `hexdigest()`. -/
def hexdigest (digest : List UInt8) : List Char :=
  digest.flatMap fun byte => [hexDigit (byte.toNat / 16), hexDigit (byte.toNat % 16)]

structure WebhookSignatureVerifier where
  secret : List UInt8
  secret_length : 32 ≤ secret.length

/-- `"sha256="`. -/
def signaturePrefix : List Char := ['s', 'h', 'a', '2', '5', '6', '=']

def WebhookSignatureVerifier.verify [TokenLibrary] (verifier : WebhookSignatureVerifier)
    (body : List UInt8) : Option String → Except PyException Unit
  | none => .error .signature
  | some signature =>
    if !signaturePrefix.isPrefixOf signature.toList then .error .signature
    else
      let supplied := signature.toList.drop signaturePrefix.length
      if supplied.length ≠ 64 then .error .signature
      else
        requireEqual (hexdigest (TokenLibrary.hmacSha256 verifier.secret body)) supplied .signature

/-- The check of `approval_callback`; `create_app` refuses a configuration without the secret. -/
def approvalCallback (workflowCallbackSecret : String) :
    (callbackSecret : Option String) → Except PyException Unit
  | none => .error .callbackAuthentication
  | some callbackSecret =>
    requireEqual callbackSecret.toList workflowCallbackSecret.toList .callbackAuthentication

/-! ## What they accept -/

/-- The boundary accepts what is genuine, and answers the rest with its own error. -/
def Proper {α : Type} (own : PyException → Prop) (genuine : α → Prop)
    (result : Except PyException α) : Prop :=
  (∃ a, result = .ok a ∧ genuine a) ∨ ((∃ e, result = .error e ∧ own e) ∧ ∀ a, ¬ genuine a)

section

variable {α : Type} {own : PyException → Prop} {genuine : α → Prop}

theorem proper_congr {genuine' : α → Prop} {result : Except PyException α}
    (h : ∀ a, genuine a ↔ genuine' a) : Proper own genuine result ↔ Proper own genuine' result := by
  unfold Proper
  simp only [h]

theorem proper_ok {a : α} (h : genuine a) : Proper own genuine (.ok a) := .inl ⟨a, rfl, h⟩

theorem proper_error {e : PyException} (he : own e) (h : ∀ a, ¬ genuine a) :
    Proper own genuine (.error e) := .inr ⟨⟨e, rfl, he⟩, h⟩

/-- An error of another kind. -/
theorem not_proper_error {e : PyException} (he : ¬ own e) : ¬ Proper own genuine (.error e) := by
  rintro (⟨a, h, -⟩ | ⟨⟨e', h, he'⟩, -⟩)
  · cases h
  · cases h
    exact he he'

end

theorem encodeAscii_eq_error_iff {text : List Char} {e : PyException} :
    encodeAscii text = .error e ↔ e = .unicodeEncode ∧ isAscii text = false := by
  unfold encodeAscii
  split
  · next h =>
    constructor
    · intro h
      cases h
    · intro ⟨_, h'⟩
      rw [h] at h'
      cases h'
  · next h =>
    constructor
    · intro he
      cases he
      exact ⟨rfl, Bool.eq_false_iff.mpr h⟩
    · intro ⟨he, _⟩
      rw [he]

/-- The parts as signed: the third decodes to the HMAC of the first two. -/
def HmacIdentityVerifier.Signed [TokenLibrary] (verifier : HmacIdentityVerifier)
    (encodedHeader encodedPayload encodedSignature : List Char) : Prop :=
  ∃ signingInput, encodeAscii (encodedHeader ++ '.' :: encodedPayload) = .ok signingInput ∧
    b64decode encodedSignature = .ok (TokenLibrary.hmacSha256 verifier.secret signingInput)

/-- A token with a genuine signature and the valid claims of the identity. -/
def HmacIdentityVerifier.Genuine [TokenLibrary] (verifier : HmacIdentityVerifier) (now : Time)
    (token : String) (identity : AuthenticatedIdentity) : Prop :=
  ∃ encodedHeader encodedPayload encodedSignature,
    token.toList.splitOn '.' = [encodedHeader, encodedPayload, encodedSignature] ∧
    verifier.Signed encodedHeader encodedPayload encodedSignature ∧
    verifier.ValidParts now encodedHeader encodedPayload identity

def WebhookSignatureVerifier.Genuine [TokenLibrary] (verifier : WebhookSignatureVerifier)
    (body : List UInt8) (signature : Option String) (_ : Unit) : Prop :=
  signature = some (String.ofList
    (signaturePrefix ++ hexdigest (TokenLibrary.hmacSha256 verifier.secret body)))

/-! ## What passes through -/

/-- Three parts with a character outside of ASCII in the first two, or a genuine signature over parts
    that one of the conversions gives up on. -/
def HmacIdentityVerifier.Escapes [TokenLibrary] (verifier : HmacIdentityVerifier) (now : Time)
    (token : String) : Prop :=
  ∃ encodedHeader encodedPayload encodedSignature,
    token.toList.splitOn '.' = [encodedHeader, encodedPayload, encodedSignature] ∧
    (isAscii (encodedHeader ++ '.' :: encodedPayload) = false ∨
     verifier.Signed encodedHeader encodedPayload encodedSignature ∧
      verifier.EscapingClaims now encodedHeader encodedPayload)

/-- Sixty-four characters after the prefix, one of them outside of ASCII. -/
def WebhookSignatureVerifier.Escapes (signature : Option String) : Prop :=
  ∃ supplied, signature = some (String.ofList (signaturePrefix ++ supplied)) ∧
    supplied.length = 64 ∧ isAscii supplied = false

/-- A header, where it or the configured secret has a character outside of ASCII. -/
def CallbackEscapes (workflowCallbackSecret : String) (callbackSecret : Option String) : Prop :=
  ∃ supplied, callbackSecret = some supplied ∧
    (isAscii supplied.toList = false ∨ isAscii workflowCallbackSecret.toList = false)

/-! ## Identity tokens -/

section

variable [TokenLibrary] (verifier : HmacIdentityVerifier)

theorem HmacIdentityVerifier.genuine_iff {now : Time} {token : String} {identity : AuthenticatedIdentity}
    {encodedHeader encodedPayload encodedSignature : List Char}
    (hparts : token.toList.splitOn '.' = [encodedHeader, encodedPayload, encodedSignature]) :
    verifier.Genuine now token identity ↔
      verifier.Signed encodedHeader encodedPayload encodedSignature ∧
        verifier.ValidParts now encodedHeader encodedPayload identity := by
  constructor
  · rintro ⟨_, _, _, h, hgenuine⟩
    rw [hparts] at h
    cases h
    exact hgenuine
  · intro h
    exact ⟨_, _, _, hparts, h⟩

theorem HmacIdentityVerifier.escapes_iff {now : Time} {token : String}
    {encodedHeader encodedPayload encodedSignature : List Char}
    (hparts : token.toList.splitOn '.' = [encodedHeader, encodedPayload, encodedSignature]) :
    verifier.Escapes now token ↔
      isAscii (encodedHeader ++ '.' :: encodedPayload) = false ∨
      verifier.Signed encodedHeader encodedPayload encodedSignature ∧
        verifier.EscapingClaims now encodedHeader encodedPayload := by
  constructor
  · rintro ⟨_, _, _, h, hescapes⟩
    rw [hparts] at h
    cases h
    exact hescapes
  · intro h
    exact ⟨_, _, _, hparts, h⟩

/-- With a genuine signature, what the claims decide. -/
theorem HmacIdentityVerifier.proper_claims_iff (now : Time) (encodedHeader encodedPayload : List Char) :
    Proper PyException.isAuthentication (verifier.ValidParts now encodedHeader encodedPayload)
        (exceptClause (verifier.readClaims now encodedHeader encodedPayload)) ↔
      ¬ verifier.EscapingClaims now encodedHeader encodedPayload := by
  have hescaping := @escaping_readClaims_iff _ verifier now encodedHeader encodedPayload
  rw [← hescaping,
    proper_congr fun _ => verifier.readClaims_eq_ok_iff.symm]
  cases hclaims : verifier.readClaims now encodedHeader encodedPayload with
  | ok identity =>
    constructor
    · intro _
      exact not_escaping_ok identity
    · intro _
      exact proper_ok rfl
  | error error =>
    have hnone (identity : AuthenticatedIdentity) :
        ¬ (.error error : Except PyException AuthenticatedIdentity) = .ok identity := by
      intro h
      cases h
    rw [escaping_error_iff]
    unfold exceptClause
    dsimp only
    by_cases hcaught : error.caught = true
    · rw [if_pos hcaught]
      constructor
      · intro _
        exact PyException.not_escapes_of_caught hcaught
      · intro _
        exact proper_error trivial hnone
    · rw [if_neg hcaught]
      by_cases hown : error.isAuthentication
      · constructor
        · intro _ hescapes
          exact hescapes.2 hown
        · intro _
          exact proper_error hown hnone
      · constructor
        · intro h
          exact absurd h (not_proper_error hown)
        · intro h
          exact absurd ⟨Bool.eq_false_iff.mpr hcaught, hown⟩ h

theorem HmacIdentityVerifier.proper_verify_iff (now : Time) (token : String) :
    Proper PyException.isAuthentication (verifier.Genuine now token) (verifier.verify now token) ↔
      ¬ verifier.Escapes now token := by
  unfold verify
  split
  · next encodedHeader encodedPayload encodedSignature hparts =>
    rw [proper_congr fun _ => verifier.genuine_iff hparts, verifier.escapes_iff hparts]
    cases hencode : encodeAscii (encodedHeader ++ '.' :: encodedPayload) with
    | error error =>
      -- the signing input cannot be encoded, outside of every handler
      obtain ⟨rfl, hascii⟩ := encodeAscii_eq_error_iff.mp hencode
      constructor
      · intro h
        exact absurd h (not_proper_error id)
      · intro h
        exact absurd (.inl hascii) h
    | ok signingInput =>
      have hascii : ¬ isAscii (encodedHeader ++ '.' :: encodedPayload) = false := by
        intro h
        rw [encodeAscii_eq_error_iff.mpr ⟨rfl, h⟩] at hencode
        cases hencode
      have hsigned : verifier.Signed encodedHeader encodedPayload encodedSignature ↔
          b64decode encodedSignature =
            .ok (TokenLibrary.hmacSha256 verifier.secret signingInput) := by
        unfold Signed
        simp only [hencode, Except.ok.injEq, exists_eq_left']
      rw [proper_congr fun _ => and_congr_left' hsigned, hsigned]
      cases hsupplied : b64decode encodedSignature with
      | error error =>
        constructor
        · rintro - (h | ⟨h, -⟩)
          · exact hascii h
          · cases h
        · intro _
          apply proper_error (b64decode_raises encodedSignature error hsupplied)
          intro identity h
          cases h.1
      | ok supplied =>
        by_cases hequal : TokenLibrary.hmacSha256 verifier.secret signingInput = supplied
        · -- only the claims are left
          show Proper _ _ (if _ then _ else _) ↔ _
          rw [if_neg (not_not.mpr hequal), hequal, proper_congr fun _ => and_iff_right rfl,
            verifier.proper_claims_iff]
          constructor
          · rintro hclaims (h | ⟨-, h⟩)
            · exact hascii h
            · exact hclaims h
          · intro h hclaims
            exact h (.inr ⟨rfl, hclaims⟩)
        · have hne : ¬ (.ok supplied : Except PyException (List UInt8)) =
              .ok (TokenLibrary.hmacSha256 verifier.secret signingInput) := by
            intro h
            cases h
            exact hequal rfl
          show Proper _ _ (if _ then _ else _) ↔ _
          rw [if_pos hequal]
          constructor
          · rintro - (h | ⟨h, -⟩)
            · exact hascii h
            · exact hne h
          · intro _
            apply proper_error trivial
            intro identity h
            exact hne h.1
  · next hparts =>
    have hnone : ∀ h p s, ¬ token.toList.splitOn '.' = [h, p, s] := by
      intro h p s hsplit
      exact hparts h p s hsplit
    constructor
    · rintro - ⟨h, p, s, hsplit, -⟩
      exact hnone h p s hsplit
    · intro _
      apply proper_error trivial
      rintro identity ⟨h, p, s, hsplit, -⟩
      exact hnone h p s hsplit

end

/-! ## Webhook signatures -/

theorem toNat_hexDigit_lt : ∀ n < 16, (hexDigit n).toNat < 128 := by
  decide

theorem isAscii_hexdigest (digest : List UInt8) : isAscii (hexdigest digest) = true := by
  unfold isAscii hexdigest
  rw [List.all_eq_true]
  intro c hc
  obtain ⟨byte, -, hc⟩ := List.mem_flatMap.mp hc
  have hbyte : byte.toNat < 256 := byte.toNat_lt
  rcases List.mem_cons.mp hc with rfl | hc
  · exact decide_eq_true (toNat_hexDigit_lt _ (by omega))
  · rw [List.mem_singleton.mp hc]
    exact decide_eq_true (toNat_hexDigit_lt _ (by omega))

theorem length_hexdigest (digest : List UInt8) : (hexdigest digest).length = 2 * digest.length := by
  induction digest with
  | nil => rfl
  | cons byte digest ih =>
    show (hexdigest digest).length + 2 = _
    rw [ih, List.length_cons]
    omega

/-- The comparison decides, unless a text has a character outside of ASCII. -/
theorem proper_requireEqual_iff {a b : List Char} {error : PyException}
    (herror : ∀ message, error ≠ .typeError message) :
    Proper (fun e => e = error) (fun _ => a = b) (requireEqual a b error) ↔
      ¬ (isAscii a = false ∨ isAscii b = false) := by
  by_cases hascii : (isAscii a && isAscii b) = true
  · have hresult : requireEqual a b error = if (a == b) = true then .ok () else .error error := by
      unfold requireEqual compareDigest
      rw [if_pos hascii]
      rfl
    rw [hresult]
    obtain ⟨ha, hb⟩ := Bool.and_eq_true_iff.mp hascii
    constructor
    · rintro - (h | h)
      · rw [ha] at h
        cases h
      · rw [hb] at h
        cases h
    · intro _
      by_cases hequal : a = b
      · rw [if_pos (beq_iff_eq.mpr hequal)]
        exact proper_ok hequal
      · rw [if_neg (mt beq_iff_eq.mp hequal)]
        exact proper_error rfl fun _ => hequal
  · have hresult : requireEqual a b error = .error (.typeError
        "comparing strings with non-ASCII characters is not supported") := by
      unfold requireEqual compareDigest
      rw [if_neg hascii]
      rfl
    rw [hresult]
    constructor
    · intro h
      exact absurd h (not_proper_error (herror _).symm)
    · intro h
      rw [Bool.and_eq_true, not_and_or, Bool.not_eq_true, Bool.not_eq_true] at hascii
      exact absurd hascii h

namespace WebhookSignatureVerifier

theorem ofList_signature_inj {a b : List Char} :
    some (String.ofList (signaturePrefix ++ a)) = some (String.ofList (signaturePrefix ++ b)) ↔
      a = b := by
  rw [Option.some.injEq, String.ofList_inj, List.append_cancel_left_eq]

variable [TokenLibrary] (verifier : WebhookSignatureVerifier) (body : List UInt8)

/-- The check of what follows the prefix. -/
theorem proper_verify_supplied_iff (supplied : List Char) :
    Proper (fun e => e = .signature)
        (fun _ => hexdigest (TokenLibrary.hmacSha256 verifier.secret body) = supplied)
        (verifier.verify body (some (String.ofList (signaturePrefix ++ supplied)))) ↔
      ¬ (supplied.length = 64 ∧ isAscii supplied = false) := by
  have hexpected := isAscii_hexdigest (TokenLibrary.hmacSha256 verifier.secret body)
  have hlength := length_hexdigest (TokenLibrary.hmacSha256 verifier.secret body)
  rw [TokenLibrary.length_hmacSha256] at hlength
  have hprefix : (!signaturePrefix.isPrefixOf (signaturePrefix ++ supplied)) = false := by
    rw [Bool.not_eq_false', List.isPrefixOf_iff_prefix]
    exact List.prefix_append _ _
  unfold verify
  dsimp only
  rw [String.toList_ofList, hprefix, List.drop_left]
  generalize hexdigest (TokenLibrary.hmacSha256 verifier.secret body) = expected at *
  by_cases hsupplied : supplied.length = 64
  · rw [if_neg (by decide), if_neg (not_not.mpr hsupplied),
      proper_requireEqual_iff fun message h => by cases h]
    simp [hexpected, hsupplied]
  · rw [if_neg (by decide), if_pos hsupplied]
    constructor
    · intro _ h
      exact hsupplied h.1
    · intro _
      refine proper_error rfl fun _ hequal => ?_
      rw [← hequal, hlength] at hsupplied
      exact hsupplied rfl

theorem proper_verify_iff (signature : Option String) :
    Proper (fun e => e = .signature) (verifier.Genuine body signature)
        (verifier.verify body signature) ↔ ¬ Escapes signature := by
  by_cases hprefix : ∃ supplied, signature = some (String.ofList (signaturePrefix ++ supplied))
  · obtain ⟨supplied, rfl⟩ := hprefix
    have hgenuine (_ : Unit) :
        verifier.Genuine body (some (String.ofList (signaturePrefix ++ supplied))) () ↔
          hexdigest (TokenLibrary.hmacSha256 verifier.secret body) = supplied := by
      unfold Genuine
      rw [ofList_signature_inj]
      exact eq_comm
    have hescapes : Escapes (some (String.ofList (signaturePrefix ++ supplied))) ↔
        supplied.length = 64 ∧ isAscii supplied = false := by
      constructor
      · rintro ⟨other, hother, h⟩
        rw [ofList_signature_inj.mp hother]
        exact h
      · intro h
        exact ⟨supplied, rfl, h⟩
    rw [proper_congr hgenuine, hescapes]
    exact verifier.proper_verify_supplied_iff body supplied
  · -- without the prefix there is nothing to compare
    have hresult : verifier.verify body signature = .error .signature := by
      cases signature with
      | none => rfl
      | some signature =>
        apply if_pos
        rw [Bool.not_eq_true', Bool.eq_false_iff]
        intro h
        obtain ⟨supplied, h⟩ := List.isPrefixOf_iff_prefix.mp h
        refine hprefix ⟨supplied, ?_⟩
        rw [h, String.ofList_toList]
    rw [hresult]
    constructor
    · rintro - ⟨supplied, h, -⟩
      exact hprefix ⟨supplied, h⟩
    · intro _
      exact proper_error rfl fun _ h => hprefix ⟨_, h⟩

end WebhookSignatureVerifier

/-! ## Callback secrets -/

theorem proper_approvalCallback_iff (workflowCallbackSecret : String)
    (callbackSecret : Option String) :
    Proper (fun e => e = .callbackAuthentication)
        (fun _ => callbackSecret = some workflowCallbackSecret)
        (approvalCallback workflowCallbackSecret callbackSecret) ↔
      ¬ CallbackEscapes workflowCallbackSecret callbackSecret := by
  cases callbackSecret with
  | none =>
    constructor
    · rintro - ⟨supplied, h, -⟩
      cases h
    · intro _
      refine proper_error rfl fun _ h => ?_
      cases h
  | some supplied =>
    have hescapes : CallbackEscapes workflowCallbackSecret (some supplied) ↔
        isAscii supplied.toList = false ∨ isAscii workflowCallbackSecret.toList = false := by
      constructor
      · rintro ⟨_, h, hascii⟩
        cases h
        exact hascii
      · intro h
        exact ⟨supplied, rfl, h⟩
    have hgenuine (_ : Unit) : some supplied = some workflowCallbackSecret ↔
        supplied.toList = workflowCallbackSecret.toList := by
      rw [Option.some.injEq, String.toList_inj]
    rw [hescapes, proper_congr hgenuine]
    exact proper_requireEqual_iff fun message h => by cases h

/-! ## All three -/

/-- Each boundary accepts exactly what is genuine and answers everything else with its own error,
    except where the named texts reach a call that raises outside of its handlers. -/
theorem boundaries_proper_iff [TokenLibrary] :
    (∀ (verifier : HmacIdentityVerifier) (now : Time) (token : String),
      Proper PyException.isAuthentication (verifier.Genuine now token)
          (verifier.verify now token) ↔ ¬ verifier.Escapes now token) ∧
    (∀ (verifier : WebhookSignatureVerifier) (body : List UInt8) (signature : Option String),
      Proper (fun e => e = .signature) (verifier.Genuine body signature)
          (verifier.verify body signature) ↔ ¬ WebhookSignatureVerifier.Escapes signature) ∧
    ∀ (workflowCallbackSecret : String) (callbackSecret : Option String),
      Proper (fun e => e = .callbackAuthentication)
          (fun _ => callbackSecret = some workflowCallbackSecret)
          (approvalCallback workflowCallbackSecret callbackSecret) ↔
        ¬ CallbackEscapes workflowCallbackSecret callbackSecret :=
  ⟨fun verifier now token => verifier.proper_verify_iff now token,
    fun verifier body signature => verifier.proper_verify_iff body signature,
    fun secret callbackSecret => proper_approvalCallback_iff secret callbackSecret⟩

/-- A header with a letter outside of ASCII is answered with a `TypeError`. -/
theorem not_proper_approvalCallback :
    approvalCallback "0123456789abcdef0123456789abcdef" (some "é") =
        .error (.typeError "comparing strings with non-ASCII characters is not supported") ∧
      ¬ Proper (fun e => e = .callbackAuthentication)
        (fun _ => some "é" = some "0123456789abcdef0123456789abcdef")
        (approvalCallback "0123456789abcdef0123456789abcdef" (some "é")) := by
  have hresult : approvalCallback "0123456789abcdef0123456789abcdef" (some "é") =
      .error (.typeError "comparing strings with non-ASCII characters is not supported") := by
    decide +kernel
  refine ⟨hresult, ?_⟩
  rw [hresult]
  refine not_proper_error fun h => ?_
  cases h

end ChangeOps.Authentication
