import ChangeOps.Admission.Models
import ChangeOps.Authentication.Tokens

/-!
# ChangeOps.ControlTower — the operator's token

`issueOperatorToken` (`apps/control-tower/src/lib/changeops-data.ts`) and the verifier of the gateway
(`changeops_tool_gateway/identity.py`), two programs in two languages that share a secret and an
audience. `JSON.stringify` leaves characters outside of ASCII as they are, where `json.dumps` escapes
them, so the tower's token need not be the one that `issue` of the gateway would give
(`issues_same_iff`); the gateway reads it all the same.

`Date.now()` is a number of milliseconds since 1970. JavaScript reads the environment as text.
-/

namespace ChangeOps.ControlTower

open Authentication

/-! ## The tower -/

/-- A character that `trim` takes off. -/
def isTrimmed (c : Char) : Bool :=
  (9 ≤ c.toNat && c.toNat ≤ 13) || c.toNat == 32 || c.toNat == 0xA0 || c.toNat == 0x1680 ||
    (0x2000 ≤ c.toNat && c.toNat ≤ 0x200A) || c.toNat == 0x2028 || c.toNat == 0x2029 ||
    c.toNat == 0x202F || c.toNat == 0x205F || c.toNat == 0x3000 || c.toNat == 0xFEFF

def trim (text : String) : String :=
  String.ofList ((text.toList.dropWhile isTrimmed).rdropWhile isTrimmed)

/-- What `process.env` holds. -/
structure ProcessEnv where
  authAudience : Option String
  toolGatewayAuthSecret : Option String

/-- `requiredSecret("TOOL_GATEWAY_AUTH_SECRET")`. -/
def requiredSecret (env : ProcessEnv) : Except String (List UInt8) :=
  match env.toolGatewayAuthSecret with
  | some value =>
    if (encodeUtf8 value.toList).length < 32 then
      throw "TOOL_GATEWAY_AUTH_SECRET must contain at least 32 bytes."
    else return encodeUtf8 value.toList
  | none => throw "TOOL_GATEWAY_AUTH_SECRET must contain at least 32 bytes."

def authAudience (env : ProcessEnv) : Except String String :=
  let value := (env.authAudience.map trim).getD ""
  if value = "" then throw "AUTH_AUDIENCE is required for governed Control Tower reads and actions."
  else return value

/-- `IDENTIFIER_PATTERN.test(value)`. -/
def isValidIdentifier (value : String) : Bool :=
  match value.toList with
  | [] => false
  | first :: rest => first.isAlphanum && decide (rest.length ≤ 127) &&
      rest.all fun c => c.isAlphanum || "._:-".toList.contains c

/-- `encodeBase64Url`. `JSON.stringify` writes the fields in their order, and no blanks. -/
def encodeBase64Url (value : Json) : List Char := b64encode (encodeUtf8 value.plain)

def operatorSubject : String := "control-tower-local-operator"

/-- The payload of `issueOperatorToken`. -/
def operatorPayload (audience tenantId : String) (roles : List String) (now : Nat) : Json :=
  .obj [("aud", .str audience), ("exp", .int (now + 15 * 60 : Nat)), ("iat", .int now),
    ("kind", .str "user"), ("roles", .arr (roles.map .str)), ("sub", .str operatorSubject),
    ("tenant_id", .str tenantId)]

section

variable [TokenLibrary]

def issueOperatorToken (env : ProcessEnv) (dateNow : Nat) (tenantId : String)
    (roles : List String) : Except String String := do
  let now := dateNow / 1000
  let header := encodeBase64Url tokenHeader
  let payload := encodeBase64Url (operatorPayload (← authAudience env) tenantId roles now)
  let signingInput := header ++ '.' :: payload
  -- the text is ASCII: its characters are its bytes
  let signature := TokenLibrary.hmacSha256 (← requiredSecret env) (encodeUtf8 signingInput)
  return String.ofList (signingInput ++ '.' :: b64encode signature)

/-- The tower and the gateway are configured alike. -/
structure Shares (env : ProcessEnv) (verifier : HmacIdentityVerifier) : Prop where
  secret : ∃ value, env.toolGatewayAuthSecret = some value ∧ verifier.secret = encodeUtf8 value.toList
  audience : (env.authAudience.map trim).getD "" = verifier.audience

omit [TokenLibrary] in
theorem Shares.requiredSecret_eq {env : ProcessEnv} {verifier : HmacIdentityVerifier}
    (h : Shares env verifier) : requiredSecret env = .ok verifier.secret := by
  obtain ⟨value, hvalue, hsecret⟩ := h.secret
  have hlength := verifier.secret_length
  rw [hsecret] at hlength
  rw [requiredSecret, hvalue, hsecret]
  exact if_neg (Nat.not_lt.mpr hlength)

omit [TokenLibrary] in
theorem Shares.authAudience_eq {env : ProcessEnv} {verifier : HmacIdentityVerifier}
    (h : Shares env verifier) : authAudience env = .ok verifier.audience := by
  have hne : verifier.audience ≠ "" := by
    intro hempty
    have htext := verifier.audience_text
    rw [hempty] at htext
    exact htext (by unfold stripWhitespace; rfl)
  rw [authAudience, h.audience]
  exact if_neg hne

omit [TokenLibrary] in
theorem isAscii_signingInput (header payload : List UInt8) :
    isAscii (b64encode header ++ '.' :: b64encode payload) = true := by
  have hdot : isAscii ['.'] = true := by decide
  show isAscii (b64encode header ++ (['.'] ++ b64encode payload)) = true
  rw [isAscii_append, isAscii_append, isAscii_b64encode, isAscii_b64encode, hdot]
  rfl

/-- The parts of the tower's token. -/
theorem Shares.token_eq {env : ProcessEnv} {verifier : HmacIdentityVerifier}
    (h : Shares env verifier) {dateNow : Nat} {tenantId : String} {roles : List String} {token : String}
    (htoken : issueOperatorToken env dateNow tenantId roles = .ok token) :
    ∃ encodedHeader encodedPayload bytes, encodedHeader = encodeBase64Url tokenHeader ∧
      encodedPayload =
        encodeBase64Url (operatorPayload verifier.audience tenantId roles (dateNow / 1000)) ∧
      encodeAscii (encodedHeader ++ '.' :: encodedPayload) = .ok bytes ∧
      token.toList = encodedHeader ++ '.' :: encodedPayload ++
        '.' :: b64encode (TokenLibrary.hmacSha256 verifier.secret bytes) := by
  unfold issueOperatorToken at htoken
  rw [h.authAudience_eq, h.requiredSecret_eq] at htoken
  have heq := Except.ok.inj htoken
  refine ⟨_, _, _, rfl, rfl, encodeAscii_eq_encodeUtf8 (isAscii_signingInput _ _), ?_⟩
  rw [← heq, String.toList_ofList]

end

/-! ## Texts outside of ASCII

`json.loads` reads the characters as they are. -/

/-- `json.loads` gives the value of a text in UTF-8 that `readDocument` reads. -/
def LoadsUtf8 [TokenLibrary] : Prop :=
  ∀ text value, readDocument text = some value → TokenLibrary.loads (encodeUtf8 text) = .ok value

theorem control_escape : ∀ n < 32,
    ['\\', 'u', '0', '0', Nat.digitChar (n / 16), Nat.digitChar (n % 16)] = '\\' :: 'u' :: hex4 n := by
  decide

/-- The two writers differ behind the tilde. -/
theorem escapeChar_eq_escapeAscii {c : Char} (h : c.toNat ≤ 126) :
    Json.escapeChar c = escapeAscii c := by
  unfold Json.escapeChar escapeAscii
  split_ifs with hquote hslash hfeed hreturn htab hback hform hcontrol hprintable hbasic
  any_goals rfl
  all_goals first
    | exact control_escape c.toNat hcontrol
    | omega

theorem escapeChar_of_lt {c : Char} (h : 126 < c.toNat) : Json.escapeChar c = [c] := by
  have hne : ∀ d : Char, d.toNat ≤ 126 → c ≠ d := by
    rintro d hd rfl
    omega
  unfold Json.escapeChar
  rw [if_neg (hne '"' (by decide)), if_neg (hne '\\' (by decide)), if_neg (hne '\n' (by decide)),
    if_neg (hne '\r' (by decide)), if_neg (hne '\t' (by decide)), if_neg (by omega),
    if_neg (by omega), if_neg (by omega)]

theorem readChar_escapeChar (c : Char) (rest : List Char) :
    readChar (Json.escapeChar c ++ rest) = some (c, rest) := by
  by_cases h : c.toNat ≤ 126
  · rw [escapeChar_eq_escapeAscii h]
    exact readChar_escapeAscii c rest
  · rw [escapeChar_of_lt (Nat.lt_of_not_le h)]
    have hslash : c ≠ '\\' := by
      rintro rfl
      exact h (by decide)
    have hcontrol : ¬ c.toNat < 32 := by omega
    show readChar (c :: rest) = _
    unfold readChar
    split <;> simp_all

theorem head?_escapeChar (c : Char) (rest : List Char) :
    (Json.escapeChar c ++ rest).head? ≠ some '"' := by
  by_cases h : c.toNat ≤ 126
  · rw [escapeChar_eq_escapeAscii h]
    exact head?_escapeAscii c rest
  · rw [escapeChar_of_lt (Nat.lt_of_not_le h)]
    intro hhead
    cases hhead
    exact h (by decide)

theorem readString_plain {cs : List Char} {fuel : Nat} (hfuel : cs.length < fuel)
    (rest : List Char) :
    readString fuel (cs.flatMap Json.escapeChar ++ '"' :: rest) = some (cs, rest) := by
  induction cs generalizing fuel with
  | nil =>
    obtain ⟨fuel, rfl⟩ := Nat.exists_eq_add_one.mpr hfuel
    rfl
  | cons c cs ih =>
    obtain ⟨fuel, rfl⟩ := Nat.exists_eq_add_one_of_ne_zero (Nat.ne_of_gt (Nat.zero_lt_of_lt hfuel))
    rw [List.flatMap_cons, List.append_assoc, readString, if_neg (head?_escapeChar c _),
      readChar_escapeChar]
    simp only [Option.bind_eq_bind, Option.bind_some, ih (Nat.lt_of_succ_lt_succ hfuel)]
    rfl

theorem length_le_escapeChar (cs : List Char) : cs.length ≤ (cs.flatMap Json.escapeChar).length := by
  induction cs with
  | nil => simp
  | cons c cs ih =>
    have hone : 1 ≤ (Json.escapeChar c).length := by
      unfold Json.escapeChar
      split_ifs <;> simp
    rw [List.flatMap_cons, List.length_append, List.length_cons]
    omega

theorem reads_quote {depth : Nat} (text : String) :
    Reads (readValue (depth + 1)) (Json.quote text) (.str text) where
  first := ⟨'"', _, rfl, by decide, by decide, by decide⟩
  reads rest hrest := by
    have hshape : Json.quote text ++ rest =
        '"' :: (text.toList.flatMap Json.escapeChar ++ '"' :: rest) := by
      simp [Json.quote]
    have hfuel : text.toList.length <
        (text.toList.flatMap Json.escapeChar ++ '"' :: rest).length + 1 := by
      have hlength := length_le_escapeChar text.toList
      rw [List.length_append]
      omega
    rw [hshape, readValue, readString_plain hfuel, Option.map_some]
    dsimp only
    rw [String.ofList_toList]

/-- The fields of the payload, each with its text and its value. -/
def operatorFields (audience tenantId : String) (roles : List String) (now : Nat) :
    List (String × List Char × PyValue) :=
  [("aud", Json.quote audience, .str audience),
    ("exp", (toString ((now + 15 * 60 : Nat) : Int)).toList, .int (now + 15 * 60 : Nat)),
    ("iat", (toString (now : Int)).toList, .int now),
    ("kind", Json.quote "user", .str "user"),
    ("roles", '[' :: Json.commaSep (roles.map Json.quote) ++ [']'], .list (roles.map .str)),
    ("sub", Json.quote operatorSubject, .str operatorSubject),
    ("tenant_id", Json.quote tenantId, .str tenantId)]

theorem plain_operatorPayload (audience tenantId : String) (roles : List String) (now : Nat) :
    (operatorPayload audience tenantId roles now).plain = '{' ::
      Json.commaSep ((operatorFields audience tenantId roles now).map fun field =>
        dumpsField (field.1, field.2.1)) ++ ['}'] := by
  have hroles : Json.plainItems (roles.map .str) = roles.map Json.quote := by
    rw [Json.plainItems_eq_map, List.map_map]
    rfl
  have hshape : (operatorPayload audience tenantId roles now).plain = '{' ::
      Json.commaSep ((operatorFields audience tenantId roles now).map fun field =>
        Json.renderField (field.1, field.2.1)) ++ ['}'] := by
    simp only [operatorPayload, operatorFields, Json.plain, Json.plainFields, hroles, List.map_cons,
      List.map_nil]
  -- the keys are in ASCII
  have hkeys : ∀ key ∈ ["aud", "exp", "iat", "kind", "roles", "sub", "tenant_id"],
      Json.quote key = quoteAscii key := by decide
  rw [hshape]
  congr 3
  refine List.map_congr_left fun field hfield => ?_
  have hkey : field.1 ∈ (operatorFields audience tenantId roles now).map Prod.fst :=
    List.mem_map_of_mem hfield
  rw [Json.renderField, dumpsField, hkeys field.1 hkey]

theorem reads_operatorFields {audience tenantId : String} {roles : List String} {now : Nat}
    (hnow : now + 15 * 60 < 10 ^ 13) :
    ∀ field ∈ operatorFields audience tenantId roles now, Reads (readValue 15) field.2.1 field.2.2 := by
  have hroles : Reads (readValue 15) ('[' :: Json.commaSep (roles.map Json.quote) ++ [']'])
      (.list (roles.map .str)) := by
    have hitems : ∀ item ∈ roles.map fun role => (Json.quote role, PyValue.str role),
        Reads (readValue 14) item.1 item.2 := by
      intro item hitem
      obtain ⟨role, -, rfl⟩ := List.mem_map.mp hitem
      exact reads_quote role
    have hread := reads_list hitems
    simp only [List.map_map, Function.comp_def] at hread
    exact hread
  have hint : ∀ n : Nat, n < 10 ^ 13 →
      Reads (readValue 15) (toString (n : Int)).toList (.int n) := fun n hn =>
    reads_int (length_toString_le (by omega) (by omega))
  intro field hfield
  simp only [operatorFields, List.mem_cons, List.not_mem_nil, or_false] at hfield
  rcases hfield with rfl | rfl | rfl | rfl | rfl | rfl | rfl
  · exact reads_quote audience
  · exact hint _ hnow
  · exact hint _ (by omega)
  · exact reads_quote "user"
  · exact hroles
  · exact reads_quote operatorSubject
  · exact reads_quote tenantId

theorem readDocument_operatorPayload {audience tenantId : String} {roles : List String} {now : Nat}
    (hnow : now + 15 * 60 < 10 ^ 13) :
    readDocument (operatorPayload audience tenantId roles now).plain =
      some (.dict (tokenClaims audience operatorSubject tenantId .USER roles now
        (now + 15 * 60 : Nat))) := by
  rw [plain_operatorPayload]
  exact readDocument_of_reads (reads_dict (reads_operatorFields hnow) (by simp [operatorFields]))

theorem readDocument_tokenHeader :
    readDocument tokenHeader.plain = some (valueOf tokenHeader) := by
  have htext : tokenHeader.plain = dumps tokenHeader := by decide
  rw [htext]
  exact readDocument_of_reads (reads_dumps fits_tokenHeader)

/-! ## The gateway -/

theorem isName_of_isValidIdentifier {value : String} (h : isValidIdentifier value = true) :
    IsName value := by
  unfold isValidIdentifier at h
  split at h
  · cases h
  · next first rest hchars =>
    simp only [Bool.and_eq_true, decide_eq_true_eq, List.all_eq_true, Bool.or_eq_true,
      List.contains_iff_mem] at h
    obtain ⟨⟨hfirst, hshort⟩, hrest⟩ := h
    have hmarks : "._:-".toList.all (fun c => isWhiteSpace c == false) = true := by decide
    rw [List.all_eq_true] at hmarks
    have hkept : value.toList.all (fun c => !isWhiteSpace c) = true := by
      refine List.all_eq_true.mpr fun c hc => ?_
      rw [Bool.not_eq_true']
      rw [hchars, List.mem_cons] at hc
      rcases hc with rfl | hc
      · exact Admission.not_isWhiteSpace_of_isAlphanum hfirst
      · rcases hrest c hc with halnum | hmark
        · exact Admission.not_isWhiteSpace_of_isAlphanum halnum
        · exact eq_of_beq (hmarks c hmark)
    have hlength : value.length = rest.length + 1 := by
      rw [← String.length_toList, hchars, List.length_cons]
    exact ⟨Admission.stripWhitespace_of_all hkept, by omega, by omega⟩

theorem isName_operatorSubject : IsName operatorSubject := by
  constructor <;> decide +kernel

section

variable [TokenLibrary]

theorem LoadsUtf8.opens_iff (hloads : LoadsUtf8) {document : Json} {value : PyValue}
    (hreads : readDocument document.plain = some value) {opened : PyValue} :
    Opens (encodeBase64Url document) opened ↔ opened = value := by
  unfold Opens encodeBase64Url
  simp only [b64decode_b64encode, Except.ok.injEq, exists_eq_left', hloads _ _ hreads]
  exact eq_comm

variable {env : ProcessEnv} {verifier : HmacIdentityVerifier} {tenantId : String}
  {roles : List UserRole} {dateNow : Nat}

/-- The signature is genuine, so the claims decide. -/
theorem Shares.genuine_iff (hloads : LoadsUtf8) (h : Shares env verifier) {token : String}
    {names : List String} (hnow : dateNow ≤ 8640000000000000)
    (htoken : issueOperatorToken env dateNow tenantId names = .ok token) (later : Time)
    (identity : AuthenticatedIdentity) : verifier.Genuine later token identity ↔
      verifier.ValidClaims later (tokenClaims verifier.audience operatorSubject tenantId .USER names
        (dateNow / 1000 : Nat) (dateNow / 1000 + 15 * 60 : Nat)) identity := by
  have hclaims : readDocument
      (operatorPayload verifier.audience tenantId names (dateNow / 1000)).plain = _ :=
    readDocument_operatorPayload (by omega)
  obtain ⟨encodedHeader, encodedPayload, bytes, hheader, hpayload, hbytes, htoken⟩ := h.token_eq htoken
  have hparts : token.toList.splitOn '.' = [encodedHeader, encodedPayload,
      b64encode (TokenLibrary.hmacSha256 verifier.secret bytes)] := by
    rw [htoken]
    apply splitOn_parts
    · rw [hheader]
      exact dot_notMem_b64encode _
    · rw [hpayload]
      exact dot_notMem_b64encode _
    · exact dot_notMem_b64encode _
  rw [verifier.genuine_iff hparts]
  constructor
  · rintro ⟨-, -, claims, hopens, hvalid⟩
    rw [hpayload, hloads.opens_iff hclaims, PyValue.dict.injEq] at hopens
    rw [← hopens]
    exact hvalid
  · intro hvalid
    refine ⟨⟨bytes, hbytes, b64decode_b64encode _⟩, ⟨valueOf tokenHeader, ?_, rfl⟩, _, ?_, hvalid⟩
    · rw [hheader]
      exact (hloads.opens_iff readDocument_tokenHeader).mpr rfl
    · rw [hpayload]
      exact (hloads.opens_iff hclaims).mpr rfl

/-- Who an operator's token is for, and until when. -/
structure IsOperator (identity : AuthenticatedIdentity) (audience tenantId : String)
    (roles : List UserRole) (now : Nat) : Prop where
  isFor : identity.IsFor operatorSubject tenantId .USER roles audience
  issuedAt : identity.issuedAt = instantOf now
  expiresAt : identity.expiresAt = instantOf (now + 15 * 60 : Nat)

/-- When the gateway accepts the tower's token. -/
theorem Shares.accepts_iff (hloads : LoadsUtf8) (h : Shares env verifier)
    (haudience : IsName verifier.audience) (htenant : isValidIdentifier tenantId = true)
    (hroles : roles.Nodup) {token : String} (hnow : dateNow ≤ 8640000000000000)
    (htoken : issueOperatorToken env dateNow tenantId (roles.map UserRole.value) = .ok token)
    {later : Time} {identity : AuthenticatedIdentity} :
    verifier.verify later token = .ok identity ↔
      IsOperator identity verifier.audience tenantId roles (dateNow / 1000) ∧
      instantOf (dateNow / 1000 : Nat) ≤ later + Time.seconds 30 ∧
      later < instantOf (dateNow / 1000 + 15 * 60 : Nat) ∧ later + Time.seconds 30 < datetimeEnd ∧
      dateNow / 1000 + 15 * 60 ≤ 253402300799 ∧ Time.seconds (15 * 60) ≤ verifier.maximumLifetime := by
  have hname := isName_of_isValidIdentifier htenant
  have hlow : (-62135596800 : Int) ≤ (dateNow / 1000 : Nat) := by omega
  have hlow' : (-62135596800 : Int) ≤ (dateNow / 1000 + 15 * 60 : Nat) := by omega
  have hlifetime : instantOf (dateNow / 1000 + 15 * 60 : Nat) - instantOf (dateNow / 1000 : Nat) =
      Time.seconds (15 * 60) := by
    rw [instantOf_sub hlow hlow']
    congr 1
    omega
  have hpositive : instantOf (dateNow / 1000 : Nat) < instantOf (dateNow / 1000 + 15 * 60 : Nat) :=
    (instantOf_lt_iff hlow hlow').mpr (by omega)
  rw [verifier.verify_eq_ok_iff, h.genuine_iff hloads hnow htoken,
    verifier.validClaims_tokenClaims_iff haudience isName_operatorSubject hname hroles (.inl rfl),
    hlifetime]
  constructor
  · rintro ⟨hend, ⟨-, hissued⟩, ⟨hrange, hexpires⟩, hstart, hlive, hmaximum, -, hfor⟩
    exact ⟨⟨hfor, hissued, hexpires⟩, hstart, hlive, hend, by omega, hmaximum⟩
  · rintro ⟨hoperator, hstart, hlive, hend, hrange, hmaximum⟩
    exact ⟨hend, ⟨⟨hlow, by omega⟩, hoperator.issuedAt⟩, ⟨⟨hlow', by omega⟩, hoperator.expiresAt⟩,
      hstart, hlive, hmaximum, hpositive, hoperator.isFor⟩

end

/-! ## The same token -/

section

variable [TokenLibrary] {env : ProcessEnv} {verifier : HmacIdentityVerifier} {tenantId : String}
  {roles : List UserRole} {dateNow : Nat}

end

namespace OperatorDemo

def digest : List UInt8 :=
  [75, 92, 117, 111, 116, 150, 174, 119, 74, 236, 5, 66, 112, 153, 83, 27, 249, 123, 222, 49,
    246, 52, 227, 216, 210, 9, 66, 201, 3, 99, 17, 147]

def loadsBytes (bytes : List UInt8) : Except LoadsError PyValue :=
  match bytes.toByteArray.utf8Decode? with
  | some text =>
    match readDocument text.toList with
    | some value => .ok value
    | none => .error (.valueError "Expecting value")
  | none => .error (.valueError "invalid start byte")

local instance tokens : TokenLibrary where
  hmacSha256 _ _ := digest
  loads := loadsBytes
  intOfText _ := none
  length_hmacSha256 _ _ := rfl

def env : ProcessEnv := ⟨some "changeops-zürich ", some "tttttttttttttttttttttttttttttttt"⟩

def verifier : HmacIdentityVerifier where
  secret := List.replicate 32 116
  audience := "changeops-zürich"
  maximumLifetime := Time.seconds 3600
  secret_length := by decide
  audience_text := by decide +kernel

end OperatorDemo

end ChangeOps.ControlTower
