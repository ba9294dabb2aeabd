import GameGateway.Proofs.Text.Spelling
import GameGateway.Proofs.Token.Validity

/-!
# Issued tokens are good

A token that was made and signed under a secret is good wherever the secret is
accepted, its claims are admitted and the clock stands between its issue and its
expiry (`ProxyToken.inspect_encode`).  The text of a token is taken apart exactly as it
was put together, so nothing but the claims decides about it.

One thing does get lost on the way.  An optional claim that is the empty text is
written like one that is absent, and reads back as absent; `readBack` is what reads
back of claims.
-/

namespace GameGateway

/-! ## Claims -/

namespace Claims

theorem checkOptional_eq_ok_iff {field : String} {value : Option String} :
    checkOptional field value = .ok () ↔ ∀ text, value = some text → delimiter ∉ text.toList := by
  cases value with
  | none => simp [checkOptional]
  | some text => simp [checkOptional]

theorem optional_ofOptional (value : Option String) :
    optional (ofOptional value) = value.filter fun text => text ≠ "" := by
  cases value with
  | none => rfl
  | some text =>
      by_cases h : text = ""
      · simp [h, optional, ofOptional, Option.filter]
      · simp [h, optional, ofOptional, Option.filter]

theorem filter_ne_none_iff {value : Option String} :
    (value.filter fun text => text ≠ "") ≠ none ↔ ∃ text, value = some text ∧ text ≠ "" := by
  simp [Option.filter_eq_none_iff]

theorem delimiter_notMem_ofOptional {field : String} {value : Option String}
    (h : checkOptional field value = .ok ()) : delimiter ∉ ofOptional value := by
  cases value with
  | none => simp [ofOptional]
  | some text => exact checkOptional_eq_ok_iff.mp h text rfl

theorem delimiter_notMem_of_checkId {field value : String} (h : checkId field value = .ok ()) :
    delimiter ∉ value.toList := by
  unfold checkId at h
  split at h
  · cases h
  · exact checkOptional_eq_ok_iff.mp h value rfl

/-- The claims with which tokens of both kinds begin are written without the bar. -/
theorem delimiter_notMem_heads (version : UInt32) (player : Uuid) (issuedAt expiresAt : Millis)
    {field target : String} (h : checkId field target = .ok ()) :
    ∀ written ∈ [Decimal.ofUInt32 version, player.toChars, target.toList,
      Decimal.ofMillis issuedAt, Decimal.ofMillis expiresAt], delimiter ∉ written := by
  have hdigit : ∀ c : Char, c.isDigit = true → c ≠ delimiter := by
    rintro c hc rfl
    cases hc
  have htime : ∀ t, delimiter ∉ Decimal.ofMillis t := fun t hmem =>
    Decimal.forall_mem_ofMillis hdigit (by decide) t _ hmem rfl
  simp only [List.mem_cons, List.not_mem_nil, or_false]
  rintro written (rfl | rfl | rfl | rfl | rfl)
  · exact fun hmem => hdigit _ (Decimal.isDigit_of_mem_toDigits hmem) rfl
  · exact fun hmem => Uuid.forall_mem_toChars (P := fun c => c ≠ delimiter) (by decide)
      (by decide) _ _ hmem rfl
  · exact delimiter_notMem_of_checkId h
  · exact htime _
  · exact htime _

theorem split?_join {fields : List (List Char)} (hne : fields ≠ [])
    (h : ∀ field ∈ fields, delimiter ∉ field) : split? (join fields) = some fields := by
  rw [split?, join, Utf8.decode_encode, Option.map_some, String.toList_ofList,
    Fields.split_join delimiter hne h]

end Claims

namespace ProxyClaims

theorem check_eq_ok_iff {claims : ProxyClaims} :
    claims.check = .ok () ↔
      Claims.checkId "target_server_id" claims.target = .ok () ∧
      Claims.checkTimes claims.issuedAt claims.expiresAt = .ok () ∧
      Claims.checkOptional "client_cert_fingerprint" claims.clientCert = .ok () ∧
      Claims.checkOptional "proxy_cert_fingerprint" claims.proxyCert = .ok () ∧
      Claims.checkOptional "nonce" claims.nonce = .ok () := by
  simp only [check, bind_unit_eq_ok_iff]

/-- What reads back of claims: an empty text is as good as none. -/
def readBack (claims : ProxyClaims) : ProxyClaims :=
  { claims with
    clientCert := claims.clientCert.filter fun text => text ≠ ""
    proxyCert := claims.proxyCert.filter fun text => text ≠ ""
    nonce := claims.nonce.filter fun text => text ≠ "" }

theorem checkOptional_filter {field : String} {value : Option String} {keep : String → Bool}
    (h : Claims.checkOptional field value = .ok ()) :
    Claims.checkOptional field (value.filter keep) = .ok () := by
  rw [Claims.checkOptional_eq_ok_iff] at h ⊢
  intro text htext
  exact h text (Option.eq_some_of_filter_eq_some htext)

theorem check_readBack {claims : ProxyClaims} (h : claims.check = .ok ()) :
    claims.readBack.check = .ok () := by
  rw [check_eq_ok_iff] at h ⊢
  obtain ⟨htarget, htimes, hclient, hproxy, hnonce⟩ := h
  exact ⟨htarget, htimes, checkOptional_filter hclient, checkOptional_filter hproxy,
    checkOptional_filter hnonce⟩

end ProxyClaims

/-! ## Payloads -/

namespace ProxyToken

/-- The token that its payload spells. -/
def readBack (token : ProxyToken) : ProxyToken :=
  ⟨token.claims.readBack, ProxyClaims.check_readBack token.checked⟩

theorem claims?_payload (token : ProxyToken) :
    claims? token.payload = some token.claims.readBack := by
  obtain ⟨htarget, -, hclient, hproxy, hnonce⟩ := ProxyClaims.check_eq_ok_iff.mp token.checked
  have hheads := Claims.delimiter_notMem_heads token.claims.version token.claims.player
    token.claims.issuedAt token.claims.expiresAt htarget
  have hoptional : ∀ written ∈ [Claims.ofOptional token.claims.clientCert,
      Claims.ofOptional token.claims.proxyCert, Claims.ofOptional token.claims.nonce],
      Claims.delimiter ∉ written := by
    simp only [List.mem_cons, List.not_mem_nil, or_false]
    rintro written (rfl | rfl | rfl)
    · exact Claims.delimiter_notMem_ofOptional hclient
    · exact Claims.delimiter_notMem_ofOptional hproxy
    · exact Claims.delimiter_notMem_ofOptional hnonce
  have hfields := List.forall_mem_append.mpr ⟨hheads, hoptional⟩
  simp only [List.cons_append, List.nil_append] at hfields
  unfold claims? payload
  rw [Claims.split?_join (by simp) hfields]
  simp [Decimal.uint32?_ofUInt32, Uuid.ofChars?_toChars, Decimal.millis?_ofMillis,
    Claims.optional_ofOptional, ProxyClaims.readBack]

theorem ofClaims_eq_ok_iff {claims : ProxyClaims} {token : ProxyToken} :
    ofClaims claims = .ok token ↔ token.claims = claims := by
  unfold ofClaims
  split
  · constructor
    · intro h
      cases h
      rfl
    · rintro rfl
      rfl
  · rename_i e he
    constructor
    · intro h
      cases h
    · rintro rfl
      rw [token.checked] at he
      cases he

theorem ofPayload_payload (token : ProxyToken) : ofPayload token.payload = .ok token.readBack := by
  have hread : ofClaims token.claims.readBack = .ok token.readBack := ofClaims_eq_ok_iff.mpr rfl
  unfold ofPayload
  rw [claims?_payload]
  dsimp only
  rw [hread]
  rfl

theorem payload_ne_nil (token : ProxyToken) : token.payload ≠ [] := by
  intro h
  have hread := token.claims?_payload
  rw [h] at hread
  have hnone : claims? [] = none := by decide
  rw [hnone] at hread
  cases hread

end ProxyToken

/-! ## Texts -/

namespace SignedPayload

variable {kind : TokenKind} {signed : SignedPayload}

theorem shown_eq (word : String) (signed : SignedPayload) : signed.shown word =
    word ++ "." ++ Base64Url.encode signed.payload ++ "." ++ Base64Url.encode signed.signature := by
  apply String.toList_inj.mp
  simp [shown, Fields.join, Base64Url.encode]

theorem split_shown {word : String} (hword : '.' ∉ word.toList) (signed : SignedPayload) :
    Fields.split '.' (signed.shown word).toList = [word.toList,
      Base64Url.encodeChars signed.payload, Base64Url.encodeChars signed.signature] := by
  have hdot : ∀ bytes, '.' ∉ Base64Url.encodeChars bytes := fun bytes hmem =>
    Base64Url.forall_mem_encodeChars (P := fun c => c ≠ '.') (by decide) bytes _ hmem rfl
  rw [shown, String.toList_ofList, Fields.split_join '.' (by simp)]
  simp only [List.mem_cons, List.not_mem_nil, or_false]
  rintro field (rfl | rfl | rfl)
  · exact hword
  · exact hdot _
  · exact hdot _

theorem readBehind?_shown {word : String} (hword : '.' ∉ word.toList)
    (h : signed.payload ≠ []) : readBehind? word (signed.shown word) = .ok signed := by
  unfold readBehind?
  rw [split_shown hword]
  simp only [ne_eq, not_true_eq_false, ↓reduceIte, Base64Url.decodeChars_encodeChars]

theorem ofText?_text (h : signed.payload ≠ []) : ofText? kind (signed.text kind) = .ok signed := by
  have htag : '.' ∉ kind.tag.toList := by
    cases kind <;> decide
  exact readBehind?_shown htag h

theorem signedByAny_sign {secret : Bytes} {accepted : List Bytes} (h : secret ∈ accepted)
    (payload : Bytes) : (sign secret payload).signedByAny accepted = true :=
  List.any_eq_true.mpr ⟨secret, h, Hmac.verify_eq_true_iff.mpr rfl⟩

/-- When a payload is signed under an accepted secret and can be read, the check on what was
read decides. -/
theorem validation_text {τ β : Type} {accepted : List Bytes}
    {read : Bytes → Except TokenRejection τ} {token : τ}
    (check : τ → Except TokenRejection Unit) (result : SignedPayload → τ → β)
    (hne : signed.payload ≠ []) (hsigned : signed.signedByAny accepted = true)
    (hread : read signed.payload = .ok token) :
    (do
      let signed ← ofText? kind (signed.text kind)
      if !signed.signedByAny accepted then throw (TokenRejection.signature kind)
      let token ← read signed.payload
      check token
      return result signed token) = (check token).map fun _ => result signed token := by
  rw [ofText?_text hne]
  simp only [bind, Except.bind, hsigned, hread, Bool.not_true, Bool.false_eq_true, ↓reduceIte]
  rfl

end SignedPayload

namespace ProxyToken

variable {policy : TokenPolicy} {accepted : List Bytes} {secret : Bytes} {now : Millis}

/-- What a good token with the given text is taken for. -/
def validated (policy : TokenPolicy) (secret : Bytes) (token : ProxyToken) : ValidatedToken :=
  ⟨token.readBack, policy.useOf token.readBack (Hmac.sign secret token.payload).bytes⟩

/-- Once it is signed under an accepted secret, the claims decide about a token. -/
theorem validate_encode (token : ProxyToken) (hsecret : secret ∈ accepted) :
    policy.validate accepted now (token.encode secret) =
      (policy.checkClaims now token.claims.readBack).map
        fun _ => token.validated policy secret :=
  SignedPayload.validation_text (fun found : ProxyToken => policy.checkClaims now found.claims)
    (fun signed found => ValidatedToken.mk found (policy.useOf found signed.signature))
    token.payload_ne_nil (SignedPayload.signedByAny_sign hsecret token.payload)
    token.ofPayload_payload

/-! ## What a client shows -/

theorem toList_encode (token : ProxyToken) (secret : Bytes) :
    (token.encode secret).toList = 'v' :: '1' :: '.' ::
      (Base64Url.encodeChars token.payload ++
        '.' :: Base64Url.encodeChars (Hmac.sign secret token.payload).bytes) := by
  rw [encode, SignedPayload.text, SignedPayload.shown, String.toList_ofList]
  rfl

/-- No byte of a token's text is blank. -/
theorem isBlankByte_of_mem_encode {token : ProxyToken} {byte : UInt8}
    (h : byte ∈ Utf8.encode (token.encode secret)) : Handshake.isBlankByte byte = false := by
  have hdigit : ∀ bytes, ∀ c ∈ Base64Url.encodeChars bytes,
      c.toNat < 128 ∧ Handshake.isBlankByte (UInt8.ofNat c.toNat) = false :=
    Base64Url.forall_mem_encodeChars (by decide)
  have hchars : ∀ c ∈ (token.encode secret).toList,
      c.toNat < 128 ∧ Handshake.isBlankByte (UInt8.ofNat c.toNat) = false := by
    intro c hc
    simp only [toList_encode, List.mem_cons, List.mem_append] at hc
    rcases hc with rfl | rfl | rfl | hc | rfl | hc
    · decide
    · decide
    · decide
    · exact hdigit _ c hc
    · decide
    · exact hdigit _ c hc
  rw [← String.ofList_toList (s := token.encode secret)] at h
  obtain ⟨c, hc, rfl⟩ := Utf8.mem_encode_ofList (fun c hc => (hchars c hc).1) h
  exact (hchars c hc).2

/-- The text of a token is what a client shows with it. -/
theorem trimWhere_encode (token : ProxyToken) (secret : Bytes) :
    Text.trimWhere Handshake.isBlankByte (Utf8.encode (token.encode secret)) =
      Utf8.encode (token.encode secret) :=
  Text.trimWhere_eq_self fun _ => isBlankByte_of_mem_encode

theorem encode_ne_nil (token : ProxyToken) (secret : Bytes) :
    Utf8.encode (token.encode secret) ≠ [] := by
  intro hnil
  have hempty : token.encode secret = "" := Utf8.encode_inj.mp hnil
  have hchars := token.toList_encode secret
  rw [hempty] at hchars
  cases hchars

/-- A client that shows the text of a token shows a good token while the token holds. -/
theorem inspect_encode {token : ProxyToken} (hsecret : secret ∈ accepted)
    (hadmits : policy.Admits token.claims.readBack)
    (hholds : token.claims.issuedAt ≤ now ∧ now ≤ token.claims.expiresAt)
    {claimed : Option Uuid} (hplayer : ∀ player, claimed = some player →
      player = token.claims.player) :
    Handshake.inspect policy accepted now (some (Utf8.encode (token.encode secret))) claimed =
      .ok (token.validated policy secret) := by
  have hclaims : policy.checkClaims now token.claims.readBack = .ok () :=
    TokenPolicy.checkClaims_eq_ok_iff.mpr ⟨hadmits, hholds⟩
  refine Handshake.inspect_eq_ok_iff.mpr ⟨?_, token.encode secret, ?_, ?_, hplayer⟩
  · rw [Option.getD_some, trimWhere_encode]
    exact encode_ne_nil token secret
  · rw [Option.getD_some, trimWhere_encode, Utf8.decode_encode]
  · rw [validate_encode token hsecret, hclaims]
    rfl

/-- A client that shows the text of a token with claims that do not pass is told why. -/
theorem inspect_encode_of_error {token : ProxyToken} (hsecret : secret ∈ accepted)
    {rejection : TokenRejection}
    (hclaims : policy.checkClaims now token.claims.readBack = .error rejection)
    (claimed : Option Uuid) :
    Handshake.inspect policy accepted now (some (Utf8.encode (token.encode secret))) claimed =
      .error rejection := by
  have hsome : Text.trimWhere Handshake.isBlankByte
      ((some (Utf8.encode (token.encode secret))).getD []) ≠ [] := by
    rw [Option.getD_some, trimWhere_encode]
    exact encode_ne_nil token secret
  have hdecode : Utf8.decode (Text.trimWhere Handshake.isBlankByte
      ((some (Utf8.encode (token.encode secret))).getD [])) = some (token.encode secret) := by
    rw [Option.getD_some, trimWhere_encode, Utf8.decode_encode]
  have hvalidate : policy.validate accepted now (token.encode secret) = .error rejection := by
    rw [validate_encode token hsecret, hclaims]
    rfl
  exact Handshake.inspect_eq_error hsome hdecode hvalidate

end ProxyToken

end GameGateway
