import GameGateway.Proofs.Token.Checks

/-!
# Tokens in flight while secrets rotate

Issuer and validator share their secrets, and between an issue and a validation these may be
rotated and retired any number of times.  What is accepted afterwards is read off the calls
(`Secrets.mem_accepted_after_iff`): a secret goes when a retirement follows the rotation that
replaced it, and not before.  Everything else about a token in flight is the clock
(`Secrets.rotation_exact`).

A validator sees the tag of a secret and not the secret.  Two secrets can give one tag, for
the shorter of them is filled up with zeros, so `SignedAlone` has to be assumed.
-/

namespace GameGateway

/-- What an issuer of proxy tokens is asked for. -/
structure ProxyOrder where
  ttl : Millis
  now : Millis
  nonce : Nonce
  player : Uuid
  target : String
  clientCert : Option String
  proxyCert : Option String

/-- What an issuer of transfer tokens is asked for. -/
structure TransferOrder where
  ttl : Millis
  now : Millis
  player : Uuid
  target : String

/-- The calls to an issuer and a validator that share their secrets. -/
inductive SecretsCall where
  | rotate (next : Bytes)
  | retire
  | issueProxy (order : ProxyOrder)
  | issueTransfer (order : TransferOrder)
  | validateProxy (policy : TokenPolicy) (now : Millis) (text : String)
  | validateTransfer (now : Millis) (player : Uuid) (text : String)

/-- What comes back from a call. -/
inductive SecretsAnswer where
  | done
  | issued (outcome : Except TokenError String)
  | proxy (outcome : Except TokenRejection ValidatedToken)
  | transfer (outcome : Except TokenRejection TransferToken)

def ProxyOrder.issue (secret : Bytes) (order : ProxyOrder) : Except TokenError String :=
  ProxyToken.issue secret order.ttl order.now order.nonce order.player order.target
    order.clientCert order.proxyCert

def TransferOrder.issue (secret : Bytes) (order : TransferOrder) : Except TokenError String :=
  TransferToken.issue secret order.ttl order.now order.player order.target

namespace Secrets

def answer (secrets : Secrets) : SecretsCall → SecretsAnswer
  | .rotate _ | .retire => .done
  | .issueProxy order => .issued (order.issue secrets.current)
  | .issueTransfer order => .issued (order.issue secrets.current)
  | .validateProxy policy now text => .proxy (policy.validate secrets.accepted now text)
  | .validateTransfer now player text =>
      .transfer (TransferToken.validate secrets.accepted now player text)

def perform (secrets : Secrets) : SecretsCall → Secrets
  | .rotate next => secrets.rotate next
  | .retire => secrets.retire
  | _ => secrets

/-- The secrets after some calls, the first one first. -/
def after (secrets : Secrets) (calls : List SecretsCall) : Secrets := calls.foldl perform secrets

end Secrets

/-! ## What the calls leave accepted -/

theorem exists_eq_append_cons_iff {α : Type} {x y : α} {rest : List α} {P : List α → Prop} :
    (∃ before after, y :: rest = before ++ x :: after ∧ P after) ↔
      (y = x ∧ P rest) ∨ ∃ before after, rest = before ++ x :: after ∧ P after := by
  constructor
  · rintro ⟨before, after, heq, hP⟩
    cases before with
    | nil =>
        obtain ⟨rfl, rfl⟩ := List.cons.inj heq
        exact .inl ⟨rfl, hP⟩
    | cons first before =>
        obtain ⟨rfl, rfl⟩ := List.cons.inj heq
        exact .inr ⟨before, after, rfl, hP⟩
  · rintro (⟨rfl, hP⟩ | ⟨before, after, rfl, hP⟩)
    · exact ⟨[], rest, rfl, hP⟩
    · exact ⟨y :: before, after, rfl, hP⟩

/-- A retirement follows a rotation, so that the secret from before the calls is gone. -/
def SecretsCall.Retires (calls : List SecretsCall) : Prop :=
  ∃ next before after, calls = before ++ .rotate next :: after ∧ .retire ∈ after

namespace Secrets

open SecretsCall (Retires)

variable {secrets : Secrets} {secret : Bytes} {call : SecretsCall} {calls rest : List SecretsCall}

theorem retires_cons_iff :
    Retires (call :: rest) ↔ (∃ next, call = .rotate next ∧ .retire ∈ rest) ∨ Retires rest := by
  unfold Retires
  simp only [exists_eq_append_cons_iff, exists_or]

theorem retire_mem_of_retires (h : Retires calls) : .retire ∈ calls := by
  obtain ⟨next, before, after, rfl, hmem⟩ := h
  exact List.mem_append_right _ (List.mem_cons_of_mem _ hmem)

theorem retires_rotate_cons_iff {next : Bytes} :
    Retires (.rotate next :: rest) ↔ .retire ∈ rest := by
  rw [retires_cons_iff]
  constructor
  · rintro (⟨_, _, hmem⟩ | h)
    · exact hmem
    · exact retire_mem_of_retires h
  · exact fun hmem => .inl ⟨next, rfl, hmem⟩

theorem retires_cons_of_ne (h : ∀ next, call ≠ .rotate next) :
    Retires (call :: rest) ↔ Retires rest := by
  rw [retires_cons_iff]
  exact or_iff_right fun ⟨next, hnext, _⟩ => h next hnext

/-- What is accepted after some calls, read off the calls: the current secret unless they
retire it, the previous ones unless anything is retired, and every secret to which the calls
rotate and which they do not retire afterwards. -/
theorem mem_accepted_after_iff :
    secret ∈ (secrets.after calls).accepted ↔
      (secret = secrets.current ∧ ¬ Retires calls) ∨
      (secret ∈ secrets.previous ∧ .retire ∉ calls) ∨
      ∃ before after, calls = before ++ .rotate secret :: after ∧ ¬ Retires after := by
  induction calls generalizing secrets with
  | nil => simp [after, accepted, Retires]
  | cons call rest ih =>
      change secret ∈ ((secrets.perform call).after rest).accepted ↔ _
      rw [ih, exists_eq_append_cons_iff, List.mem_cons, not_or]
      cases call with
      | rotate next =>
          simp only [perform, rotate, accepted, List.mem_cons, retires_rotate_cons_iff,
            SecretsCall.rotate.injEq, reduceCtorEq, not_false_eq_true, true_and]
          grind
      | retire => simp [perform, retire, retires_cons_of_ne]
      | _ => simp [perform, retires_cons_of_ne]

/-- The secret that was current before some calls is gone when they retire it, unless they
have come back to it. -/
theorem current_mem_accepted_after_iff :
    secrets.current ∈ (secrets.after calls).accepted ↔
      ¬ Retires calls ∨
      ∃ before after, calls = before ++ .rotate secrets.current :: after ∧ ¬ Retires after := by
  rw [mem_accepted_after_iff]
  constructor
  · rintro (⟨-, h⟩ | ⟨-, h⟩ | h)
    · exact .inl h
    · exact .inl (mt retire_mem_of_retires h)
    · exact .inr h
  · rintro (h | h)
    · exact .inl ⟨rfl, h⟩
    · exact .inr (.inr h)

end Secrets

/-! ## Signatures -/

namespace SignedPayload

variable {kind : TokenKind} {secret payload : Bytes} {accepted : List Bytes}

/-- No other one of the accepted secrets gives the tag that the secret gives on the payload of
the text. -/
def SignedAlone (kind : TokenKind) (text : String) (secret : Bytes) (accepted : List Bytes) :
    Prop :=
  ∀ signed : SignedPayload, signed.ShownIn kind text → ∀ other ∈ accepted,
    Hmac.sign other signed.payload = Hmac.sign secret signed.payload → other = secret

theorem shownIn_sign (h : payload ≠ []) :
    (sign secret payload).ShownIn kind ((sign secret payload).text kind) :=
  ⟨h, rfl⟩

theorem SignedAlone.of_sign (hne : payload ≠ []) (h : ∀ other ∈ accepted, other ≠ secret →
    Hmac.sign other payload ≠ Hmac.sign secret payload) :
    SignedAlone kind ((sign secret payload).text kind) secret accepted := by
  intro signed hshown other hother hsame
  rw [(shownIn_sign hne).unique hshown] at hsame
  exact Decidable.byContradiction fun hdiffers => h other hother hdiffers hsame

theorem SignedAlone.subset {text : String} {fewer : List Bytes} (hsubset : fewer ⊆ accepted)
    (h : SignedAlone kind text secret accepted) : SignedAlone kind text secret fewer :=
  fun signed hshown other hother => h signed hshown other (hsubset hother)

theorem signedByAny_sign_eq_false (hne : payload ≠ [])
    (halone : SignedAlone kind ((sign secret payload).text kind) secret accepted)
    (hsecret : secret ∉ accepted) : (sign secret payload).signedByAny accepted = false := by
  rw [← Bool.not_eq_true, signedByAny_eq_true_iff]
  rintro ⟨other, hother, hbytes⟩
  have hsame : Hmac.sign other payload = Hmac.sign secret payload := Block.ext hbytes.symm
  rw [halone _ (shownIn_sign hne) other hother hsame] at hother
  exact hsecret hother

end SignedPayload

/-! ## Tokens of both kinds -/

open SignedPayload (SignedAlone)
open SecretsCall (Retires)

/-- The outcome for a token that holds from one instant until another and that was signed
under the given secret: it is good exactly if it suits the validator, the clock is right and
the secret is accepted, and if the secret is not accepted it is refused for its signature. -/
structure TokenInFlight {α : Type} (kind : TokenKind) (suits : Prop)
    (issuedAt expiresAt now : Millis) (secret : Bytes) (accepted : List Bytes)
    (outcome : Except TokenRejection α) : Prop where
  good : (∃ a, outcome = .ok a) ↔
    suits ∧ (issuedAt ≤ now ∧ now ≤ expiresAt) ∧ secret ∈ accepted
  unsigned : secret ∉ accepted → outcome = .error (.signature kind)

section Validation

variable {τ β : Type} {kind : TokenKind} {suits : Prop} {issuedAt expiresAt now : Millis}
  {secret payload : Bytes} {accepted : List Bytes} {token : τ}
  {read : Bytes → Except TokenRejection τ} {check : τ → Except TokenRejection Unit}

/-- What the validation of a token comes to, whatever its kind, when the token was signed under
a secret and its payload reads: the signature depends on the secret, and the rest on the
claims. -/
theorem tokenInFlight_validation (result : SignedPayload → τ → β) (hne : payload ≠ [])
    (hread : read payload = .ok token)
    (hcheck : check token = .ok () ↔ suits ∧ issuedAt ≤ now ∧ now ≤ expiresAt)
    (halone : SignedAlone kind ((SignedPayload.sign secret payload).text kind) secret accepted) :
    TokenInFlight kind suits issuedAt expiresAt now secret accepted (do
      let signed ← SignedPayload.ofText? kind ((SignedPayload.sign secret payload).text kind)
      if !signed.signedByAny accepted then throw (.signature kind)
      let token ← read signed.payload
      check token
      return result signed token) := by
  have hpayload : read (SignedPayload.sign secret payload).payload = .ok token := hread
  rw [SignedPayload.ofText?_text hne]
  by_cases hsecret : secret ∈ accepted
  · refine ⟨?_, fun hmissing => absurd hsecret hmissing⟩
    have hsigned := SignedPayload.signedByAny_sign hsecret payload
    simp only [bind, Except.bind, hsigned, hpayload, Bool.not_true, Bool.false_eq_true, ↓reduceIte]
    change (∃ b, (check token).map (fun _ => result (SignedPayload.sign secret payload) token) =
      .ok b) ↔ _
    rw [exists_map_eq_ok_iff, hcheck]
    simp [hsecret]
  · have hunsigned := SignedPayload.signedByAny_sign_eq_false hne halone hsecret
    simp only [bind, Except.bind, hunsigned]
    refine ⟨⟨nofun, fun h => absurd h.2.2 hsecret⟩, fun _ => rfl⟩

end Validation

namespace ProxyOrder

variable {order : ProxyOrder} {secret : Bytes} {text : String} {policy : TokenPolicy}

/-- The claims of the token that is asked for. -/
def claims (order : ProxyOrder) : ProxyClaims :=
  ⟨Claims.currentVersion, order.player, order.target, order.now,
    order.now.saturatingAdd (max 1 order.ttl), order.clientCert, order.proxyCert,
    some (Base64Url.encode order.nonce.bytes)⟩

/-- The token is for the validator's backend, and names both certificates if the validator
requires them. -/
def Suits (order : ProxyOrder) (policy : TokenPolicy) : Prop :=
  order.target = policy.serverId ∧ (policy.requireCertificates = true →
    (∃ name, order.clientCert = some name ∧ name ≠ "") ∧
      ∃ name, order.proxyCert = some name ∧ name ≠ "")

theorem issue_eq_ok_iff : order.issue secret = .ok text ↔
    ∃ token : ProxyToken, token.claims = order.claims ∧ text = token.encode secret := by
  unfold issue ProxyToken.issue
  rw [bind_eq_ok_iff]
  refine exists_congr fun token => and_congr ProxyToken.ofClaims_eq_ok_iff ?_
  exact ⟨fun h => (Except.ok.inj h).symm, fun h => congrArg Except.ok h.symm⟩

theorem admits_readBack_iff : policy.Admits order.claims.readBack ↔ order.Suits policy := by
  constructor
  · intro h
    refine ⟨h.target, fun hrequired => ?_⟩
    obtain ⟨hclient, hproxy⟩ := h.certificates hrequired
    exact ⟨Claims.filter_ne_none_iff.mp hclient, Claims.filter_ne_none_iff.mp hproxy⟩
  · rintro ⟨htarget, hcerts⟩
    refine ⟨rfl, fun hrequired => ?_, htarget⟩
    obtain ⟨hclient, hproxy⟩ := hcerts hrequired
    exact ⟨Claims.filter_ne_none_iff.mpr hclient, Claims.filter_ne_none_iff.mpr hproxy⟩

theorem inFlight {accepted : List Bytes} {now : Millis} (h : order.issue secret = .ok text)
    (halone : SignedAlone .proxy text secret accepted) :
    TokenInFlight .proxy (order.Suits policy) order.now
      (order.now.saturatingAdd (max 1 order.ttl)) now secret accepted
      (policy.validate accepted now text) := by
  obtain ⟨token, hclaims, rfl⟩ := issue_eq_ok_iff.mp h
  have hcheck : policy.checkClaims now token.readBack.claims = .ok () ↔ order.Suits policy ∧
      order.now ≤ now ∧ now ≤ order.now.saturatingAdd (max 1 order.ttl) := by
    change policy.checkClaims now token.claims.readBack = .ok () ↔ _
    rw [TokenPolicy.checkClaims_eq_ok_iff, hclaims, admits_readBack_iff]
    rfl
  exact tokenInFlight_validation _ token.payload_ne_nil token.ofPayload_payload hcheck halone

end ProxyOrder

namespace TransferOrder

variable {order : TransferOrder} {secret : Bytes} {text : String} {accepted : List Bytes}
  {now : Millis} {player : Uuid}

/-- The claims of the token that is asked for. -/
def claims (order : TransferOrder) : TransferClaims :=
  ⟨Claims.currentVersion, order.player, order.target, order.now,
    order.now.saturatingAdd (max 1 order.ttl)⟩

theorem issue_eq_ok_iff : order.issue secret = .ok text ↔
    ∃ token : TransferToken, token.claims = order.claims ∧ text = token.encode secret := by
  unfold issue TransferToken.issue
  rw [bind_eq_ok_iff]
  refine exists_congr fun token => and_congr TransferToken.ofClaims_eq_ok_iff ?_
  exact ⟨fun h => (Except.ok.inj h).symm, fun h => congrArg Except.ok h.symm⟩

theorem inFlight (h : order.issue secret = .ok text)
    (halone : SignedAlone .transfer text secret accepted) :
    TokenInFlight .transfer (order.player = player) order.now
      (order.now.saturatingAdd (max 1 order.ttl)) now secret accepted
      (TransferToken.validate accepted now player text) := by
  obtain ⟨token, hclaims, rfl⟩ := issue_eq_ok_iff.mp h
  have hcheck : TransferToken.checkClaims player now token.claims = .ok () ↔
      order.player = player ∧ order.now ≤ now ∧
        now ≤ order.now.saturatingAdd (max 1 order.ttl) := by
    rw [TransferToken.checkClaims_eq_ok_iff, hclaims]
    exact and_iff_right rfl
  have hread : TransferToken.ofPayload token.payload = .ok token :=
    TransferToken.ofPayload_eq_ok_iff.mpr token.spelledBy_payload
  exact tokenInFlight_validation _ token.payload_ne_nil hread hcheck halone

end TransferOrder

/-! ## Runs -/

/-- Some calls keep a secret that was current before them: they do not retire it, or they
rotate back to it and do not retire it then. -/
def SecretsCall.Keep (secret : Bytes) (calls : List SecretsCall) : Prop :=
  ¬ Retires calls ∨ ∃ before after, calls = before ++ .rotate secret :: after ∧ ¬ Retires after

namespace Secrets

open SecretsCall (Keep)

theorem after_append_cons (secrets : Secrets) (before rest : List SecretsCall)
    {call : SecretsCall} (hsame : ∀ s : Secrets, s.perform call = s) :
    secrets.after (before ++ call :: rest) = (secrets.after before).after rest := by
  rw [after, List.foldl_append, List.foldl_cons, hsame]
  rfl

/-- **Rotation spares the tokens in flight, retirement does not.**  Whatever is called before
an issue and between it and a validation: a token that suits the validator is good exactly if
the clock stands between its issue and its expiry and the secret it was signed under is still
accepted, and without that secret it is refused for its signature at any time.  The secret is
still accepted unless a retirement has followed the rotation that replaced it. -/
theorem rotation_exact (start : Secrets) (before between : List SecretsCall) :
    (∀ (order : ProxyOrder) (text : String) (policy : TokenPolicy) (now : Millis),
      (start.after before).answer (.issueProxy order) = .issued (.ok text) →
      SignedAlone .proxy text (start.after before).current
        (start.after (before ++ .issueProxy order :: between)).accepted →
      ∃ outcome, (start.after (before ++ .issueProxy order :: between)).answer
          (.validateProxy policy now text) = .proxy outcome ∧
        TokenInFlight .proxy (order.Suits policy) order.now
          (order.now.saturatingAdd (max 1 order.ttl)) now (start.after before).current
          (start.after (before ++ .issueProxy order :: between)).accepted outcome ∧
        ((start.after before).current ∈
            (start.after (before ++ .issueProxy order :: between)).accepted ↔
          Keep (start.after before).current between)) ∧
    ∀ (order : TransferOrder) (text : String) (player : Uuid) (now : Millis),
      (start.after before).answer (.issueTransfer order) = .issued (.ok text) →
      SignedAlone .transfer text (start.after before).current
        (start.after (before ++ .issueTransfer order :: between)).accepted →
      ∃ outcome, (start.after (before ++ .issueTransfer order :: between)).answer
          (.validateTransfer now player text) = .transfer outcome ∧
        TokenInFlight .transfer (order.player = player) order.now
          (order.now.saturatingAdd (max 1 order.ttl)) now (start.after before).current
          (start.after (before ++ .issueTransfer order :: between)).accepted outcome ∧
        ((start.after before).current ∈
            (start.after (before ++ .issueTransfer order :: between)).accepted ↔
          Keep (start.after before).current between) := by
  constructor
  · intro order text policy now hissued halone
    rw [after_append_cons start before between fun _ => rfl] at halone ⊢
    have hissue : order.issue (start.after before).current = .ok text := by
      injection hissued
    exact ⟨_, rfl, ProxyOrder.inFlight hissue halone, current_mem_accepted_after_iff⟩
  · intro order text player now hissued halone
    rw [after_append_cons start before between fun _ => rfl] at halone ⊢
    have hissue : order.issue (start.after before).current = .ok text := by
      injection hissued
    exact ⟨_, rfl, TransferOrder.inFlight hissue halone, current_mem_accepted_after_iff⟩

/-- A proxy token for the lobby; `backToLobby` is a transfer token for it. -/
def toLobby : ProxyOrder where
  ttl := 60000
  now := 1000
  nonce := ⟨List.replicate 16 7, rfl⟩
  player := .ofNat 7
  target := "lobby"
  clientCert := none
  proxyCert := none

def backToLobby : TransferOrder := ⟨30000, 1000, .ofNat 7, "lobby"⟩

def toLobbyToken : ProxyToken := ⟨toLobby.claims, rfl⟩

def backToLobbyToken : TransferToken := ⟨backToLobby.claims, rfl⟩

def onlyOne : Secrets := ⟨[1], []⟩

/-- Two rotations with an issue between them. -/
def rotatedTwice : List SecretsCall := [.rotate [2], .issueTransfer backToLobby, .rotate [3]]

def thenRetired : List SecretsCall := rotatedTwice ++ [.retire]

theorem rotation_exact_twice :
    (∃ text, onlyOne.answer (.issueProxy toLobby) = .issued (.ok text) ∧
      (∃ validated, (onlyOne.after (.issueProxy toLobby :: rotatedTwice)).answer
        (.validateProxy ⟨"lobby", false⟩ 61000 text) = .proxy (.ok validated)) ∧
      (onlyOne.after (.issueProxy toLobby :: thenRetired)).answer
        (.validateProxy ⟨"lobby", false⟩ 1000 text) = .proxy (.error (.signature .proxy))) ∧
    ∃ text, onlyOne.answer (.issueTransfer backToLobby) = .issued (.ok text) ∧
      (∃ token, (onlyOne.after (.issueTransfer backToLobby :: rotatedTwice)).answer
        (.validateTransfer 31000 (.ofNat 7) text) = .transfer (.ok token)) ∧
      (onlyOne.after (.issueTransfer backToLobby :: thenRetired)).answer
        (.validateTransfer 1000 (.ofNat 7) text) = .transfer (.error (.signature .transfer)) := by
  have hfewer : ([[3]] : List Bytes) ⊆ [[3], [2], [1]] := by decide
  have hproxy : onlyOne.answer (.issueProxy toLobby) = .issued (.ok (toLobbyToken.encode [1])) :=
    congrArg SecretsAnswer.issued (ProxyOrder.issue_eq_ok_iff.mpr ⟨toLobbyToken, rfl, rfl⟩)
  have hproxyAlone : SignedAlone .proxy (toLobbyToken.encode [1]) [1] [[3], [2], [1]] :=
    SignedAlone.of_sign toLobbyToken.payload_ne_nil (by decide +kernel)
  have htransfer : onlyOne.answer (.issueTransfer backToLobby) =
      .issued (.ok (backToLobbyToken.encode [1])) :=
    congrArg SecretsAnswer.issued (TransferOrder.issue_eq_ok_iff.mpr ⟨backToLobbyToken, rfl, rfl⟩)
  have htransferAlone : SignedAlone .transfer (backToLobbyToken.encode [1]) [1] [[3], [2], [1]] :=
    SignedAlone.of_sign backToLobbyToken.payload_ne_nil (by decide +kernel)
  refine ⟨⟨_, hproxy, ?_, ?_⟩, ⟨_, htransfer, ?_, ?_⟩⟩
  · obtain ⟨outcome, houtcome, hflight, -⟩ := (rotation_exact onlyOne [] rotatedTwice).1
      toLobby _ ⟨"lobby", false⟩ 61000 hproxy hproxyAlone
    obtain ⟨validated, rfl⟩ := hflight.good.mpr ⟨⟨rfl, nofun⟩, by decide, by decide⟩
    exact ⟨validated, houtcome⟩
  · obtain ⟨outcome, houtcome, hflight, -⟩ := (rotation_exact onlyOne [] thenRetired).1
      toLobby _ ⟨"lobby", false⟩ 1000 hproxy (hproxyAlone.subset hfewer)
    rw [hflight.unsigned (by decide)] at houtcome
    exact houtcome
  · obtain ⟨outcome, houtcome, hflight, -⟩ := (rotation_exact onlyOne [] rotatedTwice).2
      backToLobby _ (.ofNat 7) 31000 htransfer htransferAlone
    obtain ⟨token, rfl⟩ := hflight.good.mpr ⟨rfl, by decide, by decide⟩
    exact ⟨token, houtcome⟩
  · obtain ⟨outcome, houtcome, hflight, -⟩ := (rotation_exact onlyOne [] thenRetired).2
      backToLobby _ (.ofNat 7) 1000 htransfer (htransferAlone.subset hfewer)
    rw [hflight.unsigned (by decide)] at houtcome
    exact houtcome

end Secrets

end GameGateway
