import GameGateway.Guard.ReplayWindow
import GameGateway.Token.Claims
import GameGateway.Token.Secrets
import GameGateway.Token.SignedText
import GameGateway.Wire.Envelope

/-!
# Proxy tokens

With a proxy token the proxy tells one backend that it sends a certain player.  The
token holds for a span of time and names the certificates of client and proxy, if
there are any.

A token is validated in a fixed order: shape, signature, claims, version,
certificates, beginning, end, target.  The first condition that fails is the one
that is told.
-/

namespace GameGateway

/-- What a proxy token claims. -/
structure ProxyClaims where
  version : UInt32
  player : Uuid
  target : String
  issuedAt : Millis
  expiresAt : Millis
  clientCert : Option String
  proxyCert : Option String
  nonce : Option String
deriving DecidableEq

/-- Refuses claims that would not read back. -/
def ProxyClaims.check (claims : ProxyClaims) : Except TokenError Unit := do
  Claims.checkId "target_server_id" claims.target
  Claims.checkTimes claims.issuedAt claims.expiresAt
  Claims.checkOptional "client_cert_fingerprint" claims.clientCert
  Claims.checkOptional "proxy_cert_fingerprint" claims.proxyCert
  Claims.checkOptional "nonce" claims.nonce

/-- Claims that passed the check. -/
structure ProxyToken where
  claims : ProxyClaims
  checked : claims.check = .ok ()
deriving DecidableEq

namespace ProxyToken

/-- The token that makes the given claims. -/
def ofClaims (claims : ProxyClaims) : Except TokenError ProxyToken :=
  match h : claims.check with
  | .ok () => .ok ⟨claims, h⟩
  | .error e => .error e

/-- The claims as they are signed. -/
def payload (token : ProxyToken) : Bytes :=
  let c := token.claims
  Claims.join [Decimal.ofUInt32 c.version, c.player.toChars, c.target.toList,
    Decimal.ofMillis c.issuedAt, Decimal.ofMillis c.expiresAt, Claims.ofOptional c.clientCert,
    Claims.ofOptional c.proxyCert, Claims.ofOptional c.nonce]

/-- The claims that a payload spells. -/
def claims? (payload : Bytes) : Option ProxyClaims := do
  match ← Claims.split? payload with
  | [version, player, target, issuedAt, expiresAt, clientCert, proxyCert, nonce] =>
      let version ← Decimal.uint32? version
      let player ← Uuid.ofChars? player
      let issuedAt ← Decimal.millis? issuedAt
      let expiresAt ← Decimal.millis? expiresAt
      some ⟨version, player, String.ofList target, issuedAt, expiresAt,
        Claims.optional clientCert, Claims.optional proxyCert, Claims.optional nonce⟩
  | _ => none

/-- The token that a payload spells. -/
def ofPayload (payload : Bytes) : Except TokenRejection ProxyToken :=
  match claims? payload with
  | none => .error (.unreadable .proxy)
  | some claims => (ofClaims claims).mapError .claim

/-- The token's text, signed under a secret. -/
def encode (secret : Bytes) (token : ProxyToken) : String :=
  (SignedPayload.sign secret token.payload).text .proxy

/-- The text of a fresh token for one player and one backend.  It holds for `ttl`,
raised to at least one millisecond. -/
def issue (secret : Bytes) (ttl now : Millis) (nonce : Nonce) (player : Uuid) (target : String)
    (clientCert proxyCert : Option String) : Except TokenError String := do
  let token ← ofClaims ⟨Claims.currentVersion, player, target, now, now.saturatingAdd (max 1 ttl),
    clientCert, proxyCert, some (Base64Url.encode nonce.bytes)⟩
  return token.encode secret

end ProxyToken

/-- What tells the uses of tokens on one backend apart. -/
structure TokenUse where
  backend : String
  player : Uuid
  nonce : String
deriving DecidableEq

/-- A token that passed, with the key under which its use is remembered. -/
structure ValidatedToken where
  token : ProxyToken
  key : TokenUse
deriving DecidableEq

/-- Which tokens a backend takes. -/
structure TokenPolicy where
  serverId : String
  requireCertificates : Bool := true
deriving DecidableEq

namespace TokenPolicy

/-- Refuses a signed payload whose claims do not hold here and now. -/
def checkClaims (policy : TokenPolicy) (now : Millis) (claims : ProxyClaims) :
    Except TokenRejection Unit :=
  if claims.version ≠ Claims.currentVersion then .error (.version .proxy claims.version)
  else if policy.requireCertificates ∧ (claims.clientCert = none ∨ claims.proxyCert = none) then
    .error .certificates
  else if now < claims.issuedAt then .error (.notYetValid .proxy claims.issuedAt now)
  else if claims.expiresAt < now then .error (.expired .proxy claims.expiresAt)
  else if claims.target ≠ policy.serverId then .error (.target claims.target)
  else .ok ()

/-- The key of a token's use; a token without a nonce is told by its signature. -/
def useOf (policy : TokenPolicy) (token : ProxyToken) (signature : Bytes) : TokenUse where
  backend := policy.serverId
  player := token.claims.player
  nonce := token.claims.nonce.getD (Base64Url.encode signature)

/-- The token that a text spells, if it holds here and now under one of the
accepted secrets. -/
def validate (policy : TokenPolicy) (accepted : List Bytes) (now : Millis) (text : String) :
    Except TokenRejection ValidatedToken := do
  let signed ← SignedPayload.ofText? .proxy text
  if !signed.signedByAny accepted then throw (.signature .proxy)
  let token ← ProxyToken.ofPayload signed.payload
  policy.checkClaims now token.claims
  return ⟨token, policy.useOf token signed.signature⟩

end TokenPolicy

/-! ## Presenting tokens

What a client shows a backend is trimmed, read as a text, validated as a proxy
token, compared with the player the client claims to be, and only then marked as
used.  A token that is refused for another reason than its use is therefore not
used up. -/

namespace Handshake

/-- What a refused client is told. -/
def rejectedClientMessage : String := "Connection rejected by proxy policy."

/-- The bytes that are blank in ASCII: space, tab, line feed, form feed, carriage return. -/
def isBlankByte (byte : UInt8) : Bool :=
  byte = 0x20 || byte = 0x09 || byte = 0x0A || byte = 0x0C || byte = 0x0D

/-- The token in what a client shows, before its use is looked at. -/
def inspect (policy : TokenPolicy) (accepted : List Bytes) (now : Millis) (data : Option Bytes)
    (claimed : Option Uuid) : Except TokenRejection ValidatedToken := do
  let data := Text.trimWhere isBlankByte (data.getD [])
  if data.isEmpty then throw .absent
  let some text := Utf8.decode data | throw .notText
  let validated ← policy.validate accepted now text
  match claimed with
  | some player => if player ≠ validated.token.claims.player then throw (.player .proxy)
  | none => pure ()
  return validated

/-- The token in what a client shows, unless it has been used; from then on it is. -/
def present (policy : TokenPolicy) (accepted : List Bytes) (now : Millis) (data : Option Bytes)
    (claimed : Option Uuid) (used : ReplayWindow TokenUse) :
    Except TokenRejection ValidatedToken × ReplayWindow TokenUse :=
  match inspect policy accepted now data claimed with
  | .error rejection => (.error rejection, used)
  | .ok validated =>
      let (fresh, used) := used.register now validated.key
      (if fresh then .ok validated else .error .replayed, used)

end Handshake

end GameGateway
