import GameGateway.Token.Claims
import GameGateway.Token.Secrets
import GameGateway.Token.SignedText

/-!
# Transfer tokens

A player who is sent to another backend comes back to the proxy with a transfer
token, by which the proxy knows where the player is to go.

A token is validated in a fixed order: shape, signature, claims, version, player,
beginning, end.  The first condition that fails is the one that is told.
-/

namespace GameGateway

/-- What a transfer token claims. -/
structure TransferClaims where
  version : UInt32
  player : Uuid
  target : String
  issuedAt : Millis
  expiresAt : Millis
deriving DecidableEq

/-- Refuses claims that would not read back. -/
def TransferClaims.check (claims : TransferClaims) : Except TokenError Unit := do
  Claims.checkId "target_server_id" claims.target
  Claims.checkTimes claims.issuedAt claims.expiresAt

/-- Claims that passed the check. -/
structure TransferToken where
  claims : TransferClaims
  checked : claims.check = .ok ()
deriving DecidableEq

namespace TransferToken

/-- For how long a token holds unless something else is said. -/
def defaultTtl : Millis := 30000

/-- The token that makes the given claims. -/
def ofClaims (claims : TransferClaims) : Except TokenError TransferToken :=
  match h : claims.check with
  | .ok () => .ok ⟨claims, h⟩
  | .error e => .error e

/-- The claims as they are signed. -/
def payload (token : TransferToken) : Bytes :=
  let c := token.claims
  Claims.join [Decimal.ofUInt32 c.version, c.player.toChars, c.target.toList,
    Decimal.ofMillis c.issuedAt, Decimal.ofMillis c.expiresAt]

/-- The claims that a payload spells. -/
def claims? (payload : Bytes) : Option TransferClaims := do
  match ← Claims.split? payload with
  | [version, player, target, issuedAt, expiresAt] =>
      let version ← Decimal.uint32? version
      let player ← Uuid.ofChars? player
      let issuedAt ← Decimal.millis? issuedAt
      let expiresAt ← Decimal.millis? expiresAt
      some ⟨version, player, String.ofList target, issuedAt, expiresAt⟩
  | _ => none

/-- The token that a payload spells. -/
def ofPayload (payload : Bytes) : Except TokenRejection TransferToken :=
  match claims? payload with
  | none => .error (.unreadable .transfer)
  | some claims => (ofClaims claims).mapError .claim

/-- The token's text, signed under a secret. -/
def encode (secret : Bytes) (token : TransferToken) : String :=
  (SignedPayload.sign secret token.payload).text .transfer

/-- The text of a fresh token for one player and one backend.  It holds for `ttl`,
raised to at least one millisecond. -/
def issue (secret : Bytes) (ttl now : Millis) (player : Uuid) (target : String) :
    Except TokenError String := do
  let token ← ofClaims ⟨Claims.currentVersion, player, target, now,
    now.saturatingAdd (max 1 ttl)⟩
  return token.encode secret

/-- Refuses claims that do not hold for this player now. -/
def checkClaims (player : Uuid) (now : Millis) (claims : TransferClaims) :
    Except TokenRejection Unit :=
  if claims.version ≠ Claims.currentVersion then .error (.version .transfer claims.version)
  else if claims.player ≠ player then .error (.player .transfer)
  else if now < claims.issuedAt then .error (.notYetValid .transfer claims.issuedAt now)
  else if claims.expiresAt < now then .error (.expired .transfer claims.expiresAt)
  else .ok ()

/-- The token that a text spells, if it holds for this player now under one of the
accepted secrets. -/
def validate (accepted : List Bytes) (now : Millis) (player : Uuid) (text : String) :
    Except TokenRejection TransferToken := do
  let signed ← SignedPayload.ofText? .transfer text
  if !signed.signedByAny accepted then throw (.signature .transfer)
  let token ← ofPayload signed.payload
  checkClaims player now token.claims
  return token

end TransferToken

end GameGateway
