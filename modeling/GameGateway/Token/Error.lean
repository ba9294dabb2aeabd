import GameGateway.Clock
import GameGateway.Wire.Code

/-!
# Causes of refusal

`TokenError` says why a token or a secret cannot be made; `TokenRejection` says why
a presented token is refused.  Each rejection has a fault, the word that travels in
notices, and a detail for operators.
-/

namespace GameGateway

/-- The two kinds of tokens: one for backends and one that leads a player back to
the proxy. -/
inductive TokenKind where
  | proxy
  | transfer
deriving DecidableEq

/-- The word in front of a token's text. -/
def TokenKind.tag : TokenKind → String
  | proxy => "v1"
  | transfer => "t1"

/-- What is wrong with a claim. -/
inductive ClaimFlaw where
  | blank
  | delimiter
  | negative
  | precedesIssue
deriving DecidableEq

/-- What is wrong with a secret. -/
inductive SecretFlaw where
  | empty
  | common
  | short
deriving DecidableEq

/-- Why a token or a secret cannot be made. -/
inductive TokenError where
  | invalidClaim (field : String) (flaw : ClaimFlaw)
  | weakSecret (field : String) (flaw : SecretFlaw)
deriving DecidableEq

/-- What is said of a claim. -/
def ClaimFlaw.text : ClaimFlaw → String
  | blank => "must not be blank"
  | delimiter => "must not contain '|'"
  | negative => "must not be negative"
  | precedesIssue => "must not precede issued_at"

/-- What is said of a secret. -/
def SecretFlaw.text : SecretFlaw → String
  | empty => "must not be empty"
  | common => "must not use a default or weak secret value"
  | short => "must be at least 32 bytes"

/-- The sentence shown to people. -/
def TokenError.message : TokenError → String
  | invalidClaim field flaw => s!"invalid claim {field}: {flaw.text}"
  | weakSecret field flaw => s!"{field} {flaw.text}"

/-- In which way a text is not that of a token. -/
inductive ShapeFlaw where
  | parts
  | tag
  | payload
  | emptyPayload
  | signature
deriving DecidableEq

/-- Why a presented token is refused. -/
inductive TokenRejection where
  /-- Nothing was presented. -/
  | absent
  /-- What was presented is no text. -/
  | notText
  /-- The text is not that of a token. -/
  | shape (flaw : ShapeFlaw)
  /-- No accepted secret has signed the payload. -/
  | signature (kind : TokenKind)
  /-- The payload does not spell claims. -/
  | unreadable (kind : TokenKind)
  /-- The payload spells claims that no token can make. -/
  | claim (error : TokenError)
  | version (kind : TokenKind) (version : UInt32)
  /-- Certificates are required, but one of them is not claimed. -/
  | certificates
  | notYetValid (kind : TokenKind) (issuedAt now : Millis)
  | expired (kind : TokenKind) (expiresAt : Millis)
  /-- The token is for another backend. -/
  | target (target : String)
  /-- The token is for another player. -/
  | player (kind : TokenKind)
  /-- The token has been used before. -/
  | replayed
deriving DecidableEq

namespace TokenRejection

/-- The word that travels in notices. -/
def fault : TokenRejection → TokenFault
  | absent | notText | shape _ | unreadable _ | claim _ | certificates => .malformed
  | signature _ => .invalidSignature
  | version .. => .unsupportedVersion
  | notYetValid .. => .notYetValid
  | expired .. => .expired
  | target _ | player _ => .targetMismatch
  | replayed => .replayed

/-- What is said of a text that is not that of a token. -/
def shapeText : ShapeFlaw → String
  | .parts => "expected three dot-separated parts"
  | .tag => "unexpected token prefix"
  | .payload => "payload is not base64url"
  | .emptyPayload => "empty payload"
  | .signature => "signature is not base64url"

/-- What is said to operators. -/
def detail : TokenRejection → String
  | absent => "no referral data"
  | notText => "referral data is not UTF-8"
  | shape flaw => shapeText flaw
  | signature .proxy => "no accepted secret matches the signature"
  | signature .transfer => "transfer token signature mismatch"
  | unreadable .proxy => "unparseable proxy token claims"
  | unreadable .transfer => "unparseable transfer token claims"
  | claim error => error.message
  | version .proxy n => s!"token version {n.toNat}"
  | version .transfer n => s!"transfer token version {n.toNat}"
  | certificates => "certificate claims missing"
  | notYetValid .proxy issuedAt now => s!"issued at {issuedAt.text} after now {now.text}"
  | notYetValid .transfer .. => "issued in the future"
  | expired .proxy expiresAt => s!"expired at {expiresAt.text}"
  | expired .transfer _ => "transfer token expired"
  | target name => s!"issued for {name}"
  | player .proxy => "token issued for another player"
  | player .transfer => "transfer token issued for another player"
  | replayed => "token already used on this backend"

/-- Fault and detail. -/
def message (rejection : TokenRejection) : String :=
  WireCode.name rejection.fault ++ ": " ++ rejection.detail

end TokenRejection

end GameGateway
