import GameGateway.Digest
import GameGateway.Error
import GameGateway.Json.Value
import GameGateway.Route.Router
import GameGateway.Text.Base64Url
import GameGateway.Token.ProxyToken
import GameGateway.Token.TransferToken
import GameGateway.Wire.Code

/-!
# Errors, connections and tokens in reports
-/

namespace GameGateway

/-! ## Errors in reports

An error is reported with its kind, a word by which programs tell errors apart, and
with the sentence shown to people.  The kind of an error that wraps another one is
both words with a slash between them. -/

/-- An error of the given kind. -/
def errorReport (kind message : String) : Json :=
  .record [("error", .ofText kind), ("message", .ofText message)]

/-- The report of a call that has worked. -/
def okReport : Json := .record [("ok", .bool true)]

/-- The kind of an error on the wire. -/
def WireError.kind : WireError → String
  | fieldTooLong .. => "FieldTooLong"
  | blankField .. => "BlankField"
  | frameTooLarge .. => "FrameTooLarge"
  | invalidChannel .. => "InvalidChannel"

/-- The kind of an error with a token or a secret. -/
def TokenError.kind : TokenError → String
  | invalidClaim .. => "InvalidClaim"
  | weakSecret .. => "WeakSecret"

/-- The kind of an error with a channel. -/
def ChannelError.kind : ChannelError → String
  | linkClosed _ => "LinkClosed"
  | backpressure _ => "Backpressure"
  | invalidChannel _ => "InvalidChannel"
  | noPeer => "NoPeer"
  | encode e => "Encode/" ++ e.kind

/-- The kind of an error with a session. -/
def SessionError.kind : SessionError → String
  | illegalTransition _ => "IllegalTransition"
  | notFound _ => "NotFound"
  | linkClosed _ => "LinkClosed"
  | channel e => "Transport/" ++ e.kind

/-- The kind of an error in routing. -/
def RoutingError.kind : RoutingError → String
  | denied _ => "Denied"
  | unknownOverride _ => "UnknownOverride"
  | missingDefault _ => "MissingDefault"
  | decisionFinalized => "DecisionFinalized"
  | overloaded _ => "Overloaded"

/-- The kind of an error with a control message. -/
def ControlError.kind : ControlError → String
  | outboundPayloadTooLarge .. => "OutboundPayloadTooLarge"
  | encode e => "Encode/" ++ e.kind
  | channel e => "Transport/" ++ e.kind

/-- The kind of an error at a gateway. -/
def GatewayError.kind : GatewayError → String
  | wire e => "Wire/" ++ e.kind
  | token e => "Token/" ++ e.kind
  | rejected rejection => "TokenRejected/" ++ WireCode.name rejection.fault
  | session e => "Session/" ++ e.kind
  | routing e => "Routing/" ++ e.kind
  | control e => "Control/" ++ e.kind
  | config _ => "Config"
  | malformedConnect _ => "MalformedConnect"
  | rateLimited _ => "RateLimited"
  | unidentified _ => "UnidentifiedSession"
  | alreadyOnBackend _ => "AlreadyOnBackend"

/-- The report of an error on the wire. -/
def WireError.report (e : WireError) : Json := errorReport e.kind e.message

/-- The report of an error with a token or a secret. -/
def TokenError.report (e : TokenError) : Json := errorReport e.kind e.message

/-- The report of a refused token. -/
def TokenRejection.report (r : TokenRejection) : Json :=
  errorReport (WireCode.name r.fault) r.message

/-- The report of an error in routing. -/
def RoutingError.report (e : RoutingError) : Json := errorReport e.kind e.message

/-! ## Routing in reports -/

/-- A backend. -/
def Backend.report (backend : Backend) : Json :=
  .array [.ofText backend.id, .ofText backend.host, .ofNat backend.number.toNat]

/-- What routing knows of a connection. -/
def RoutingContext.report (context : RoutingContext) : Json := .record [
  ("player_id", .ofOption .ofUuid context.player),
  ("username", .ofOptionalText context.username),
  ("client_address", .ofOption (fun address => .ofText address.text) context.address),
  ("requested", .ofOptionalText context.requested),
  ("protocol_crc", .ofNat context.protocolCrc.toNat),
  ("protocol_build", .ofNat context.protocolBuild.toNat),
  ("client_version", .ofText context.clientVersion),
  ("client_type", .ofNat context.clientType.toNat),
  ("language", .ofText context.language),
  ("identity_token_present", .bool context.identityTokenPresent)]

/-! ## Tokens in reports

Nonces that were drawn here differ from run to run, so reports show only their
length; all other nonces are shown as they are. -/

/-- A nonce as it is shown: one that was drawn here by its length. -/
def nonceReport (draws : Draws) (nonce : String) : Json :=
  .ofText (if draws.drawn.any fun value => Base64Url.encode value.bytes = nonce
    then s!"<nonce:{nonce.length}>" else nonce)

/-- A token's text taken apart, without a look at its signature. -/
def tokenPartsReport (draws : Draws) (text : String) : Json :=
  let parts := Fields.split '.' text.toList
  let payload := (parts[1]?.bind Base64Url.decodeChars).getD []
  let claims := ((Claims.split? payload).getD []).map String.ofList
  .record [("prefix", .ofText (String.ofList (parts.headD []))), ("parts", .ofNat parts.length),
    ("claims", .array (claims.map (nonceReport draws)))]

/-- A validated proxy token with the key of its use. -/
def ValidatedToken.report (draws : Draws) (validated : ValidatedToken) : Json :=
  let claims := validated.token.claims
  .record [("version", .ofNat claims.version.toNat), ("player_id", .ofUuid claims.player),
    ("target", .ofText claims.target), ("issued_at", .ofMillis claims.issuedAt),
    ("expires_at", .ofMillis claims.expiresAt), ("client_cert", .ofOptionalText claims.clientCert),
    ("proxy_cert", .ofOptionalText claims.proxyCert),
    ("nonce", .ofOption (nonceReport draws) claims.nonce),
    ("replay_key", .array [.ofText validated.key.backend, .ofUuid validated.key.player,
      nonceReport draws validated.key.nonce])]

/-- A transfer token. -/
def TransferToken.report (token : TransferToken) : Json :=
  .record [("version", .ofNat token.claims.version.toNat),
    ("player_id", .ofUuid token.claims.player), ("target", .ofText token.claims.target),
    ("issued_at", .ofMillis token.claims.issuedAt),
    ("expires_at", .ofMillis token.claims.expiresAt)]

end GameGateway
