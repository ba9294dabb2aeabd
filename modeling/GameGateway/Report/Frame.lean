import GameGateway.Json.Value
import GameGateway.Wire.ConnectFrame
import GameGateway.Wire.MessagingFrame
import GameGateway.Wire.Notice

/-!
# Frames and messages in reports
-/

namespace GameGateway

/-- The name of a word that travels as a code. -/
def nameReport {α : Type} [WireCode α] (word : α) : Json := .ofText (WireCode.name word)

/-- A connect frame with its referral data shown in a given way. -/
def ConnectFrame.reportWith (frame : ConnectFrame) (referral : Json) : Json := .record [
  ("protocol_crc", .ofNat frame.protocolCrc.toNat),
  ("protocol_build", .ofNat frame.protocolBuild.toNat),
  ("client_version", .ofText frame.clientVersion),
  ("client_type", .ofNat frame.clientType.toNat),
  ("language", .ofText frame.language),
  ("identity_token", .ofOptionalText frame.identityToken),
  ("player_id", .ofOption .ofUuid frame.playerId),
  ("username", .ofOptionalText frame.username),
  ("referral_data", referral),
  ("referral_source", .ofOption (fun source => .ofText source.text) frame.referralSource)]

/-- A connect frame. -/
def ConnectFrame.report (frame : ConnectFrame) : Json :=
  frame.reportWith (.ofOption .ofBytes frame.referralData)

/-- A messaging frame. -/
def MessagingFrame.report : MessagingFrame → Json
  | handshake timestamp nonce => .record [("kind", .ofText "handshake"),
      ("timestamp", .ofMillis timestamp), ("nonce", .ofBytes nonce.bytes)]
  | acknowledgement nonce => .record [("kind", .ofText "ack"), ("nonce", .ofBytes nonce.bytes)]
  | message channel payload => .record [("kind", .ofText "message"),
      ("channel", .ofText channel), ("payload", .ofBytes payload)]

/-- An envelope with all its fields. -/
def Envelope.report (envelope : Envelope) : Json := .record [
  ("version", .ofNat envelope.version.toNat),
  ("type", nameReport envelope.kind),
  ("code", .ofNat (WireCode.code envelope.kind).toNat),
  ("sender_id", .ofText envelope.sender),
  ("issued_at", .ofMillis envelope.issuedAt),
  ("ttl", .ofMillis envelope.ttl),
  ("nonce", .ofBytes envelope.nonce.bytes),
  ("payload", .ofBytes envelope.payload)]

/-- A transfer request, with its correlation and its referral shown in given ways. -/
def TransferRequest.reportWith (request : TransferRequest) (correlation : Uuid → Json)
    (referral : Bytes → Json) : Json := .record [
  ("correlation_id", correlation request.correlation), ("player_id", .ofUuid request.player),
  ("target", .ofText request.target), ("referral", referral request.referral)]

/-- The answer to a transfer request, with its correlation shown in a given way. -/
def TransferResult.reportWith (result : TransferResult) (correlation : Uuid → Json) : Json :=
  .record [
    ("correlation_id", correlation result.correlation), ("status", nameReport result.status),
    ("reason", .ofOption nameReport result.reason)]

/-- What a backend says about a token. -/
def ValidationNotice.report (notice : ValidationNotice) : Json := .record [
  ("player_id", .ofUuid notice.player), ("backend_id", .ofText notice.backend),
  ("outcome", nameReport notice.outcome), ("reason", .ofOption nameReport notice.reason)]

/-- What a backend says about itself. -/
def StatusNotice.report (notice : StatusNotice) : Json := .record [
  ("backend_id", .ofText notice.backend), ("status", nameReport notice.status)]

/-- The payload of a message of the given kind; `null` if it does not decode. -/
def payloadReport (kind : MessageKind) (payload : Bytes) (correlation : Uuid → Json)
    (referral : Bytes → Json) : Json :=
  match kind with
  | .transferRequest => .ofOption (fun request => request.reportWith correlation referral)
      (TransferRequest.decode? payload)
  | .transferResult => .ofOption (fun result => result.reportWith correlation)
      (TransferResult.decode? payload)
  | .tokenValidation => .ofOption ValidationNotice.report (ValidationNotice.decode? payload)
  | .backendStatus => .ofOption StatusNotice.report (StatusNotice.decode? payload)

end GameGateway
