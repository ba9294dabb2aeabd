import GameGateway.Json.Value
import GameGateway.Route.Router
import GameGateway.Wire.ConnectFrame
import GameGateway.Wire.MessagingFrame
import GameGateway.Wire.Notice

/-!
# Frames and messages given as JSON

The frames and messages of scripts, under the names by which reports show them; words
are given as their codes.
-/

namespace GameGateway

/-- A word by its code. -/
def Json.word? {α : Type} [WireCode α] (json : Json) (name : String) : Option α :=
  WireCode.ofCode? (UInt8.ofNat (json.nat name))

/-- A host with its number. -/
def HostAddress.ofScript (json : Json) : HostAddress :=
  ⟨json.text "host", UInt16.ofNat (json.nat "port")⟩

/-- A connect frame. -/
def ConnectFrame.ofScript (json : Json) : ConnectFrame where
  protocolCrc := UInt32.ofNat (json.nat "protocol_crc")
  protocolBuild := UInt32.ofNat (json.nat "protocol_build")
  clientVersion := json.text "client_version"
  clientType := UInt8.ofNat (json.nat "client_type")
  language := json.text "language"
  identityToken := json.find? "identity_token" Json.asText
  playerId := json.find? "player_id" Json.asUuid
  username := json.find? "username" Json.asText
  referralData := json.find? "referral_data" Json.asBytes
  referralSource := json.find? "referral_source" HostAddress.ofScript

/-- What routing knows of a connection: what its frame says, or a player and the backend
the player asks for, or the backend that is asked for alone. -/
def RoutingContext.ofScript (json : Json) : RoutingContext :=
  match json.member "transfer" with
  | .array [player, backend] => .forTransfer player.asUuid backend.asText
  | _ =>
      let address := (json.find? "address" Json.asText).bind ClientAddress.parse?
      let context : RoutingContext := match json.member "frame" with
        | .null => {}
        | frame => ofFrame (.ofScript frame) address
      { context with requested := json.find? "requested" Json.asText }

/-- A strategy that names fixed backends, or what the context says in the place of the
words that begin with a dollar sign. -/
def Strategy.ofScript (json : Json) : Strategy :=
  let pick (word : String) (context : RoutingContext) : String :=
    match word with
    | "$requested" => context.requested.getD ""
    | "$language" => context.language
    | "$username" => context.username.getD ""
    | id => id
  ⟨pick (json.text "initial"), pick (json.text "transfer")⟩

/-- A messaging frame. -/
def MessagingFrame.ofScript (json : Json) : MessagingFrame :=
  match json.text "kind" with
  | "handshake" => .handshake (json.millis "timestamp") (json.member "nonce").asBlock
  | "ack" => .acknowledgement (json.member "nonce").asBlock
  | _ => .message (json.text "channel") (json.bytes "payload")

/-- An envelope around a payload; `sender` is the name of the member with its sender. -/
def Envelope.ofScript (json : Json) (sender : String) (payload : Bytes) : Envelope where
  version := json.findD "version" (fun version => UInt8.ofNat version.asNat) 1
  kind := (json.word? "type").getD .transferRequest
  sender := json.text sender
  issuedAt := json.millis "issued_at"
  ttl := json.millis "ttl"
  nonce := (json.member "nonce").asBlock
  payload := payload

/-- The kind of message that a payload is for. -/
def MessageKind.ofScript (json : Json) : MessageKind :=
  match json.text "kind" with
  | "transfer_request" => .transferRequest
  | "transfer_result" => .transferResult
  | "token_validation" => .tokenValidation
  | _ => .backendStatus

/-- A transfer request under a correlation. -/
def TransferRequest.ofScript (json : Json) (correlation : Uuid) : TransferRequest :=
  ⟨correlation, json.uuid "player_id", json.text "target", json.bytes "referral"⟩

/-- The bytes of a payload; requests and results are under the given correlation. -/
def payloadOfScript (json : Json) (correlation : Uuid) : Except WireError Bytes :=
  match MessageKind.ofScript json with
  | .transferRequest => (TransferRequest.ofScript json correlation).encode
  | .transferResult => .ok (TransferResult.encode
      ⟨correlation, (json.word? "status").getD .ok, json.word? "reason"⟩)
  | .tokenValidation => ValidationNotice.encode
      ⟨json.uuid "player_id", json.text "backend_id", (json.word? "outcome").getD .accepted,
        json.word? "reason"⟩
  | .backendStatus => StatusNotice.encode
      ⟨json.text "backend_id", (json.word? "status").getD .online⟩

end GameGateway
