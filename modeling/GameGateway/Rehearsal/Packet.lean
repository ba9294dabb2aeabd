import GameGateway.Rehearsal.Scene
import GameGateway.Report.Reading

/-!
# Packets and frames of a rehearsal

A script gives a packet or a frame as bytes, member by member, or by a label that was
given before.  What is under a label that was not given yet is missing, and a step that
asks for it does nothing.
-/

namespace GameGateway

/-- The place of a name. -/
def Place.ofName (name : String) : Place := if name = Place.proxy.name then proxy else backend name

/-- The answer of a step that asks for something that is not there yet. -/
def missingReport : Json := .record [("missing", .bool true)]

/-- The place and the channel to which a script hands a packet. -/
def Injection.carrying (json : Json) (packet : Bytes) : Injection :=
  ⟨.ofName (json.text "to"), json.findD "channel" Json.asText controlChannel, packet⟩

/-- A packet that a script hands to an endpoint: its bytes, or an envelope around a
payload.  A payload that is about a transfer may name one of those given by its label. -/
def Injection.ofScript (json : Json) (transfers : List Uuid) : Except Json Injection := do
  if json.has "bytes" then return .carrying json (json.bytes "bytes")
  let payload ← match json.member "payload" with
    | .object members =>
        let payload := Json.object members
        let id := if payload.has "correlation_id" then
          Scene.correlation? transfers (payload.text "correlation_id") else some (Uuid.ofNat 0)
        match id with
        | some id => (payloadOfScript payload id).mapError WireError.report
        | none => throw missingReport
    | hex => pure hex.asBytes
  return .carrying json
    (← (Envelope.ofScript json "sender" payload).encode.mapError WireError.report)

namespace Scene

/-- The bytes of the first frame that a client sends; its referral data may be what a
game server was given for a redirect. -/
def connectBytes (scene : Scene) (json : Json) : Except Json Bytes := do
  if json.has "bytes" then return json.bytes "bytes"
  let frame := ConnectFrame.ofScript (json.member "frame")
  let frame ← match json.find? "referral" Json.asText with
    | none => pure frame
    | some label => match scene.referral? label with
      | some data => pure { frame with referralData := some data }
      | none => throw missingReport
  (frame.encode {}).mapError fun e => scene.gatewayError (.wire e)

/-- The frame that a node is shown: one that was forwarded, or one that is described, as
it stands or for another player. -/
def handshakeFrame? (scene : Scene) (json : Json) : Option ConnectFrame := do
  let frame ← match json.member "frame" with
    | .string label => do
        ConnectFrame.decode? scene.deployment.proxy.config.limits (← scene.frame? (label.getD ""))
    | frame => some (.ofScript frame)
  return if json.has "player_id" then
    { frame with playerId := json.find? "player_id" Json.asUuid } else frame

end Scene

end GameGateway
