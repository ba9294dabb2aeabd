import GameGateway.Config.Basic
import GameGateway.Control.Refusal
import GameGateway.Guard.InFlight
import GameGateway.Guard.ReplayWindow
import GameGateway.Surroundings

/-!
# Control endpoints

The two sides of the control channel admit packets by the same rules, in this order:
the packet is not too long, not too many packets are in work, the envelope decodes,
its sender is expected, its time is right, its payload is not too long, and its key
was not seen before.  A packet that is turned away is counted under the first rule
it breaks and leaves no other trace; an admitted one holds a lease until it is
handled.
-/

namespace GameGateway

/-- The name of the channel on which control messages travel. -/
def controlChannel : String := "handoff:control"

/-- What tells a control message from every other one. -/
structure PacketKey where
  sender : String
  kind : MessageKind
  nonce : Nonce
deriving DecidableEq

/-- One side of the control channel. -/
structure ControlEndpoint where
  config : ControlConfig
  senders : SenderPolicy
  limiter : InFlight
  seen : ReplayWindow PacketKey
  rejects : RejectTally := {}

namespace ControlEndpoint

/-- An endpoint that has seen no packet. -/
def new (config : ControlConfig) (senders : SenderPolicy) (now : Millis) : ControlEndpoint where
  config := config
  senders := senders
  limiter := .new config.maxInFlight
  seen := .new ⟨config.replayWindow, config.replayMaxEntries⟩ now

/-- The endpoint with a reject counted. -/
def reject (endpoint : ControlEndpoint) (reason : RejectReason) : ControlEndpoint :=
  { endpoint with rejects := endpoint.rejects.add reason }

/-- The endpoint with the lease of a handled packet given back. -/
def finish (endpoint : ControlEndpoint) : ControlEndpoint :=
  { endpoint with limiter := endpoint.limiter.giveBack }

/-! ## Incoming packets -/

/-- The key of an envelope. -/
def keyOf (envelope : Envelope) : PacketKey := ⟨envelope.sender, envelope.kind, envelope.nonce⟩

/-- The envelope in a packet, or the first rule that it breaks; whether its key is
new is left open. -/
def inspect (endpoint : ControlEndpoint) (now : Millis) (packet : Bytes) :
    Except RejectReason Envelope :=
  if endpoint.config.maxPayload < packet.length then .error .packetTooLarge
  else if endpoint.limiter.limit ≤ endpoint.limiter.count then .error .ingressBackpressure
  else
    match Envelope.decode? packet with
    | none => .error .malformedEnvelope
    | some envelope =>
        if !endpoint.senders.allows envelope.sender then .error .unexpectedSender
        else if !envelope.isTimely now endpoint.config.maxClockSkew then .error .invalidTimestamp
        -- Never so: the whole packet is within this bound already.
        else if endpoint.config.maxPayload < envelope.payload.length then .error .payloadTooLarge
        else .ok envelope

/-- Admits the envelope in a packet, or counts why not. -/
def accept (endpoint : ControlEndpoint) (now : Millis) (packet : Bytes) :
    Option Envelope × ControlEndpoint :=
  match endpoint.inspect now packet with
  | .error reason => (none, endpoint.reject reason)
  | .ok envelope =>
      let (fresh, seen) := endpoint.seen.register now (keyOf envelope)
      let endpoint := { endpoint with seen := seen }
      if fresh then
        let limiter := { endpoint.limiter with count := endpoint.limiter.count + 1 }
        (some envelope, { endpoint with limiter := limiter })
      else (none, endpoint.reject .replayed)

variable {σ : Type}

/-- Handles a packet: if it is admitted, `process` gets its envelope while the lease
is held. -/
def handle (env : Surroundings σ) (slot : Slot σ ControlEndpoint) (process : Envelope → σ → σ)
    (packet : Bytes) (s : σ) : σ :=
  let (envelope, endpoint) := (slot.get s).accept (env.now s) packet
  let s := slot.set endpoint s
  match envelope with
  | none => s
  | some envelope => slot.modify finish (process envelope s)

/-! ## Outgoing messages -/

/-- The envelope of an outgoing message. -/
def compose (endpoint : ControlEndpoint) (now : Millis) (nonce : Nonce) (kind : MessageKind)
    (payload : Bytes) : Envelope where
  kind := kind
  sender := endpoint.config.sender
  issuedAt := now
  ttl := endpoint.config.ttl
  nonce := nonce
  payload := payload

/-- Sends a message; one that is too long is counted and not sent. -/
def send (env : Surroundings σ) (slot : Slot σ ControlEndpoint) (kind : MessageKind)
    (payload : Bytes) (s : σ) : Except ControlError Unit × σ :=
  let endpoint := slot.get s
  if endpoint.config.maxPayload < payload.length then
    (.error (.outboundPayloadTooLarge payload.length endpoint.config.maxPayload),
      slot.modify (fun endpoint => endpoint.reject .outboundPayloadTooLarge) s)
  else
    let (nonce, s) := env.draw s
    match (endpoint.compose (env.now s) nonce kind payload).encode with
    | .error e => (.error (.encode e), s)
    | .ok packet =>
        let (result, s) := env.send controlChannel packet s
        (result.mapError .channel, s)

end ControlEndpoint

end GameGateway
