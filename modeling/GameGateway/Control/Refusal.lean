import GameGateway.Channel.Basic
import GameGateway.Table

/-!
# What is not read and what is not sent

An endpoint reads the messages of some senders only, counts every packet that it turns
away, and says why a message of its own cannot go out.
-/

namespace GameGateway

/-! ## Whose messages are read -/

/-- The senders whose control messages are read. -/
inductive SenderPolicy where
  /-- Those in the list; everybody if the list is empty. -/
  | anyOf (senders : List String)
  | exactly (sender : String)
deriving DecidableEq

namespace SenderPolicy

/-- Everybody's messages are read. -/
def any : SenderPolicy := anyOf []

/-- Are messages of the sender read? -/
def allows (policy : SenderPolicy) (sender : String) : Bool :=
  match policy with
  | anyOf senders => senders.isEmpty || senders.contains sender
  | exactly expected => expected = sender

end SenderPolicy

/-! ## Rejected packets

Every packet that an endpoint turns away, and every message that it does not send
because it is too long, is counted under one reason. -/

/-- Why a packet is turned away. -/
inductive RejectReason where
  | packetTooLarge
  | ingressBackpressure
  | malformedEnvelope
  | unexpectedSender
  | invalidTimestamp
  | payloadTooLarge
  | replayed
  | malformedPayload
  | unsupportedType
  | outboundPayloadTooLarge
deriving DecidableEq

namespace RejectReason

/-- All reasons, in the order in which they are reported. -/
def all : List RejectReason :=
  [packetTooLarge, ingressBackpressure, malformedEnvelope, unexpectedSender, invalidTimestamp,
    payloadTooLarge, replayed, malformedPayload, unsupportedType, outboundPayloadTooLarge]

/-- The name shown to people. -/
def name : RejectReason → String
  | packetTooLarge => "PACKET_TOO_LARGE"
  | ingressBackpressure => "INGRESS_BACKPRESSURE"
  | malformedEnvelope => "MALFORMED_ENVELOPE"
  | unexpectedSender => "UNEXPECTED_SENDER"
  | invalidTimestamp => "INVALID_TIMESTAMP"
  | payloadTooLarge => "PAYLOAD_TOO_LARGE"
  | replayed => "REPLAYED"
  | malformedPayload => "MALFORMED_PAYLOAD"
  | unsupportedType => "UNSUPPORTED_TYPE"
  | outboundPayloadTooLarge => "OUTBOUND_PAYLOAD_TOO_LARGE"

end RejectReason

/-- How often each reason has come up. -/
structure RejectTally where
  counts : Table RejectReason Nat := .empty

namespace RejectTally

/-- How often a reason has come up. -/
def count (tally : RejectTally) (reason : RejectReason) : Nat :=
  (tally.counts.get? reason).getD 0

/-- The tally with a reason counted once more. -/
def add (tally : RejectTally) (reason : RejectReason) : RejectTally :=
  ⟨tally.counts.insert reason (tally.count reason + 1)⟩

/-- The reasons that have come up, with their counts. -/
def snapshot (tally : RejectTally) : List (RejectReason × Nat) :=
  (RejectReason.all.map fun reason => (reason, tally.count reason)).filter fun entry => 0 < entry.2

/-- Counting one reason raises its count by one and no other. -/
@[simp] theorem count_add (tally : RejectTally) (reason other : RejectReason) :
    (tally.add reason).count other = tally.count other + if other = reason then 1 else 0 := by
  by_cases h : other = reason <;> simp [add, count, h]

end RejectTally

/-! ## Why a control message is not sent -/

/-- Why a control message is not sent. -/
inductive ControlError where
  | outboundPayloadTooLarge (size max : Nat)
  | encode (error : WireError)
  | channel (error : ChannelError)
deriving DecidableEq

/-- The sentence shown to people; `nameOf` says how connections are named. -/
def ControlError.message (nameOf : ConnectionId → String) : ControlError → String
  | outboundPayloadTooLarge size max => s!"outbound payload of {size} bytes exceeds {max}"
  | encode error => error.message
  | channel error => error.message nameOf

end GameGateway
