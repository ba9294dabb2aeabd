import GameGateway.Clock
import GameGateway.Text.CharSet
import GameGateway.Wire.Code
import GameGateway.Wire.Reader

/-!
# Control envelopes

Proxy and backends exchange control messages.  An envelope carries the payload of
one message with what the receiver needs to decide whether to look at it: who sent
it, when, for how long it is meant, and a nonce that tells it from every other.
-/

namespace GameGateway

/-- Sixteen bytes that are used once. -/
abbrev Nonce := Block 16

/-- One control message on its way. -/
structure Envelope where
  version : UInt8 := 1
  kind : MessageKind
  sender : String
  issuedAt : Millis
  /-- For how long after `issuedAt` the message is meant to be read. -/
  ttl : Millis
  nonce : Nonce
  payload : Bytes
deriving DecidableEq

namespace Envelope

/-- The two bytes that every envelope starts with. -/
def magic : Bytes := [0x4C, 0x43]

/-- The longest sender id, in bytes. -/
def maxSender : Nat := 64

/-- The bytes of an envelope. -/
def write (envelope : Envelope) : Bytes :=
  magic ++ [envelope.version, WireCode.code envelope.kind,
    UInt8.ofNat (Utf8.size envelope.sender)] ++ Utf8.encode envelope.sender ++
    Bytes.ofInt64 envelope.issuedAt ++ Bytes.ofInt64 envelope.ttl ++ envelope.nonce.bytes ++
    Bytes.sized envelope.payload

/-- The bytes of an envelope whose sender is not blank and fits, and whose payload
fits its length field. -/
def encode (envelope : Envelope) : Except WireError Bytes :=
  if Text.isBlank envelope.sender then .error (.blankField "sender_id")
  else if maxSender < Utf8.size envelope.sender then
    .error (.fieldTooLong "sender_id" (Utf8.size envelope.sender) maxSender)
  else if Bytes.maxSized < envelope.payload.length then
    .error (.frameTooLarge envelope.payload.length Bytes.maxSized)
  else .ok envelope.write

/-- Takes an envelope off the front; its payload is all that is left. -/
def read : Reader Envelope := do
  Reader.exactly magic
  let version ← Reader.byte
  Reader.require (version = 1)
  let code ← Reader.byte
  let kind ← Reader.lift (WireCode.ofCode? code)
  let senderLength ← Reader.byte
  Reader.require (1 ≤ senderLength.toNat ∧ senderLength.toNat ≤ maxSender)
  let senderBytes ← Reader.take senderLength.toNat
  let sender ← Reader.lift (Utf8.decode senderBytes)
  let issuedAt ← Reader.int64
  let ttl ← Reader.int64
  let nonce ← Reader.block 16
  let payload ← Reader.sizedBytes
  return ⟨version, kind, sender, issuedAt, ttl, nonce, payload⟩

/-- The envelope that the bytes spell. -/
def decode? (bytes : Bytes) : Option Envelope := read.whole bytes

/-- Is the envelope meant to be read at `now`, when clocks may differ by `skew`?
The sums are cut off at the ends of the range of instants. -/
def isTimely (envelope : Envelope) (now skew : Millis) : Bool :=
  let earliest := envelope.issuedAt.saturatingSub skew
  let latest := (envelope.issuedAt.saturatingAdd envelope.ttl).saturatingAdd skew
  0 < envelope.ttl ∧ earliest ≤ now ∧ now ≤ latest

end Envelope

end GameGateway
