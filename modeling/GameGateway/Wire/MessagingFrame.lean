import GameGateway.Digest
import GameGateway.Wire.Envelope

/-!
# Authenticated messaging frames

Datagrams between proxy and backends.  A peer first shakes hands, which the other
side acknowledges under the same nonce; then messages travel on named channels.
Every frame ends with a tag over all of it but its two leading bytes, so only who
knows the shared secret can write one.
-/

namespace GameGateway

/-- A frame without its tag. -/
inductive MessagingFrame where
  | handshake (timestamp : Millis) (nonce : Nonce)
  | acknowledgement (nonce : Nonce)
  | message (channel : String) (payload : Bytes)
deriving DecidableEq

/-- A frame with the tag that came with it. -/
structure SignedFrame where
  frame : MessagingFrame
  tag : Block 32
deriving DecidableEq

namespace MessagingFrame

/-- The two bytes that every frame starts with. -/
def magic : Bytes := [0x4C, 0x4D]

/-- The longest channel name, in bytes. -/
def maxChannel : Nat := 1024

/-- The byte that tells the kinds of frames apart. -/
def typeByte : MessagingFrame → UInt8
  | handshake .. => 1
  | acknowledgement .. => 2
  | message .. => 3

/-- What a frame holds behind its type. -/
def body : MessagingFrame → Bytes
  | handshake timestamp nonce => Bytes.ofInt64 timestamp ++ nonce.bytes
  | acknowledgement nonce => nonce.bytes
  | message channel payload => Bytes.sized (Utf8.encode channel) ++ Bytes.sized payload

/-- Is this the length of a channel name? -/
def isChannelLength (length : Nat) : Bool := 1 ≤ length ∧ length ≤ maxChannel

/-- The bytes that the tag covers: version, type and body. -/
def signedBytes (frame : MessagingFrame) : Bytes := [1, frame.typeByte] ++ frame.body

/-- Refuses a message on a channel of no valid length or with a payload that does
not fit its length field. -/
def check : MessagingFrame → Except WireError Unit
  | message channel payload =>
      if !isChannelLength (Utf8.size channel) then .error (.invalidChannel (Utf8.size channel))
      else if Bytes.maxSized < payload.length then
        .error (.frameTooLarge payload.length Bytes.maxSized)
      else .ok ()
  | _ => .ok ()

/-- The bytes of a frame with its tag. -/
def encode (secret : Bytes) (frame : MessagingFrame) : Except WireError Bytes := do
  frame.check
  return magic ++ frame.signedBytes ++ (Hmac.sign secret frame.signedBytes).bytes

/-- Takes what stands behind the given type off the front. -/
def readBody (type : UInt8) : Reader MessagingFrame :=
  if type = 1 then do
    let timestamp ← Reader.int64
    let nonce ← Reader.block 16
    return handshake timestamp nonce
  else if type = 2 then do
    let nonce ← Reader.block 16
    return acknowledgement nonce
  else if type = 3 then do
    let channel ← Reader.sizedText
    Reader.require (isChannelLength (Utf8.size channel))
    let payload ← Reader.sizedBytes
    return message channel payload
  else Reader.lift none

/-- The type of a frame and all that follows it. -/
def readHead : Reader UInt8 := do
  Reader.exactly magic
  let version ← Reader.byte
  Reader.require (version = 1)
  Reader.byte

/-- The frame that the bytes spell; the last 32 bytes are its tag. -/
def decode? (bytes : Bytes) : Option SignedFrame := do
  let (type, rest) ← readHead bytes
  let tag ← Block.ofBytes? 32 (rest.drop (rest.length - 32))
  let frame ← (readBody type).whole (rest.take (rest.length - 32))
  some ⟨frame, tag⟩

end MessagingFrame

/-- Is the tag the right one under the secret? -/
def SignedFrame.verify (secret : Bytes) (signed : SignedFrame) : Bool :=
  match signed.frame.check with
  | .ok _ => Hmac.verify secret signed.frame.signedBytes signed.tag.bytes
  | .error _ => false

end GameGateway
