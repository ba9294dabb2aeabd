import GameGateway.Channel.Basic
import GameGateway.Guard.ReplayWindow
import GameGateway.Wire.MessagingFrame

/-!
# Messages over datagrams

A server accepts messages only from addresses that have shaken hands with it a short
while ago.  A handshake counts if its tag is right, its timestamp is near the clock
and its nonce is new; it is acknowledged under the same nonce.  Every accepted
message, too, keeps its address authorized.  What the server sends goes to all
authorized addresses.

A client knows one server, and takes messages from it whether or not its own
handshake was acknowledged.

Sockets are left out: datagrams come in as arguments and go out as answers.
-/

namespace GameGateway

/-- How far handshakes may be off, and how long they authorize an address. -/
structure DatagramConfig where
  maxClockSkew : Millis := 120000
  peerTtl : Millis := 120000
deriving DecidableEq

/-- What an accepted datagram leads to. -/
inductive DatagramOutcome where
  | ignored
  /-- The bytes go back to where the datagram came from. -/
  | reply (bytes : Bytes)
  /-- The payload goes to the handler of the channel. -/
  | deliver (channel : String) (payload : Bytes)
deriving DecidableEq

/-- The server's side; addresses are of type `α`. -/
structure DatagramServer (α : Type) where
  secret : Bytes
  config : DatagramConfig
  /-- The channels that have a handler. -/
  channels : List String
  /-- Until when addresses are authorized. -/
  authorized : Table α Millis
  nonces : ReplayWindow Nonce

namespace DatagramServer

variable {α : Type}

/-- A server that knows no address. -/
def new (secret : Bytes) (config : DatagramConfig) (now : Millis) : DatagramServer α where
  secret := secret
  config := config
  channels := []
  authorized := .empty
  nonces := .new { window := config.maxClockSkew.saturatingMul 2 } now

/-- Sets a handler for a channel. -/
def register (server : DatagramServer α) (channel : String) :
    Except ChannelError (DatagramServer α) := do
  ChannelName.check channel
  return { server with channels := channel :: server.channels }

/-- Takes the handler of a channel away. -/
def unregister (server : DatagramServer α) (channel : String) : DatagramServer α :=
  { server with channels := server.channels.filter (· ≠ channel) }

/-- Is the timestamp near enough to the clock? -/
def isNear (server : DatagramServer α) (now timestamp : Millis) : Bool :=
  (timestamp.toInt - now.toInt).natAbs ≤ server.config.maxClockSkew.toInt.natAbs

/-- The addresses that are authorized now. -/
def peers (server : DatagramServer α) (now : Millis) : List α :=
  (server.authorized.filter fun _ deadline => now ≤ deadline).keys

variable [DecidableEq α]

/-- Is the address authorized now? -/
def isAuthorized (server : DatagramServer α) (now : Millis) (address : α) : Bool :=
  match server.authorized.get? address with
  | some deadline => now ≤ deadline
  | none => false

/-- Authorizes an address from now on. -/
def authorize (server : DatagramServer α) (now : Millis) (address : α) : DatagramServer α :=
  { server with authorized := server.authorized.insert address (now + server.config.peerTtl) }

/-- Takes a frame whose tag is right. -/
def accept (server : DatagramServer α) (now : Millis) (address : α) :
    MessagingFrame → DatagramOutcome × DatagramServer α
  | .handshake timestamp nonce =>
      if !server.isNear now timestamp then (.ignored, server)
      else
        let (fresh, nonces) := server.nonces.register now nonce
        let server := { server with nonces := nonces }
        if !fresh then (.ignored, server)
        else
          let server := server.authorize now address
          match (MessagingFrame.acknowledgement nonce).encode server.secret with
          | .ok bytes => (.reply bytes, server)
          | .error _ => (.ignored, server)
  | .message channel payload =>
      if !server.isAuthorized now address then
        -- What is still there of the address has run out.
        (.ignored, { server with authorized := server.authorized.erase address })
      else
        let server := server.authorize now address
        if channel ∈ server.channels then (.deliver channel payload, server) else (.ignored, server)
  | .acknowledgement _ => (.ignored, server)

/-- Takes a datagram. -/
def receive (server : DatagramServer α) (now : Millis) (address : α) (bytes : Bytes) :
    DatagramOutcome × DatagramServer α :=
  match MessagingFrame.decode? bytes with
  | none => (.ignored, server)
  | some signed =>
      if signed.verify server.secret then server.accept now address signed.frame
      else (.ignored, server)

omit [DecidableEq α] in
/-- The datagram that carries a message, and the addresses it goes to. -/
def send (server : DatagramServer α) (now : Millis) (channel : String) (payload : Bytes) :
    Except ChannelError (Bytes × List α) := do
  ChannelName.check channel
  let bytes ← ((MessagingFrame.message channel payload).encode server.secret).mapError .encode
  if (server.peers now).isEmpty then throw .noPeer
  return (bytes, server.peers now)

end DatagramServer

/-- The client's side. -/
structure DatagramClient where
  secret : Bytes
  channels : List String := []
  acknowledged : Bool := false

namespace DatagramClient

/-- The datagram by which a client introduces itself. -/
def handshake (client : DatagramClient) (now : Millis) (nonce : Nonce) : Except WireError Bytes :=
  (MessagingFrame.handshake now nonce).encode client.secret

/-- Takes a datagram from the server. -/
def receive (client : DatagramClient) (bytes : Bytes) : DatagramOutcome × DatagramClient :=
  match MessagingFrame.decode? bytes with
  | none => (.ignored, client)
  | some signed =>
      if !signed.verify client.secret then (.ignored, client)
      else match signed.frame with
        | .acknowledgement _ => (.ignored, { client with acknowledged := true })
        | .message channel payload =>
            if channel ∈ client.channels then (.deliver channel payload, client)
            else (.ignored, client)
        | .handshake .. => (.ignored, client)

/-- The datagram that carries a message. -/
def send (client : DatagramClient) (channel : String) (payload : Bytes) :
    Except ChannelError Bytes := do
  ChannelName.check channel
  ((MessagingFrame.message channel payload).encode client.secret).mapError .encode

end DatagramClient

end GameGateway
