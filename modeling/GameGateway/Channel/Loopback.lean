import GameGateway.Channel.Basic
import GameGateway.Surroundings
import GameGateway.Table

/-!
# Messages within one process

Endpoints have handlers for channels.  What an endpoint sends is kept with it until
somebody takes it, and goes at once to the endpoint it is paired with, if it is.
Handlers are told apart by a type of the user's; what a handler does, which may be
to send further messages, is a parameter of `deliver` and `send`.
-/

namespace GameGateway

/-- A place where messages are sent and handled. -/
structure LoopbackEndpoint (κ η : Type) where
  handlers : Table String η := .empty
  /-- What was sent and not yet taken, oldest first. -/
  sent : List (String × Bytes) := []
  /-- The endpoint that gets what this one sends. -/
  peer : Option κ := none

/-- The endpoints that exist. -/
structure Loopback (κ η : Type) where
  endpoints : Table κ (LoopbackEndpoint κ η) := .empty

namespace Loopback

variable {κ η : Type} [DecidableEq κ]

/-- The network with one more endpoint. -/
def add (net : Loopback κ η) (name : κ) : Loopback κ η :=
  ⟨net.endpoints.insert name {}⟩

/-- The network with one endpoint changed. -/
def change (net : Loopback κ η) (name : κ) (f : LoopbackEndpoint κ η → LoopbackEndpoint κ η) :
    Loopback κ η :=
  ⟨net.endpoints.update name f⟩

/-- Wires two endpoints to each other. -/
def pair (net : Loopback κ η) (a b : κ) : Loopback κ η :=
  (net.change a fun endpoint => { endpoint with peer := some b }).change b
    fun endpoint => { endpoint with peer := some a }

/-- Gives up an endpoint; the answer is whether it was there. -/
def close (net : Loopback κ η) (name : κ) : Bool × Loopback κ η :=
  (net.endpoints.contains name, ⟨net.endpoints.erase name⟩)

/-- Sets the handler of a channel. -/
def register (net : Loopback κ η) (name : κ) (channel : String) (handler : η) :
    Except ChannelError (Loopback κ η) := do
  ChannelName.check channel
  return net.change name fun endpoint =>
    { endpoint with handlers := endpoint.handlers.insert channel handler }

/-- Takes the handler of a channel away, if there is one. -/
def unregister (net : Loopback κ η) (name : κ) (channel : String) : Loopback κ η :=
  net.change name fun endpoint => { endpoint with handlers := endpoint.handlers.erase channel }

/-- The handler of a channel at an endpoint. -/
def handler? (net : Loopback κ η) (name : κ) (channel : String) : Option η := do
  let endpoint ← net.endpoints.get? name
  endpoint.handlers.get? channel

/-- Keeps a message with the endpoint that sent it. -/
def record (net : Loopback κ η) (name : κ) (channel : String) (payload : Bytes) : Loopback κ η :=
  net.change name fun endpoint => { endpoint with sent := endpoint.sent ++ [(channel, payload)] }

/-- Takes what an endpoint has sent. -/
def takeSent (net : Loopback κ η) (name : κ) : List (String × Bytes) × Loopback κ η :=
  (((net.endpoints.get? name).map LoopbackEndpoint.sent).getD [],
    net.change name fun endpoint => { endpoint with sent := [] })

/-- The endpoint that an endpoint is paired with. -/
def peer? (net : Loopback κ η) (name : κ) : Option κ := do
  let endpoint ← net.endpoints.get? name
  endpoint.peer

variable {σ : Type}

/-- Hands a message to an endpoint; the answer is whether it has a handler for it. -/
def deliver (slot : Slot σ (Loopback κ η)) (invoke : η → κ → Bytes → σ → σ) (name : κ)
    (channel : String) (payload : Bytes) (s : σ) : Bool × σ :=
  match (slot.get s).handler? name channel with
  | none => (false, s)
  | some handler => (true, invoke handler name payload s)

/-- Sends a message from an endpoint. -/
def send (slot : Slot σ (Loopback κ η)) (invoke : η → κ → Bytes → σ → σ) (name : κ)
    (channel : String) (payload : Bytes) (s : σ) : Except ChannelError Unit × σ :=
  match ChannelName.check channel with
  | .error e => (.error e, s)
  | .ok () =>
      let s := slot.modify (fun net => net.record name channel payload) s
      match (slot.get s).peer? name with
      | none => (.ok (), s)
      | some peer => (.ok (), (deliver slot invoke peer channel payload s).2)

end Loopback

end GameGateway
