import GameGateway.Channel.Loopback

/-!
# Rehearsing messages

An exchange is a loopback network whose handlers follow scripts: a handler notes the
message it gets and then may take itself away or send a message of its own.  A message
that comes back to a handler which has answered it already would go round for ever;
so a chain of answers is followed once through all handlers there are.
-/

namespace GameGateway

/-- What a handler does when it has noted its message. -/
inductive Reaction where
  | none
  | unregister
  | reply (channel : String) (payload : Bytes)

/-- A handler of the channel it is registered for. -/
structure ScriptedHandler where
  tag : String
  channel : String
  reaction : Reaction

/-- What happened in an exchange. -/
inductive ExchangeNote where
  | received (tag : String) (payload : Bytes)
  | replied (tag : String) (result : Except ChannelError Unit)

/-- A network with the notes of its handlers. -/
structure Exchange where
  net : Loopback String ScriptedHandler := {}
  /-- What happened, latest first. -/
  notes : List ExchangeNote := []

namespace Exchange

/-- The network. -/
def netSlot : Slot Exchange (Loopback String ScriptedHandler) where
  get := net
  set := fun net exchange => { exchange with net := net }
  get_set := fun _ _ => rfl
  set_get := fun _ => rfl
  set_set := fun _ _ _ => rfl

/-- The exchange with one more note. -/
def note (n : ExchangeNote) (exchange : Exchange) : Exchange :=
  { exchange with notes := n :: exchange.notes }

/-- What has been noted, oldest first, and the exchange without notes. -/
def takeNotes (exchange : Exchange) : List ExchangeNote × Exchange :=
  (exchange.notes.reverse, { exchange with notes := [] })

/-- Runs a handler at an endpoint, following answers as deep as `fuel`. -/
def invoke : (fuel : Nat) → ScriptedHandler → String → Bytes → Exchange → Exchange
  | 0, _, _, _, exchange => exchange
  | fuel + 1, handler, name, payload, exchange =>
      let exchange := exchange.note (.received handler.tag payload)
      match handler.reaction with
      | .none => exchange
      | .unregister => netSlot.modify (fun net => net.unregister name handler.channel) exchange
      | .reply channel payload =>
          let (result, exchange) :=
            Loopback.send netSlot (invoke fuel) name channel payload exchange
          exchange.note (.replied handler.tag result)

/-- One more than the number of handlers. -/
def depth (exchange : Exchange) : Nat :=
  (exchange.net.endpoints.values.map fun endpoint => endpoint.handlers.size).foldl (· + ·) 0 + 1

/-- Sends a message from an endpoint. -/
def send (exchange : Exchange) (name channel : String) (payload : Bytes) :
    Except ChannelError Unit × Exchange :=
  Loopback.send netSlot (invoke exchange.depth) name channel payload exchange

/-- Hands a message to an endpoint; the answer is whether it has a handler for it. -/
def deliver (exchange : Exchange) (name channel : String) (payload : Bytes) : Bool × Exchange :=
  Loopback.deliver netSlot (invoke exchange.depth) name channel payload exchange

end Exchange

end GameGateway
