/-!
# Life of a session

A session is new, shakes hands with a backend, plays, is under way to another
backend, shakes hands there and plays again, and is disconnected in the end.
-/

namespace GameGateway

/-- Where a session is in its life. -/
inductive SessionState where
  | new
  | handshaking
  | playing
  | transferring
  | disconnected
deriving DecidableEq

/-- A step that the life of a session does not have. -/
structure IllegalTransition where
  source : SessionState
  target : SessionState
deriving DecidableEq

namespace SessionState

/-- All states. -/
def all : List SessionState := [new, handshaking, playing, transferring, disconnected]

/-- The name shown to people. -/
def name : SessionState → String
  | new => "NEW"
  | handshaking => "HANDSHAKING"
  | playing => "PLAYING"
  | transferring => "TRANSFERRING"
  | disconnected => "DISCONNECTED"

/-- The state of a name. -/
def ofName? (name : String) : Option SessionState := all.find? fun state => state.name = name

/-- Is there a step from the first state to the second? -/
def canBecome : SessionState → SessionState → Bool
  | new, handshaking => true
  | handshaking, playing => true
  | playing, transferring => true
  | transferring, handshaking => true
  | disconnected, disconnected => false
  | _, disconnected => true
  | _, _ => false

/-- Is it the last state? -/
def isTerminal (state : SessionState) : Bool := state = disconnected

/-- Goes to a state; the answer is whether that changed anything. -/
def become (current next : SessionState) : Except IllegalTransition Bool :=
  if current = next then .ok false
  else if current.canBecome next then .ok true
  else .error ⟨current, next⟩

end SessionState

end GameGateway
