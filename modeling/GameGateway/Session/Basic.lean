import GameGateway.Channel.Link
import GameGateway.Session.State
import GameGateway.Uuid

/-!
# Sessions

A session is one connection of a client to the proxy: its state, who is playing,
and the links to the client and to the backend.  The session only knows the numbers
of its links; a link that is given up by its owner is no longer found.
-/

namespace GameGateway

/-- The number of a session. -/
structure SessionId where
  number : Nat
deriving DecidableEq

/-- The name of a session. -/
def SessionId.text (id : SessionId) : String := s!"session-{id.number}"

/-- One connection of a client. -/
structure Session where
  state : SessionState := .new
  player : Option Uuid := none
  username : Option String := none
  clientCert : Option String := none
  selectedBackend : Option String := none
  clientLink : Option ConnectionId := none
  backendLink : Option ConnectionId := none
deriving DecidableEq

/-- Why something cannot be done with a session. -/
inductive SessionError where
  | illegalTransition (step : IllegalTransition)
  | notFound (session : SessionId)
  /-- The session has no link on that side, or a dead one. -/
  | linkClosed (session : SessionId)
  | channel (error : ChannelError)
deriving DecidableEq

/-- The sentence shown to people; the arguments say how sessions and connections are
named. -/
def SessionError.message (nameOf : SessionId → String) (linkName : ConnectionId → String) :
    SessionError → String
  | illegalTransition step =>
      s!"illegal session transition {step.source.name} -> {step.target.name}"
  | notFound session => s!"session {nameOf session} not found"
  | linkClosed session => s!"session {nameOf session} has no live link"
  | channel error => error.message linkName

namespace Session

/-- Goes to a state; the answer is whether that changed anything. -/
def become (session : Session) (next : SessionState) : Except SessionError (Bool × Session) :=
  match session.state.become next with
  | .ok changed => .ok (changed, { session with state := next })
  | .error step => .error (.illegalTransition step)

/-- The session, disconnected; every session can get there. -/
def disconnect (session : Session) : Session := { session with state := .disconnected }

/-- From a transfer under way back to playing, as if it had not begun; sessions in any
other state stay as they are. -/
def restore (session : Session) : Session :=
  if session.state = .transferring then { session with state := .playing } else session

/-- Lets the session play on a backend that has taken its player. -/
def authenticate (session : Session) (backend : String) : Except SessionError Session := do
  let session := if session.state = .transferring then { session with state := .handshaking }
    else session
  let (_, session) ← session.become .playing
  return { session with selectedBackend := some backend }

/-- A link, if the session has one on that side and it is alive. -/
def live? (links : LinkBook) (link : Option ConnectionId) : Option ConnectionId :=
  link.filter links.isAlive

/-- Sends bytes on one of the session's links. -/
def send (links : LinkBook) (id : SessionId) (link : Option ConnectionId) (bytes : Bytes) :
    Except SessionError Unit × LinkBook :=
  match live? links link with
  | none => (.error (.linkClosed id), links)
  | some link =>
      let (result, links) := links.send link bytes
      (result.mapError .channel, links)

end Session

end GameGateway
