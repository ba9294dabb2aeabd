import GameGateway.Clock
import GameGateway.Route.Router
import GameGateway.Session.Basic
import GameGateway.Wire.Code

/-!
# The events of a gateway

Every kind of event has a type of its own for what its events say.  None of these
events can be cancelled.
-/

namespace GameGateway

/-- The kinds of events. -/
inductive EventKind where
  | playerConnected
  | playerAuthenticated
  | playerDisconnected
  | routePreSelect
  | routePostSelect
  | tokenValidated
  | backendStatusChanged
  | transferCompleted
deriving DecidableEq

namespace EventKind

/-- All kinds of events. -/
def all : List EventKind :=
  [playerConnected, playerAuthenticated, playerDisconnected, routePreSelect, routePostSelect,
    tokenValidated, backendStatusChanged, transferCompleted]

/-- The name shown to people. -/
def name : EventKind → String
  | playerConnected => "PlayerConnected"
  | playerAuthenticated => "PlayerAuthenticated"
  | playerDisconnected => "PlayerDisconnected"
  | routePreSelect => "RoutePreSelect"
  | routePostSelect => "RoutePostSelect"
  | tokenValidated => "TokenValidated"
  | backendStatusChanged => "BackendStatusChanged"
  | transferCompleted => "TransferCompleted"

/-- The kind of a name. -/
def ofName? (name : String) : Option EventKind := all.find? fun kind => kind.name = name

end EventKind

/-- A client has opened a session. -/
structure PlayerConnected where
  session : SessionId
  address : Option ClientAddress

/-- A backend has taken the player of a session. -/
structure PlayerAuthenticated where
  session : SessionId
  player : Uuid
  backend : String

/-- A session has ended. -/
structure PlayerDisconnected where
  session : SessionId
  reason : Option String

/-- A backend is about to be chosen; observers may decide. -/
structure RoutePreSelect where
  context : RoutingContext
  decision : RoutingDecision := .undecided

/-- A backend has been chosen. -/
structure RoutePostSelect where
  context : RoutingContext
  backend : String
  reason : SelectionReason

/-- A backend has looked at the token of a player. -/
structure TokenValidated where
  player : Uuid
  backend : String
  outcome : ValidationOutcome
  reason : Option TokenFault

/-- A backend reports another status than before. -/
structure BackendStatusChanged where
  backend : String
  previous : Option BackendStatus
  status : BackendStatus

/-- A backend has answered a transfer request. -/
structure TransferCompleted where
  correlation : Uuid
  /-- The player, if the request is known. -/
  player : Option Uuid
  status : TransferStatus
  reason : Option TransferFault
  /-- The time since the request, if it is known. -/
  latency : Option Millis

/-- What an event of the given kind says. -/
abbrev Event : EventKind → Type
  | .playerConnected => PlayerConnected
  | .playerAuthenticated => PlayerAuthenticated
  | .playerDisconnected => PlayerDisconnected
  | .routePreSelect => RoutePreSelect
  | .routePostSelect => RoutePostSelect
  | .tokenValidated => TokenValidated
  | .backendStatusChanged => BackendStatusChanged
  | .transferCompleted => TransferCompleted

end GameGateway
