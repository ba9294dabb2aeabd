import GameGateway.Address.Ip
import GameGateway.Control.Refusal
import GameGateway.Route.Decision
import GameGateway.Session.Basic
import GameGateway.Token.Error

/-!
# What can go wrong at a gateway
-/

namespace GameGateway

/-- What is wrong with the first frame of a client. -/
inductive ConnectFlaw where
  | undecodable
  | withoutPlayer
deriving DecidableEq

/-- Why a proxy or a node does not do what it was asked to. -/
inductive GatewayError where
  | wire (error : WireError)
  | token (error : TokenError)
  | rejected (rejection : TokenRejection)
  | session (error : SessionError)
  | routing (error : RoutingError)
  | control (error : ControlError)
  | config (problems : List String)
  | malformedConnect (flaw : ConnectFlaw)
  | rateLimited (ip : IpAddress)
  /-- The session has no player. -/
  | unidentified (id : SessionId)
  | alreadyOnBackend (backend : String)
deriving DecidableEq

/-- What is said of a frame. -/
def ConnectFlaw.text : ConnectFlaw → String
  | undecodable => "connect frame did not decode"
  | withoutPlayer => "connect frame has no player id"

/-- The sentence shown to people; the arguments say how sessions and connections are
named. -/
def GatewayError.message (nameOf : SessionId → String) (linkName : ConnectionId → String) :
    GatewayError → String
  | wire error => error.message
  | token error => error.message
  | rejected rejection => rejection.message
  | session error => error.message nameOf linkName
  | routing error => error.message
  | control error => error.message linkName
  | config problems => "invalid configuration: " ++ String.intercalate "; " problems
  | malformedConnect flaw => s!"malformed connect frame: {flaw.text}"
  | rateLimited ip => s!"connect rate limit exceeded for {ip.text}"
  | unidentified id => s!"session {nameOf id} has no player id"
  | alreadyOnBackend backend => s!"player is already on backend {backend}"

end GameGateway
