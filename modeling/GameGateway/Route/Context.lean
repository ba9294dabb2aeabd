import GameGateway.Address.Client
import GameGateway.Table
import GameGateway.Wire.ConnectFrame

/-!
# What routing knows

A backend is chosen among those that are registered, by the facts about a connection.
-/

namespace GameGateway

/-! ## Backends

The backends a proxy may send players to, each under an id of its own. -/

/-- A backend and where it is reached. -/
structure Backend where
  id : String
  host : String
  number : UInt16
deriving DecidableEq

/-- The backends by their ids. -/
abbrev BackendRegistry := Table String Backend

namespace BackendRegistry

/-- The registry of a list; of two backends with one id the later one counts, at the
place of the earlier one. -/
def ofList (backends : List Backend) : BackendRegistry :=
  Table.ofList (backends.map fun backend => (backend.id, backend))

end BackendRegistry

/-! ## Connections -/

/-- The facts about a connection that is to be routed. -/
structure RoutingContext where
  player : Option Uuid := none
  username : Option String := none
  address : Option ClientAddress := none
  /-- The backend that was asked for. -/
  requested : Option String := none
  protocolCrc : UInt32 := 0
  protocolBuild : UInt32 := 0
  clientVersion : String := ""
  clientType : UInt8 := 0
  language : String := ""
  identityTokenPresent : Bool := false
deriving DecidableEq

namespace RoutingContext

/-- What a connect frame says. -/
def ofFrame (frame : ConnectFrame) (address : Option ClientAddress) : RoutingContext where
  player := frame.playerId
  username := frame.username
  address := address
  protocolCrc := frame.protocolCrc
  protocolBuild := frame.protocolBuild
  clientVersion := frame.clientVersion
  clientType := frame.clientType
  language := frame.language
  identityTokenPresent := frame.identityToken.isSome

/-- A player who asks for a backend, with nothing else known. -/
def forTransfer (player : Uuid) (backend : String) : RoutingContext :=
  { player := some player, requested := some backend }

end RoutingContext

end GameGateway
