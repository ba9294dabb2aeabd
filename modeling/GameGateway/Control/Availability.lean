import GameGateway.Clock
import GameGateway.Table

/-!
# Availability of backends

A backend is online while its last sign of life is younger than the heartbeat
timeout.  A backend that says it is offline is offline until its next sign of life,
and so is one that could not be reached, though only until its cooldown is over.
Of a backend without any event nothing is known.
-/

namespace GameGateway

/-- What is known of a backend. -/
inductive Availability where
  | online
  | offline
  | unknown
deriving DecidableEq

/-- The name shown to people. -/
def Availability.name : Availability → String
  | online => "ONLINE"
  | offline => "OFFLINE"
  | unknown => "UNKNOWN"

/-- The traces that events have left on one backend. -/
structure BackendSigns where
  reportedOffline : Bool := false
  unavailableUntil : Option Millis := none
  onlineUntil : Option Millis := none
deriving DecidableEq

/-- The traces of all backends. -/
structure AvailabilityTracker where
  cooldown : Millis := 30000
  heartbeatTimeout : Millis := 15000
  signs : Table String BackendSigns := .empty

namespace AvailabilityTracker

/-- The tracker with the traces on one backend changed. -/
def change (t : AvailabilityTracker) (backend : String) (f : BackendSigns → BackendSigns) :
    AvailabilityTracker :=
  { t with signs := t.signs.insert backend (f ((t.signs.get? backend).getD {})) }

/-- The backend could not be reached. -/
def markUnavailable (t : AvailabilityTracker) (now : Millis) (backend : String) :
    AvailabilityTracker :=
  t.change backend fun signs => { signs with unavailableUntil := some (now + t.cooldown) }

/-- The backend gave a sign of life. -/
def markOnline (t : AvailabilityTracker) (now : Millis) (backend : String) : AvailabilityTracker :=
  t.change backend fun _ =>
    { reportedOffline := false
      unavailableUntil := none
      onlineUntil := some (now + t.heartbeatTimeout) }

/-- The backend said that it is offline. -/
def markOffline (t : AvailabilityTracker) (backend : String) : AvailabilityTracker :=
  t.change backend fun signs => { signs with reportedOffline := true, onlineUntil := none }

/-- Is the instant, if there is one, still to come? -/
def isAhead (now : Millis) (until? : Option Millis) : Bool :=
  match until? with
  | none => false
  | some instant => now < instant

/-- What is known of a backend now. -/
def status (t : AvailabilityTracker) (now : Millis) (backend : String) : Availability :=
  match t.signs.get? backend with
  | none => .unknown
  | some signs =>
      if signs.reportedOffline || isAhead now signs.unavailableUntil then .offline
      else if isAhead now signs.onlineUntil then .online
      else .offline

/-- Should players be kept from the backend for now? -/
def isTemporarilyUnavailable (t : AvailabilityTracker) (now : Millis) (backend : String) : Bool :=
  t.status now backend = .offline

end AvailabilityTracker

end GameGateway
