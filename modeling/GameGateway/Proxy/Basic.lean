import GameGateway.Control.ProxyPlane
import GameGateway.Error
import GameGateway.Config.Basic
import GameGateway.Route.Selection
import GameGateway.Token.Secrets

/-!
# Proxies

A proxy has its configuration, the secrets it signs with, its side of the control
channel with the sessions, and the rules by which it chooses backends and bounds
connection attempts.
-/

namespace GameGateway

/-- A running proxy. -/
structure Proxy where
  config : ProxyConfig
  secrets : Secrets
  plane : ProxyPlane
  routing : Routing
  /-- Connection attempts by address. -/
  connects : RateLimiter IpAddress

namespace Proxy

/-- A proxy as it starts at `now` under a configuration, whether or not that has
problems. -/
def start (config : ProxyConfig) (now : Millis) : Proxy where
  config := config
  secrets := ⟨Utf8.encode config.security.secret,
    config.security.previousSecret.toList.map Utf8.encode⟩
  plane :=
    { endpoint := .new config.effectiveControl (.anyOf (config.backends.map Backend.id)) now }
  routing := ⟨⟨.ofList config.backends, config.routing.fallback, none⟩,
    .new config.routing.maxInFlight⟩
  connects := .new config.connectRate now

/-- Starts a proxy under a configuration without problems. -/
def build (config : ProxyConfig) (now : Millis) : Except GatewayError Proxy :=
  if config.problems.isEmpty then .ok (start config now) else .error (.config config.problems)

/-- The control side as a part of the proxy. -/
def planeSlot : Slot Proxy ProxyPlane where
  get := plane
  set := fun plane proxy => { proxy with plane := plane }
  get_set := fun _ _ => rfl
  set_get := fun _ => rfl
  set_set := fun _ _ _ => rfl

/-- The rules for backends as a part of the proxy. -/
def routingSlot : Slot Proxy Routing where
  get := routing
  set := fun routing proxy => { proxy with routing := routing }
  get_set := fun _ _ => rfl
  set_get := fun _ => rfl
  set_set := fun _ _ _ => rfl

/-- A session, registered or not. -/
def session? (proxy : Proxy) (id : SessionId) : Option Session := proxy.plane.sessions.session? id

/-- The proxy with its sessions changed. -/
def withSessions (proxy : Proxy) (f : SessionRegistry → SessionRegistry) : Proxy :=
  { proxy with plane := { proxy.plane with sessions := f proxy.plane.sessions } }

/-- The proxy with one session changed. -/
def updateSession (proxy : Proxy) (id : SessionId) (f : Session → Session) : Proxy :=
  proxy.withSessions fun sessions => sessions.update id f

/-- The proxy with what it knows of backends changed. -/
def withAvailability (proxy : Proxy) (f : AvailabilityTracker → AvailabilityTracker) : Proxy :=
  { proxy with plane := { proxy.plane with availability := f proxy.plane.availability } }

variable {σ : Type}

/-- Should players be kept from a backend for now? -/
def isUnavailable (env : Surroundings σ) (slot : Slot σ Proxy) (s : σ) (backend : String) : Bool :=
  (slot.get s).plane.availability.isTemporarilyUnavailable (env.now s) backend

/-- Chooses a backend: the first one of a player, or a later one. -/
def selectBackend (env : Surroundings σ) (slot : Slot σ Proxy) (context : RoutingContext)
    (initial : Bool) (s : σ) : Except RoutingError Selection × σ :=
  Routing.select env (slot.comp routingSlot) (isUnavailable env slot) context initial s

end Proxy

end GameGateway
