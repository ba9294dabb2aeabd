import GameGateway.Guard.RateLimiter
import GameGateway.Route.Context
import GameGateway.Token.Secrets
import GameGateway.Token.TransferToken
import GameGateway.Wire.ConnectFrame
import GameGateway.Wire.Envelope

/-!
# Configurations

A control endpoint, a proxy and the node of a backend are each set up by a record of
values.  What is wrong with such a record is told in sentences; one without any can be
used.
-/

namespace GameGateway

/-! ## Checks on configurations

A check gives the sentences that say what is wrong, in the order in which they are
shown; no sentence means that nothing is. -/

namespace Config

/-- The sentence, if the condition holds. -/
def sentenceIf (condition : Bool) (sentence : String) : List String :=
  if condition then [sentence] else []

theorem sentenceIf_eq_nil_iff {condition : Bool} {sentence : String} :
    sentenceIf condition sentence = [] ↔ condition = false := by
  cases condition <;> simp [sentenceIf]

/-- An id is not blank, fits a control envelope and holds no bar, which separates the
claims of tokens. -/
def checkId (field id : String) : List String :=
  if Text.isBlank id then [s!"{field} must not be blank"]
  else if Envelope.maxSender < Utf8.size id then
    [s!"{field} is longer than {Envelope.maxSender} bytes"]
  else if id.toList.contains '|' then [s!"{field} must not contain '|'"]
  else []

/-- A secret is strong enough. -/
def checkSecret (field secret : String) : List String :=
  match SecretStrength.check field secret with
  | .ok () => []
  | .error e => [e.message]

/-- The secret in use and the one before it, if there is one, are strong enough. -/
def checkSecrets (current : String) (previous : Option String) : List String :=
  checkSecret "proxy_secret" current ++
    match previous with
    | none => []
    | some secret => checkSecret "previous_proxy_secret" secret

end Config

/-! ## Configuration of a control endpoint -/

/-- How one side sends and reads control messages. -/
structure ControlConfig where
  /-- The id under which this side sends. -/
  sender : String := "proxy"
  /-- The longest packet and the longest payload, in bytes. -/
  maxPayload : Nat := 8192
  /-- How many packets may be in work at once. -/
  maxInFlight : Nat := 256
  replayWindow : Millis := 10000
  replayMaxEntries : Nat := 100000
  /-- By how much clocks may differ. -/
  maxClockSkew : Millis := 60000
  /-- For how long sent messages are meant. -/
  ttl : Millis := 10000
deriving DecidableEq

namespace ControlConfig

open Config (sentenceIf)

/-- What is wrong with a configuration, in sentences; nothing if it can be used. -/
def problems (config : ControlConfig) : List String :=
  sentenceIf (Text.isBlank config.sender) "control.sender_id must not be blank" ++
  sentenceIf (Envelope.maxSender < Utf8.size config.sender)
    s!"control.sender_id is longer than {Envelope.maxSender} bytes" ++
  sentenceIf (config.maxPayload = 0) "control.max_payload_bytes must be positive" ++
  sentenceIf (config.maxInFlight = 0) "control.max_in_flight must be positive" ++
  sentenceIf (config.replayWindow ≤ 0) "control.replay_window_millis must be positive" ++
  sentenceIf (config.ttl ≤ 0) "control.ttl_millis must be positive" ++
  sentenceIf (config.maxClockSkew < 0) "control.max_clock_skew_millis must not be negative"

end ControlConfig

/-! ## Configuration of a proxy -/

/-- The default backend and the bound on choices under way. -/
structure RoutingConfig where
  fallback : String := "lobby"
  maxInFlight : Nat := 1024
deriving DecidableEq

/-- Secrets, lifetimes of tokens and the certificate of the proxy. -/
structure SecurityConfig where
  secret : String := ""
  previousSecret : Option String := none
  proxyTokenTtl : Millis := 10000
  transferTokenTtl : Millis := TransferToken.defaultTtl
  proxyCert : Option String := none
deriving DecidableEq

/-- The configuration of a proxy. -/
structure ProxyConfig where
  id : String := "proxy"
  /-- Where backends send players back to. -/
  referral : HostAddress := ⟨"127.0.0.1", 25565⟩
  security : SecurityConfig := {}
  backends : List Backend := []
  routing : RoutingConfig := {}
  control : ControlConfig := {}
  limits : ProtocolLimits := {}
  connectRate : RateLimitConfig := {}
deriving DecidableEq

namespace ProxyConfig

open Config (sentenceIf checkId checkSecrets)

/-- The control configuration in force: the proxy sends under its own id. -/
def effectiveControl (config : ProxyConfig) : ControlConfig :=
  { config.control with sender := config.id }

/-- What is wrong with the backends, given the ids before them. -/
def backendProblems (seen : List String) : List Backend → List String
  | [] => []
  | backend :: rest =>
      checkId "backends[].id" backend.id ++
        sentenceIf (Text.isBlank backend.host) s!"backend {backend.id} has a blank host" ++
        sentenceIf (seen.contains backend.id) s!"backend id {backend.id} is configured twice" ++
        backendProblems (backend.id :: seen) rest

/-- What is wrong with a configuration, in sentences; nothing if it can be used. -/
def problems (config : ProxyConfig) : List String :=
  checkId "proxy_id" config.id ++
  sentenceIf (Text.isBlank config.referral.host) "referral.host must not be blank" ++
  checkSecrets config.security.secret config.security.previousSecret ++
  sentenceIf (config.security.proxyTokenTtl ≤ 0)
    "security.proxy_token_ttl_millis must be positive" ++
  sentenceIf (config.security.transferTokenTtl ≤ 0)
    "security.transfer_token_ttl_millis must be positive" ++
  sentenceIf config.backends.isEmpty "at least one backend must be configured" ++
  backendProblems [] config.backends ++
  sentenceIf (!(config.backends.map Backend.id).contains config.routing.fallback)
    s!"routing.default_backend_id {config.routing.fallback} is not a configured backend" ++
  sentenceIf (config.routing.maxInFlight = 0) "routing.max_in_flight must be positive" ++
  config.effectiveControl.problems

end ProxyConfig

/-! ## Configuration of a backend's node -/

/-- The configuration of the node that stands in front of a game server. -/
structure NodeConfig where
  serverId : String := ""
  secret : String := ""
  previousSecret : Option String := none
  /-- Are players without a good token sent away? -/
  enforceProxy : Bool := true
  requireCertificates : Bool := true
  /-- Where players are sent for a transfer. -/
  proxyAddress : HostAddress := ⟨"127.0.0.1", 25565⟩
  control : ControlConfig := {}
  /-- The proxy's id on the control channel. -/
  expectedSender : String := "proxy"
  replayWindow : Millis := 10000
  replayMaxEntries : Nat := 100000
deriving DecidableEq

namespace NodeConfig

open Config (sentenceIf checkId checkSecrets)

/-- The control configuration in force: the node sends under its server's id. -/
def effectiveControl (config : NodeConfig) : ControlConfig :=
  { config.control with sender := config.serverId }

/-- What is wrong with a configuration, in sentences; nothing if it can be used. -/
def problems (config : NodeConfig) : List String :=
  checkId "server_id" config.serverId ++
  checkId "expected_sender_id" config.expectedSender ++
  checkSecrets config.secret config.previousSecret ++
  sentenceIf (Text.isBlank config.proxyAddress.host) "proxy_connect_host must not be blank" ++
  sentenceIf (config.replayWindow ≤ 0) "replay_window_millis must be positive" ++
  sentenceIf (config.replayMaxEntries = 0) "replay_max_entries must be positive" ++
  config.effectiveControl.problems

end NodeConfig

end GameGateway
