import GameGateway.Guard.ReplayWindow
import GameGateway.Json.Basic
import GameGateway.Config.Basic

/-!
# Reading configurations

Every configuration is a record in JSON, and whatever is left out has its default;
only a backend must be given in full.
-/

namespace GameGateway

open Json (text? bool? count? int64? uint16? uint32? optional? list? fields?)

/-- Reads the limits of connect frames. -/
def ProtocolLimits.ofJson? (json : Json) : Option ProtocolLimits := do
  let fields ← fields? ["max_client_version_len", "max_language_len", "max_identity_token_len",
    "max_username_len", "max_referral_data_len", "max_host_len", "max_frame_size"] json
  let usual : ProtocolLimits := {}
  return {
    clientVersion := ← fields.withDefault "max_client_version_len" count? usual.clientVersion
    language := ← fields.withDefault "max_language_len" count? usual.language
    identityToken := ← fields.withDefault "max_identity_token_len" count? usual.identityToken
    username := ← fields.withDefault "max_username_len" count? usual.username
    referralData := ← fields.withDefault "max_referral_data_len" count? usual.referralData
    host := ← fields.withDefault "max_host_len" count? usual.host
    frame := ← fields.withDefault "max_frame_size" count? usual.frame }

/-- Reads a rate limit. -/
def RateLimitConfig.ofJson? (json : Json) : Option RateLimitConfig := do
  let fields ← fields? ["window_millis", "max_events"] json
  let usual : RateLimitConfig := {}
  return {
    window := ← fields.withDefault "window_millis" int64? usual.window
    maxEvents := ← fields.withDefault "max_events" uint32? usual.maxEvents }

/-- Reads the bounds of a replay window. -/
def ReplayConfig.ofJson? (json : Json) : Option ReplayConfig := do
  let fields ← fields? ["window_millis", "max_entries"] json
  let usual : ReplayConfig := {}
  return {
    window := ← fields.withDefault "window_millis" int64? usual.window
    maxEntries := ← fields.withDefault "max_entries" count? usual.maxEntries }

/-- Reads a backend. -/
def Backend.ofJson? (json : Json) : Option Backend := do
  let fields ← fields? ["id", "host", "port"] json
  return {
    id := ← fields.required "id" text?
    host := ← fields.required "host" text?
    number := ← fields.required "port" uint16? }

/-- Reads the routing part of a configuration. -/
def RoutingConfig.ofJson? (json : Json) : Option RoutingConfig := do
  let fields ← fields? ["default_backend_id", "max_in_flight"] json
  let usual : RoutingConfig := {}
  return {
    fallback := ← fields.withDefault "default_backend_id" text? usual.fallback
    maxInFlight := ← fields.withDefault "max_in_flight" count? usual.maxInFlight }

/-- Reads the configuration of a control endpoint. -/
def ControlConfig.ofJson? (json : Json) : Option ControlConfig := do
  let fields ← fields? ["sender_id", "max_payload_bytes", "max_in_flight", "replay_window_millis",
    "replay_max_entries", "max_clock_skew_millis", "ttl_millis"] json
  let usual : ControlConfig := {}
  return {
    sender := ← fields.withDefault "sender_id" text? usual.sender
    maxPayload := ← fields.withDefault "max_payload_bytes" count? usual.maxPayload
    maxInFlight := ← fields.withDefault "max_in_flight" count? usual.maxInFlight
    replayWindow := ← fields.withDefault "replay_window_millis" int64? usual.replayWindow
    replayMaxEntries := ← fields.withDefault "replay_max_entries" count? usual.replayMaxEntries
    maxClockSkew := ← fields.withDefault "max_clock_skew_millis" int64? usual.maxClockSkew
    ttl := ← fields.withDefault "ttl_millis" int64? usual.ttl }

/-- Reads the address that players are sent back to; what is left out is as in `usual`. -/
def HostAddress.ofJson? (usual : HostAddress) (json : Json) : Option HostAddress := do
  let fields ← fields? ["host", "port"] json
  return {
    host := ← fields.withDefault "host" text? usual.host
    number := ← fields.withDefault "port" uint16? usual.number }

/-- Reads secrets and lifetimes of tokens. -/
def SecurityConfig.ofJson? (json : Json) : Option SecurityConfig := do
  let fields ← fields? ["proxy_secret", "previous_proxy_secret", "proxy_token_ttl_millis",
    "transfer_token_ttl_millis", "proxy_cert_fingerprint"] json
  let usual : SecurityConfig := {}
  return {
    secret := ← fields.withDefault "proxy_secret" text? usual.secret
    previousSecret :=
      ← fields.withDefault "previous_proxy_secret" (optional? text?) usual.previousSecret
    proxyTokenTtl := ← fields.withDefault "proxy_token_ttl_millis" int64? usual.proxyTokenTtl
    transferTokenTtl :=
      ← fields.withDefault "transfer_token_ttl_millis" int64? usual.transferTokenTtl
    proxyCert := ← fields.withDefault "proxy_cert_fingerprint" (optional? text?) usual.proxyCert }

/-- Reads the configuration of a proxy. -/
def ProxyConfig.ofJson? (json : Json) : Option ProxyConfig := do
  let fields ← fields? ["proxy_id", "referral", "security", "backends", "routing", "control",
    "limits", "connect_rate"] json
  let usual : ProxyConfig := {}
  return {
    id := ← fields.withDefault "proxy_id" text? usual.id
    referral := ← fields.withDefault "referral" (HostAddress.ofJson? usual.referral) usual.referral
    security := ← fields.withDefault "security" SecurityConfig.ofJson? usual.security
    backends := ← fields.withDefault "backends" (list? Backend.ofJson?) usual.backends
    routing := ← fields.withDefault "routing" RoutingConfig.ofJson? usual.routing
    control := ← fields.withDefault "control" ControlConfig.ofJson? usual.control
    limits := ← fields.withDefault "limits" ProtocolLimits.ofJson? usual.limits
    connectRate := ← fields.withDefault "connect_rate" RateLimitConfig.ofJson? usual.connectRate }

/-- Reads the configuration of a backend's node. -/
def NodeConfig.ofJson? (json : Json) : Option NodeConfig := do
  let fields ← fields? ["server_id", "proxy_secret", "previous_proxy_secret", "enforce_proxy",
    "require_certificates", "proxy_connect_host", "proxy_connect_port", "control",
    "expected_sender_id", "replay_window_millis", "replay_max_entries"] json
  let usual : NodeConfig := {}
  let host ← fields.withDefault "proxy_connect_host" text? usual.proxyAddress.host
  let number ← fields.withDefault "proxy_connect_port" uint16? usual.proxyAddress.number
  return {
    serverId := ← fields.withDefault "server_id" text? usual.serverId
    secret := ← fields.withDefault "proxy_secret" text? usual.secret
    previousSecret :=
      ← fields.withDefault "previous_proxy_secret" (optional? text?) usual.previousSecret
    enforceProxy := ← fields.withDefault "enforce_proxy" bool? usual.enforceProxy
    requireCertificates :=
      ← fields.withDefault "require_certificates" bool? usual.requireCertificates
    proxyAddress := ⟨host, number⟩
    control := ← fields.withDefault "control" ControlConfig.ofJson? usual.control
    expectedSender := ← fields.withDefault "expected_sender_id" text? usual.expectedSender
    replayWindow := ← fields.withDefault "replay_window_millis" int64? usual.replayWindow
    replayMaxEntries := ← fields.withDefault "replay_max_entries" count? usual.replayMaxEntries }

end GameGateway
