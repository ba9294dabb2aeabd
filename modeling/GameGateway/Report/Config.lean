import GameGateway.Config.LogText
import GameGateway.Guard.ReplayWindow
import GameGateway.Report.Answer

/-!
# Configurations in reports
-/

namespace GameGateway

/-- What is wrong with a configuration; an empty list if nothing is. -/
def problemsReport : List String → Json
  | [] => .array []
  | problems => .record [("list", .array (problems.map .ofText)),
      ("text", .ofText ((GatewayError.config problems).message SessionId.text ConnectionId.text))]

/-- The configuration of a control endpoint. -/
def ControlConfig.report (config : ControlConfig) : Json := .record [
  ("sender_id", .ofText config.sender),
  ("max_payload_bytes", .ofNat config.maxPayload),
  ("max_in_flight", .ofNat config.maxInFlight),
  ("replay_window_millis", .ofMillis config.replayWindow),
  ("replay_max_entries", .ofNat config.replayMaxEntries),
  ("max_clock_skew_millis", .ofMillis config.maxClockSkew),
  ("ttl_millis", .ofMillis config.ttl)]

/-- The limits of connect frames. -/
def ProtocolLimits.report (limits : ProtocolLimits) : Json :=
  .array ([limits.clientVersion, limits.language, limits.identityToken, limits.username,
    limits.referralData, limits.host, limits.frame].map .ofNat)

/-- A rate limit. -/
def RateLimitConfig.report (config : RateLimitConfig) : Json :=
  .array [.ofMillis config.window, .ofNat config.maxEvents.toNat]

/-- The bounds of a replay window. -/
def ReplayConfig.report (config : ReplayConfig) : Json :=
  .array [.ofMillis config.window, .ofNat config.maxEntries]

/-- The routing part of a configuration. -/
def RoutingConfig.report (config : RoutingConfig) : Json :=
  .array [.ofText config.fallback, .ofNat config.maxInFlight]

/-- Secrets and lifetimes of tokens. -/
def SecurityConfig.report (config : SecurityConfig) : Json := .record [
  ("proxy_secret", .ofText config.secret),
  ("previous_proxy_secret", .ofOptionalText config.previousSecret),
  ("proxy_token_ttl_millis", .ofMillis config.proxyTokenTtl),
  ("transfer_token_ttl_millis", .ofMillis config.transferTokenTtl),
  ("proxy_cert_fingerprint", .ofOptionalText config.proxyCert)]

/-- The configuration of a proxy, with what is wrong with it. -/
def ProxyConfig.report (config : ProxyConfig) : Json := .record [
  ("proxy_id", .ofText config.id),
  ("referral", .ofText config.referral.text),
  ("security", config.security.report),
  ("backends", .array (config.backends.map Backend.report)),
  ("routing", config.routing.report),
  ("control", config.control.report),
  ("effective_control", config.effectiveControl.report),
  ("limits", config.limits.report),
  ("connect_rate", config.connectRate.report),
  ("leaks_secret", .bool (leaks config.security.secret config.security.logText)),
  ("problems", problemsReport config.problems)]

/-- The configuration of a node, with what is wrong with it. -/
def NodeConfig.report (config : NodeConfig) : Json := .record [
  ("server_id", .ofText config.serverId),
  ("proxy_secret", .ofText config.secret),
  ("previous_proxy_secret", .ofOptionalText config.previousSecret),
  ("enforce_proxy", .bool config.enforceProxy),
  ("require_certificates", .bool config.requireCertificates),
  ("proxy_connect", .ofText config.proxyAddress.text),
  ("control", config.control.report),
  ("effective_control", config.effectiveControl.report),
  ("expected_sender_id", .ofText config.expectedSender),
  ("replay", ReplayConfig.report ⟨config.replayWindow, config.replayMaxEntries⟩),
  ("leaks_secret", .bool (leaks config.secret config.logText)),
  ("problems", problemsReport config.problems)]

end GameGateway
