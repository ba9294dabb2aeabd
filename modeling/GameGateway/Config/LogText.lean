import GameGateway.Config.Basic
import GameGateway.Text.Quoted

/-!
# Configurations in logs

Logs show configurations without their secrets: where a secret stands, they say that
it was left out.  `leaks` tells whether a secret can be read in a log all the same,
which happens when it is a part of what is shown anyway.
-/

namespace GameGateway

/-- What stands in the place of a secret. -/
def redacted : String := Text.quote "<redacted>"

/-- A named record with its fields; two points stand for fields that are hidden. -/
def recordText (name : String) (fields : List (String × String)) (hidesFields : Bool) : String :=
  let shown := fields.map fun (field, value) => field ++ ": " ++ value
  let shown := if hidesFields then shown ++ [".."] else shown
  name ++ " \x7b " ++ String.intercalate ", " shown ++ " \x7d"

/-- A value that may be absent. -/
def optionText (text : Option String) : String :=
  match text with
  | none => "None"
  | some text => "Some(" ++ text ++ ")"

/-- The secrets part of a configuration. -/
def SecurityConfig.logText (config : SecurityConfig) : String :=
  recordText "SecurityConfig" [
    ("proxy_secret", redacted),
    ("previous_proxy_secret", optionText (config.previousSecret.map fun _ => redacted)),
    ("proxy_token_ttl_millis", config.proxyTokenTtl.text),
    ("transfer_token_ttl_millis", config.transferTokenTtl.text),
    ("proxy_cert_fingerprint", optionText (config.proxyCert.map Text.quote))] false

/-- The configuration of a control endpoint. -/
def ControlConfig.logText (config : ControlConfig) : String :=
  recordText "ControlPlaneConfig" [
    ("sender_id", Text.quote config.sender),
    ("max_payload_bytes", toString config.maxPayload),
    ("max_in_flight", toString config.maxInFlight),
    ("replay_window_millis", config.replayWindow.text),
    ("replay_max_entries", toString config.replayMaxEntries),
    ("max_clock_skew_millis", config.maxClockSkew.text),
    ("ttl_millis", config.ttl.text)] false

/-- The configuration of a node. -/
def NodeConfig.logText (config : NodeConfig) : String :=
  recordText "BackendNodeConfig" [
    ("server_id", Text.quote config.serverId),
    ("proxy_secret", redacted),
    ("enforce_proxy", toString config.enforceProxy),
    ("require_certificates", toString config.requireCertificates),
    ("proxy_connect_host", Text.quote config.proxyAddress.host),
    ("proxy_connect_port", toString config.proxyAddress.number.toNat),
    ("control", config.control.logText),
    ("expected_sender_id", Text.quote config.expectedSender),
    ("replay_window_millis", config.replayWindow.text),
    ("replay_max_entries", toString config.replayMaxEntries)] true

/-- Do the first characters stand one behind the other somewhere in the second? -/
def occursIn (part : List Char) : List Char → Bool
  | [] => part.isEmpty
  | first :: rest => part.isPrefixOf (first :: rest) || occursIn part rest

/-- Does the text contain the secret, which is not empty? -/
def leaks (secret text : String) : Bool :=
  secret ≠ "" && occursIn secret.toList text.toList

end GameGateway
