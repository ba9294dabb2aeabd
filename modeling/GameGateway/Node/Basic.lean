import GameGateway.Control.BackendPlane
import GameGateway.Error
import GameGateway.Config.Basic
import GameGateway.Token.ProxyToken

/-!
# Nodes

A node stands in front of a backend's game server.  It looks at the token in the
frame that the proxy has forwarded, tells the proxy what it found, and admits the
client or not.  A node that does not enforce the proxy admits clients without a good
token as well, as unverified.
-/

namespace GameGateway

/-- What a node finds of a client it admits. -/
inductive HandshakeVerdict where
  | verified (token : ValidatedToken)
  | unverified (rejection : TokenRejection)

/-- A running node. -/
structure BackendNode where
  config : NodeConfig
  secrets : Secrets
  /-- The tokens used lately. -/
  used : ReplayWindow TokenUse
  plane : BackendPlane

namespace BackendNode

/-- A node as it starts at `now` under a configuration, whether or not that has
problems. -/
def start (config : NodeConfig) (now : Millis) : BackendNode where
  config := config
  secrets := ⟨Utf8.encode config.secret, config.previousSecret.toList.map Utf8.encode⟩
  used := .new ⟨config.replayWindow, config.replayMaxEntries⟩ now
  plane :=
    { endpoint := .new config.effectiveControl (.exactly config.expectedSender) now
      serverId := config.serverId
      proxyAddress := config.proxyAddress }

/-- Starts a node under a configuration without problems. -/
def build (config : NodeConfig) (now : Millis) : Except GatewayError BackendNode :=
  if config.problems.isEmpty then .ok (start config now) else .error (.config config.problems)

/-- The control side as a part of the node. -/
def planeSlot : Slot BackendNode BackendPlane where
  get := plane
  set := fun plane node => { node with plane := plane }
  get_set := fun _ _ => rfl
  set_get := fun _ => rfl
  set_set := fun _ _ _ => rfl

/-- The tokens that the node takes. -/
def policy (node : BackendNode) : TokenPolicy :=
  ⟨node.config.serverId, node.config.requireCertificates⟩

variable {σ : Type}

/-- Tells the proxy what became of a player's token; whether that can be sent makes no
difference to the player. -/
def notify (env : Surroundings σ) (slot : Slot σ BackendNode) (player : Uuid)
    (outcome : ValidationOutcome) (reason : Option TokenFault) (s : σ) : σ :=
  (BackendPlane.notify env (slot.comp planeSlot) player outcome reason s).2

/-- Looks at the frame of a client. -/
def handleHandshake (env : Surroundings σ) (slot : Slot σ BackendNode) (frame : ConnectFrame)
    (s : σ) : Except GatewayError HandshakeVerdict × σ :=
  let node := slot.get s
  let (result, used) := Handshake.present node.policy node.secrets.accepted (env.now s)
    frame.referralData frame.playerId node.used
  let s := slot.modify (fun node => { node with used := used }) s
  match result with
  | .ok token => (.ok (.verified token),
      notify env slot token.token.claims.player .accepted none s)
  | .error rejection =>
      let s := match frame.playerId with
        | none => s
        | some player => notify env slot player .rejected (some rejection.fault) s
      (if node.config.enforceProxy then .error (.rejected rejection)
        else .ok (.unverified rejection), s)

end BackendNode

end GameGateway
