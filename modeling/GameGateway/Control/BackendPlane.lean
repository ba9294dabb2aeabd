import GameGateway.Control.Endpoint
import GameGateway.Event.Bus
import GameGateway.Wire.ConnectFrame
import GameGateway.Wire.Notice

/-!
# A backend's side of the control channel

A backend sends a player back to the proxy when asked to, and answers every request
it can read exactly once: with success if the game server took the redirect, and
with the reason if it did not.  On its own it reports which tokens it has seen and
whether it is up.
-/

namespace GameGateway

/-- What a backend asks of its game server. -/
structure GameServer (σ : Type) where
  isConnected : σ → Uuid → Bool
  /-- Sends a player to a proxy with referral data; it may fail or panic. -/
  redirect : Uuid → (proxy : HostAddress) → (referral : Bytes) → σ → Completion × σ

/-- A backend's endpoint with the backend's name and the address it sends players to. -/
structure BackendPlane where
  endpoint : ControlEndpoint
  serverId : String
  proxyAddress : HostAddress

namespace BackendPlane

/-- The endpoint as a part of the plane. -/
def endpointSlot : Slot BackendPlane ControlEndpoint where
  get := endpoint
  set := fun endpoint plane => { plane with endpoint := endpoint }
  get_set := fun _ _ => rfl
  set_get := fun _ => rfl
  set_set := fun _ _ _ => rfl

variable {σ : Type}

/-! ## Reports -/

/-- Reports what became of the token of a player. -/
def notify (env : Surroundings σ) (slot : Slot σ BackendPlane) (player : Uuid)
    (outcome : ValidationOutcome) (reason : Option TokenFault) (s : σ) :
    Except ControlError Unit × σ :=
  match ValidationNotice.encode ⟨player, (slot.get s).serverId, outcome, reason⟩ with
  | .error e => (.error (.encode e), s)
  | .ok payload => ControlEndpoint.send env (slot.comp endpointSlot) .tokenValidation payload s

/-- Reports whether the backend is up. -/
def announce (env : Surroundings σ) (slot : Slot σ BackendPlane) (status : BackendStatus) (s : σ) :
    Except ControlError Unit × σ :=
  match StatusNotice.encode ⟨(slot.get s).serverId, status⟩ with
  | .error e => (.error (.encode e), s)
  | .ok payload => ControlEndpoint.send env (slot.comp endpointSlot) .backendStatus payload s

/-! ## Requests -/

/-- Carries a transfer out as far as it goes. -/
def transfer (slot : Slot σ BackendPlane) (server : GameServer σ) (request : TransferRequest)
    (s : σ) : TransferResult × σ :=
  if !server.isConnected s request.player then
    (.failed request.correlation .playerNotFound, s)
  else
    match server.redirect request.player (slot.get s).proxyAddress request.referral s with
    | (.done, s) => (.ok request.correlation, s)
    | (_, s) => (.failed request.correlation .internalError, s)

/-- Counts a packet that is turned away after its admission. -/
def reject (slot : Slot σ BackendPlane) (reason : RejectReason) (s : σ) : σ :=
  (slot.comp endpointSlot).modify (fun endpoint => endpoint.reject reason) s

/-- Reads an admitted envelope. -/
def process (env : Surroundings σ) (slot : Slot σ BackendPlane) (server : GameServer σ)
    (envelope : Envelope) (s : σ) : σ :=
  match envelope.kind with
  | .transferRequest =>
      match TransferRequest.decode? envelope.payload with
      | none => reject slot .malformedPayload s
      | some request =>
          let (result, s) := transfer slot server request s
          (ControlEndpoint.send env (slot.comp endpointSlot) .transferResult result.encode s).2
  | _ => reject slot .unsupportedType s

/-- Handles a packet from the control channel. -/
def handlePacket (env : Surroundings σ) (slot : Slot σ BackendPlane) (server : GameServer σ)
    (packet : Bytes) (s : σ) : σ :=
  ControlEndpoint.handle env (slot.comp endpointSlot) (process env slot server) packet s

end BackendPlane

end GameGateway
