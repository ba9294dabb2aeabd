import GameGateway.Control.Availability
import GameGateway.Control.Endpoint
import GameGateway.Session.Registry
import GameGateway.Wire.Notice

/-!
# The proxy's side of the control channel

The proxy asks backends to hand players over and reads what they report: how a
transfer ended, whether they took a player, and whether they are up.  A report
changes nothing but the session of the player it is about, the availability of the
backend it is about, and the transfers the proxy still waits for.
-/

namespace GameGateway

/-- A transfer request without an answer yet. -/
structure PendingTransfer where
  startedAt : Millis
  player : Uuid
deriving DecidableEq

/-- The proxy's endpoint with what its messages are about. -/
structure ProxyPlane where
  endpoint : ControlEndpoint
  sessions : SessionRegistry := {}
  availability : AvailabilityTracker := {}
  pending : Table Uuid PendingTransfer := .empty
  /-- The status that each backend reported last. -/
  reported : Table String BackendStatus := .empty

namespace ProxyPlane

/-- The endpoint as a part of the plane. -/
def endpointSlot : Slot ProxyPlane ControlEndpoint where
  get := endpoint
  set := fun endpoint plane => { plane with endpoint := endpoint }
  get_set := fun _ _ => rfl
  set_get := fun _ => rfl
  set_set := fun _ _ _ => rfl

variable {σ : Type}

/-! ## Requests -/

/-- Asks a backend for a transfer; while there is no answer the request is pending. -/
def requestTransfer (env : Surroundings σ) (slot : Slot σ ProxyPlane) (request : TransferRequest)
    (s : σ) : Except ControlError Unit × σ :=
  match request.encode with
  | .error e => (.error (.encode e), s)
  | .ok payload =>
      -- The answer may come in while the request is being sent, and has to find this.
      let pending : PendingTransfer := ⟨env.now s, request.player⟩
      let s := slot.modify (fun plane =>
        { plane with pending := plane.pending.insert request.correlation pending }) s
      match ControlEndpoint.send env (slot.comp endpointSlot) .transferRequest payload s with
      | (.ok (), s) => (.ok (), s)
      | (.error e, s) => (.error e, slot.modify (fun plane =>
          { plane with pending := plane.pending.erase request.correlation }) s)

/-! ## Reports -/

/-- The plane after a transfer of the player has failed: the player's session, if it is
under way, plays on. -/
def restore (plane : ProxyPlane) (player : Uuid) : ProxyPlane :=
  match plane.sessions.findByPlayer player with
  | none => plane
  | some id => { plane with sessions := plane.sessions.update id Session.restore }

/-- The plane after the answer to a transfer request has come in. -/
def settle (plane : ProxyPlane) (result : TransferResult) : ProxyPlane :=
  let settled := { plane with pending := plane.pending.erase result.correlation }
  match plane.pending.get? result.correlation with
  | none => settled
  | some pending => if result.status = .failed then settled.restore pending.player else settled

/-- The answer to a transfer request. -/
def onResult (env : Surroundings σ) (slot : Slot σ ProxyPlane) (result : TransferResult)
    (s : σ) : σ :=
  let pending := (slot.get s).pending.get? result.correlation
  let latency := pending.map fun pending => max 0 (env.now s - pending.startedAt)
  let s := slot.modify (fun plane => plane.settle result) s
  (env.post .transferCompleted
    ⟨result.correlation, pending.map PendingTransfer.player, result.status, result.reason, latency⟩
    s).2

/-- The session that a backend may take the player on, with the session as it then is. -/
def authenticated? (plane : ProxyPlane) (player : Uuid) (backend : String) :
    Option (SessionId × Session) := do
  let id ← plane.sessions.findByPlayer player
  let session ← plane.sessions.session? id
  match session.authenticate backend with
  | .ok session => some (id, session)
  | .error _ => none

/-- What a backend says about the token of a player. -/
def onValidation (env : Surroundings σ) (slot : Slot σ ProxyPlane) (notice : ValidationNotice)
    (s : σ) : σ :=
  let (_, s) := env.post .tokenValidated
    ⟨notice.player, notice.backend, notice.outcome, notice.reason⟩ s
  if notice.outcome ≠ .accepted then s
  else
    match (slot.get s).authenticated? notice.player notice.backend with
    | none => s
    | some (id, session) =>
        let s := slot.modify (fun plane =>
          { plane with sessions := plane.sessions.update id fun _ => session }) s
        (env.post .playerAuthenticated ⟨id, notice.player, notice.backend⟩ s).2

/-- The plane after a backend has reported its status. -/
def hear (plane : ProxyPlane) (now : Millis) (notice : StatusNotice) : ProxyPlane :=
  { plane with
    availability := match notice.status with
      | .online => plane.availability.markOnline now notice.backend
      | .offline => plane.availability.markOffline notice.backend
    reported := plane.reported.insert notice.backend notice.status }

/-- What a backend says about itself. -/
def onStatus (env : Surroundings σ) (slot : Slot σ ProxyPlane) (notice : StatusNotice)
    (s : σ) : σ :=
  -- Even a status that is reported again is a sign of life, but no event.
  let previous := (slot.get s).reported.get? notice.backend
  let s := slot.modify (fun plane => plane.hear (env.now s) notice) s
  if previous = some notice.status then s
  else (env.post .backendStatusChanged ⟨notice.backend, previous, notice.status⟩ s).2

/-- Counts a packet that is turned away after its admission. -/
def reject (slot : Slot σ ProxyPlane) (reason : RejectReason) (s : σ) : σ :=
  (slot.comp endpointSlot).modify (fun endpoint => endpoint.reject reason) s

/-- Hands a decoded payload on, or counts a payload that does not decode. -/
def dispatch {α : Type} (slot : Slot σ ProxyPlane) (handler : α → σ → σ) (s : σ) : Option α → σ
  | some payload => handler payload s
  | none => reject slot .malformedPayload s

/-- Reads an admitted envelope. -/
def process (env : Surroundings σ) (slot : Slot σ ProxyPlane) (envelope : Envelope) (s : σ) : σ :=
  match envelope.kind with
  | .transferResult =>
      dispatch slot (onResult env slot) s (TransferResult.decode? envelope.payload)
  | .tokenValidation =>
      dispatch slot (onValidation env slot) s (ValidationNotice.decode? envelope.payload)
  | .backendStatus =>
      dispatch slot (onStatus env slot) s (StatusNotice.decode? envelope.payload)
  | .transferRequest => reject slot .unsupportedType s

/-- Handles a packet from the control channel. -/
def handlePacket (env : Surroundings σ) (slot : Slot σ ProxyPlane) (packet : Bytes) (s : σ) : σ :=
  ControlEndpoint.handle env (slot.comp endpointSlot) (process env slot) packet s

end ProxyPlane

end GameGateway
