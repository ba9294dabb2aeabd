import GameGateway.Proxy.Basic
import GameGateway.Token.Claims
import GameGateway.Token.ProxyToken

/-!
# Connections of clients

A client that connects gets a session and a backend, and its first frame goes on to
that backend with a token of the proxy in the place of the referral.  The session of
the same player that was there before is replaced.  When no backend is chosen or the
frame cannot be written, the session ends again.

A client that shows a good transfer token goes to the backend the token names.  One
that shows a bad transfer token is turned away; anything else it shows counts for
nothing.
-/

namespace GameGateway

/-- An accepted connection. -/
structure Accepted where
  session : SessionId
  backend : Backend
  reason : SelectionReason
  /-- The frame that goes to the backend. -/
  frame : Bytes

namespace Proxy

/-! ## Reading what the client says -/

/-- The frame of a client and its player. -/
def readFrame (proxy : Proxy) (bytes : Bytes) : Except GatewayError (ConnectFrame × Uuid) :=
  match ConnectFrame.decode? proxy.config.limits bytes with
  | none => .error (.malformedConnect .undecodable)
  | some frame =>
      match frame.playerId with
      | none => .error (.malformedConnect .withoutPlayer)
      | some player => .ok (frame, player)

/-- The text that a client shows, without spaces and control characters around it. -/
def shownText? (frame : ConnectFrame) : Option String := do
  let text ← Utf8.decode (← frame.referralData)
  match Text.trimWhere (· ≤ ' ') text.toList with
  | [] => none
  | cs => some (String.ofList cs)

/-- Does the text begin like a transfer token? -/
def looksLikeTransfer (text : String) : Bool :=
  (TokenKind.transfer.tag ++ ".").toList.isPrefixOf text.toList

/-- The backend that a client asks for, if it asks for one that exists. -/
def requestedBackend (proxy : Proxy) (now : Millis) (frame : ConnectFrame) (player : Uuid) :
    Except GatewayError (Option String) :=
  match shownText? frame with
  | none => .ok none
  | some text =>
      match TransferToken.validate proxy.secrets.accepted now player text with
      -- A good token for a backend that does not exist asks for nothing.
      | .ok token => .ok ((proxy.routing.router.backends.get? token.claims.target).map Backend.id)
      | .error rejection =>
          if looksLikeTransfer text then .error (.rejected rejection) else .ok none

/-! ## Sessions -/

/-- Opens the session of a player: its number, the session it replaces, and the proxy
with it. -/
def openSession (proxy : Proxy) (frame : ConnectFrame) (player : Uuid) (client : ConnectionId)
    (certificate : Option Bytes) : SessionId × Option SessionId × Proxy :=
  let session : Session :=
    { state := .handshaking
      username := frame.username
      clientCert := certificate.map Fingerprint.ofCertificate
      clientLink := some client }
  let (id, sessions) := proxy.plane.sessions.add session true
  let (replaced, sessions) := sessions.bindPlayer id player
  (id, replaced, proxy.withSessions fun _ => sessions)

variable {σ : Type}

/-- Tells the observers that a session has ended. -/
def announceEnd (env : Surroundings σ) (id : SessionId) (reason : Option String) (s : σ) : σ :=
  (env.post .playerDisconnected ⟨id, reason⟩ s).2

/-- Ends a session; the answer is whether it was registered. -/
def disconnect (env : Surroundings σ) (slot : Slot σ Proxy) (id : SessionId)
    (reason : Option String) (s : σ) : Bool × σ :=
  let (removed, sessions) := (slot.get s).plane.sessions.remove id
  let s := slot.modify (fun proxy => proxy.withSessions fun _ => sessions) s
  if removed then (true, announceEnd env id reason s) else (false, s)

/-- Gives a session the link to its backend, which is thereby known to be up. -/
def attachBackend (env : Surroundings σ) (slot : Slot σ Proxy) (id : SessionId)
    (link : ConnectionId) (s : σ) : Except GatewayError Unit × σ :=
  match (slot.get s).plane.sessions.get id with
  | .error e => (.error (.session e), s)
  | .ok session =>
      let s := slot.modify (fun proxy =>
        proxy.updateSession id fun session => { session with backendLink := some link }) s
      match session.selectedBackend with
      | none => (.ok (), s)
      | some backend => (.ok (), slot.modify (fun proxy =>
          proxy.withAvailability fun tracker => tracker.markOnline (env.now s) backend) s)

/-- Notes that a backend could not be reached. -/
def reportUnreachable (env : Surroundings σ) (slot : Slot σ Proxy) (backend : String) (s : σ) : σ :=
  slot.modify (fun proxy =>
    proxy.withAvailability fun tracker => tracker.markUnavailable (env.now s) backend) s

/-! ## Accepting -/

/-- The frame for a chosen backend, with a fresh token of the proxy. -/
def forward (proxy : Proxy) (now : Millis) (nonce : Nonce) (frame : ConnectFrame) (player : Uuid)
    (clientCert : Option String) (backend : String) : Except GatewayError Bytes := do
  let token ← (ProxyToken.issue proxy.secrets.current proxy.config.security.proxyTokenTtl now nonce
    player backend clientCert proxy.config.security.proxyCert).mapError .token
  ((frame.withReferral (Utf8.encode token) proxy.config.referral).encode
    proxy.config.limits).mapError .wire

/-- Chooses a backend for an open session and writes the frame for it. -/
def route (env : Surroundings σ) (slot : Slot σ Proxy) (id : SessionId) (frame : ConnectFrame)
    (player : Uuid) (address : Option ClientAddress) (requested : Option String) (s : σ) :
    Except GatewayError Accepted × σ :=
  let context := { RoutingContext.ofFrame frame address with requested := requested }
  match selectBackend env slot context requested.isNone s with
  | (.error e, s) => (.error (.routing e), s)
  | (.ok selection, s) =>
      let (nonce, s) := env.draw s
      let proxy := slot.get s
      let clientCert := (proxy.session? id).bind Session.clientCert
      match proxy.forward (env.now s) nonce frame player clientCert selection.backend.id with
      | .error e => (.error e, s)
      | .ok bytes =>
          (.ok ⟨id, selection.backend, selection.reason, bytes⟩, slot.modify (fun proxy =>
            proxy.updateSession id fun session =>
              { session with selectedBackend := some selection.backend.id }) s)

/-- Opens a session for a client whose frame has been read, and routes it. -/
def welcome (env : Surroundings σ) (slot : Slot σ Proxy) (frame : ConnectFrame) (player : Uuid)
    (client : ConnectionId) (address : Option ClientAddress) (certificate : Option Bytes)
    (requested : Option String) (s : σ) : Except GatewayError Accepted × σ :=
  let (id, replaced, proxy) := (slot.get s).openSession frame player client certificate
  let s := slot.set proxy s
  -- The old session has ended for the observers before the new one begins.
  let s := match replaced with
    | none => s
    | some old =>
        announceEnd env old
          (some (if requested.isSome then "transferred" else "replaced by a new connection")) s
  let (_, s) := env.post .playerConnected ⟨id, address⟩ s
  match route env slot id frame player address requested s with
  | (.ok accepted, s) => (.ok accepted, s)
  | (.error e, s) =>
      let reason := e.message SessionId.text ConnectionId.text
      (.error e, (disconnect env slot id (some reason) s).2)

/-- Counts a connection attempt from an address, and refuses one too many. -/
def countAttempt (env : Surroundings σ) (slot : Slot σ Proxy) (address : Option ClientAddress)
    (s : σ) : Except GatewayError Unit × σ :=
  match address with
  | none => (.ok (), s)
  | some address =>
      let (admitted, connects) := (slot.get s).connects.tryAcquire (env.now s) address.ip
      (if admitted then .ok () else .error (.rateLimited address.ip),
        slot.modify (fun proxy => { proxy with connects := connects }) s)

/-- Accepts a connection by its first frame. -/
def acceptConnection (env : Surroundings σ) (slot : Slot σ Proxy) (bytes : Bytes)
    (client : ConnectionId) (address : Option ClientAddress) (certificate : Option Bytes) (s : σ) :
    Except GatewayError Accepted × σ :=
  match countAttempt env slot address s with
  | (.error e, s) => (.error e, s)
  | (.ok (), s) =>
      let proxy := slot.get s
      match proxy.readFrame bytes with
      | .error e => (.error e, s)
      | .ok (frame, player) =>
          match proxy.requestedBackend (env.now s) frame player with
          | .error e => (.error e, s)
          | .ok requested => welcome env slot frame player client address certificate requested s

end Proxy

end GameGateway
