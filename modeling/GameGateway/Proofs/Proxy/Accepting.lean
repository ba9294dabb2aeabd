import GameGateway.Proofs.Chains
import GameGateway.Proofs.Quiet
import GameGateway.Proxy.Connection

/-!
# Accepted connections

A connection that a proxy accepts has gone through many hands: attempts were counted,
a session was opened, observers were asked and told, and a backend was chosen.  None
of this touches what the forwarded frame is made of.  In quiet surroundings the frame
is the client's own with a token for the chosen backend, made of the configuration,
the secret and the clock as they were when the call began, and of the certificate the
client gave (`Proxy.acceptConnection_eq_ok`).
-/

namespace GameGateway

/-! ## Sessions keep their certificate -/

namespace SessionRegistry

theorem clientCert_update (r : SessionRegistry) (key id : SessionId) (f : Session → Session)
    (hf : ∀ session, (f session).clientCert = session.clientCert) :
    ((r.update key f).session? id).bind Session.clientCert =
      (r.session? id).bind Session.clientCert := by
  unfold session? update
  rw [Table.get?_update]
  split
  · cases r.entries.get? id with
    | none => rfl
    | some entry => exact hf entry.session
  · rfl

theorem clientCert_retire (r : SessionRegistry) (key id : SessionId) :
    ((r.retire key).session? id).bind Session.clientCert =
      (r.session? id).bind Session.clientCert := by
  unfold session? retire
  rw [Table.get?_update]
  split
  · cases r.entries.get? id with
    | none => rfl
    | some entry => rfl
  · rfl

/-- Binding a session to a player changes no certificate. -/
theorem clientCert_bindPlayer (r : SessionRegistry) (key id : SessionId) (player : Uuid) :
    ((r.bindPlayer key player).2.session? id).bind Session.clientCert =
      (r.session? id).bind Session.clientCert := by
  have hupdate := r.clientCert_update key id (fun session => { session with player := some player })
    fun _ => rfl
  unfold bindPlayer
  dsimp only
  split
  · exact hupdate
  · split
    · exact (clientCert_retire _ _ id).trans hupdate
    · exact hupdate

end SessionRegistry

namespace Proxy

/-- A new session has the certificate that its client gave. -/
theorem clientCert_openSession (proxy : Proxy) (frame : ConnectFrame) (player : Uuid)
    (client : ConnectionId) (certificate : Option Bytes) :
    ((proxy.openSession frame player client certificate).2.2.session?
        (proxy.openSession frame player client certificate).1).bind Session.clientCert =
      certificate.map Fingerprint.ofCertificate := by
  unfold openSession session? withSessions
  dsimp only
  rw [SessionRegistry.clientCert_bindPlayer]
  simp [SessionRegistry.add, SessionRegistry.session?]

/-! ## What the frame is made of -/

variable {σ : Type} {env : Surroundings σ} {slot : Slot σ Proxy}

/-- Between two states nothing has changed that tokens are made of. -/
structure Undisturbed (env : Surroundings σ) (slot : Slot σ Proxy) (s s' : σ) : Prop where
  config : (slot.get s').config = (slot.get s).config
  secrets : (slot.get s').secrets = (slot.get s).secrets
  plane : (slot.get s').plane = (slot.get s).plane
  now : env.now s' = env.now s

namespace Undisturbed

theorem of_same {s s' : σ} (hget : slot.get s' = slot.get s) (hnow : env.now s' = env.now s) :
    Undisturbed env slot s s' :=
  ⟨by rw [hget], by rw [hget], by rw [hget], hnow⟩

theorem trans {s s' s'' : σ} (h : Undisturbed env slot s s') (h' : Undisturbed env slot s' s'') :
    Undisturbed env slot s s'' :=
  ⟨h'.config.trans h.config, h'.secrets.trans h.secrets, h'.plane.trans h.plane,
    h'.now.trans h.now⟩

theorem post (h : env.Quiet slot) (kind : EventKind) (event : Event kind) (s : σ) :
    Undisturbed env slot s (env.post kind event s).2 :=
  of_same (h.post kind event s).1 (h.post kind event s).2

theorem draw (h : env.Quiet slot) (s : σ) : Undisturbed env slot s (env.draw s).2 :=
  of_same (h.draw s).1 (h.draw s).2

theorem modifyRouting (h : env.Quiet slot) (f : Routing → Routing) (s : σ) :
    Undisturbed env slot s ((slot.comp routingSlot).modify f s) := by
  have hget : slot.get ((slot.comp routingSlot).modify f s) = routingSlot.modify f (slot.get s) :=
    slot.get_set _ _
  refine ⟨?_, ?_, ?_, (h.comp routingSlot).now_modify f s⟩
  · rw [hget]
    rfl
  · rw [hget]
    rfl
  · rw [hget]
    rfl

end Undisturbed

theorem decide_undisturbed (h : env.Quiet slot) (context : RoutingContext) (initial : Bool)
    (s : σ) : Undisturbed env slot s (Routing.decide env (slot.comp routingSlot)
      (isUnavailable env slot) context initial s).2 := by
  unfold Routing.decide
  dsimp only
  split
  · exact .post h _ _ _
  · exact (Undisturbed.post h _ _ _).trans (.post h _ _ _)

/-- Choosing a backend changes nothing that tokens are made of. -/
theorem selectBackend_undisturbed (h : env.Quiet slot) (context : RoutingContext)
    (initial : Bool) (s : σ) :
    Undisturbed env slot s (selectBackend env slot context initial s).2 := by
  unfold selectBackend Routing.select
  split
  · exact .of_same rfl rfl
  · rename_i limiter _
    have hacquired := Undisturbed.modifyRouting h
      (fun routing => { routing with limiter := limiter }) s
    have hdecided := hacquired.trans (decide_undisturbed h context initial _)
    exact hdecided.trans (Undisturbed.modifyRouting h
      (fun routing => { routing with limiter := routing.limiter.giveBack }) _)

theorem forward_congr {proxy other : Proxy} (hconfig : other.config = proxy.config)
    (hsecrets : other.secrets = proxy.secrets) : other.forward = proxy.forward := by
  funext now nonce frame player clientCert backend
  rw [forward, forward, hconfig, hsecrets]

/-- A connection is routed with the frame for the chosen backend. -/
theorem route_eq_ok (h : env.Quiet slot) {id : SessionId} {frame : ConnectFrame} {player : Uuid}
    {address : Option ClientAddress} {requested : Option String} {s : σ} {a : Accepted}
    (hroute : (route env slot id frame player address requested s).1 = .ok a) :
    ∃ nonce, (slot.get s).forward (env.now s) nonce frame player
      (((slot.get s).session? id).bind Session.clientCert) a.backend.id = .ok a.frame := by
  have hselect := selectBackend_undisturbed h
    { RoutingContext.ofFrame frame address with requested := requested } requested.isNone s
  unfold route at hroute
  dsimp only at hroute
  split at hroute
  · cases hroute
  · rename_i selection chosen hselected
    rw [hselected] at hselect
    have hdrawn := hselect.trans (.draw h chosen)
    split at hroute
    · cases hroute
    · rename_i bytes hforward
      cases hroute
      refine ⟨(env.draw chosen).1, ?_⟩
      rw [forward_congr hdrawn.config hdrawn.secrets, hdrawn.now, session?,
        hdrawn.plane] at hforward
      exact hforward

theorem announceEnd_undisturbed (h : env.Quiet slot) (id : SessionId) (reason : Option String)
    (s : σ) : Undisturbed env slot s (announceEnd env id reason s) :=
  .post h _ _ _

/-- A client is welcomed with a frame for the certificate it gave. -/
theorem welcome_eq_ok (h : env.Quiet slot) {frame : ConnectFrame} {player : Uuid}
    {client : ConnectionId} {address : Option ClientAddress} {certificate : Option Bytes}
    {requested : Option String} {s : σ} {a : Accepted}
    (hwelcome : (welcome env slot frame player client address certificate requested s).1 = .ok a) :
    ∃ nonce, (slot.get s).forward (env.now s) nonce frame player
      (certificate.map Fingerprint.ofCertificate) a.backend.id = .ok a.frame := by
  have hcert := (slot.get s).clientCert_openSession frame player client certificate
  have hopened : ∀ s', Undisturbed env slot
      (slot.set ((slot.get s).openSession frame player client certificate).2.2 s) s' →
      ∀ id, (route env slot ((slot.get s).openSession frame player client certificate).1 frame
        player address requested s').1 = .ok id →
        ∃ nonce, (slot.get s).forward (env.now s) nonce frame player
          (certificate.map Fingerprint.ofCertificate) id.backend.id = .ok id.frame := by
    intro s' hs' accepted hroute
    obtain ⟨nonce, hforward⟩ := route_eq_ok h hroute
    have hget := slot.get_set ((slot.get s).openSession frame player client certificate).2.2 s
    have hconfig := hs'.config
    have hsecrets := hs'.secrets
    have hplane := hs'.plane
    rw [hget] at hconfig hsecrets hplane
    have hnow := hs'.now.trans (h.now_set _ s)
    refine ⟨nonce, ?_⟩
    rw [session?, hplane, ← session?, hcert, hnow] at hforward
    have hsame : (slot.get s').forward = (slot.get s).forward := forward_congr hconfig hsecrets
    rw [← hsame]
    exact hforward
  unfold welcome at hwelcome
  dsimp only at hwelcome
  split at hwelcome
  · rename_i accepted last hroute
    cases hwelcome
    refine hopened _ ?_ a (by rw [hroute])
    refine .trans ?_ (.post h _ _ _)
    split
    · exact .of_same rfl rfl
    · exact announceEnd_undisturbed h _ _ _
  · cases hwelcome

theorem readFrame_eq_ok {proxy : Proxy} {bytes : Bytes} {frame : ConnectFrame} {player : Uuid}
    (h : proxy.readFrame bytes = .ok (frame, player)) :
    ConnectFrame.decode? proxy.config.limits bytes = some frame ∧ frame.playerId = some player := by
  unfold readFrame at h
  split at h
  · cases h
  · rename_i found hdecode
    split at h
    · cases h
    · rename_i claimed hplayer
      cases h
      exact ⟨hdecode, hplayer⟩

/-- Counting an attempt changes nothing that frames are made of. -/
theorem countAttempt_quiet (h : env.Quiet slot) (address : Option ClientAddress) (s : σ) :
    (slot.get (countAttempt env slot address s).2).config = (slot.get s).config ∧
      (slot.get (countAttempt env slot address s).2).secrets = (slot.get s).secrets ∧
      env.now (countAttempt env slot address s).2 = env.now s := by
  unfold countAttempt
  cases address with
  | none => exact ⟨rfl, rfl, rfl⟩
  | some address =>
      dsimp only
      rw [Slot.get_modify]
      exact ⟨rfl, rfl, h.now_modify _ s⟩

/-- **What an accepted connection is.**  The client's frame was readable, and the forwarded
frame is made of it, of the certificate that the client gave, and of the proxy and the clock
as they were at the beginning. -/
theorem acceptConnection_eq_ok (h : env.Quiet slot) {bytes : Bytes} {client : ConnectionId}
    {address : Option ClientAddress} {certificate : Option Bytes} {s : σ} {a : Accepted}
    (haccept : (acceptConnection env slot bytes client address certificate s).1 = .ok a) :
    ∃ frame player nonce, ConnectFrame.decode? (slot.get s).config.limits bytes = some frame ∧
      frame.playerId = some player ∧
      (slot.get s).forward (env.now s) nonce frame player
        (certificate.map Fingerprint.ofCertificate) a.backend.id = .ok a.frame := by
  obtain ⟨hconfig, hsecrets, hnow⟩ := countAttempt_quiet h address s
  unfold acceptConnection at haccept
  split at haccept
  · cases haccept
  · rename_i counted hcounted
    rw [hcounted] at hconfig hsecrets hnow
    dsimp only at haccept
    split at haccept
    · cases haccept
    · rename_i frame player hread
      split at haccept
      · cases haccept
      · obtain ⟨hdecode, hplayer⟩ := readFrame_eq_ok hread
        obtain ⟨nonce, hforward⟩ := welcome_eq_ok h haccept
        rw [forward_congr hconfig hsecrets, hnow] at hforward
        exact ⟨frame, player, nonce, hconfig ▸ hdecode, hplayer, hforward⟩

end Proxy

end GameGateway
