import GameGateway.Proofs.Proxy.Accepting
import GameGateway.Proofs.Proxy.Chronicle
import GameGateway.Proofs.Proxy.Run

/-!
# The life of a connection

A connection that is refused before it is routed leaves no trace among the sessions, and
nothing is posted about it.  Any other connection opens a session, and the session is gone
again if the connection cannot be routed.

Each call of a proxy is told apart by what it does to the chronicle of its sessions
(`Proxy.acceptConnection_cases`, `Proxy.chronicleAt_disconnect`); what the observers do and
what the clock says has no part in it.  So the chronicle stays complete over any run of such
calls (`ConnectionRun.complete`), whatever else happens in between to the sessions that are
there.
-/

namespace GameGateway

variable {σ : Type} {env : Surroundings σ} {slot : Slot σ Proxy} {log : σ → List Posting}

/-- Is it an error that comes up before there is a session? -/
def GatewayError.isEarly : GatewayError → Bool
  | .rateLimited _ | .malformedConnect _ | .rejected _ => true
  | .wire _ | .token _ | .session _ | .routing _ | .control _ | .config _ | .unidentified _
    | .alreadyOnBackend _ => false

/-- The chronicle of the sessions of a proxy. -/
def chronicleAt (slot : Slot σ Proxy) (log : σ → List Posting) (s : σ) : Chronicle :=
  ⟨(slot.get s).plane.sessions, log s⟩

/-- What the proxy posts is written down with the sessions as they are, and neither observers
nor fresh values change the sessions. -/
structure Surroundings.Chronicles (env : Surroundings σ) (slot : Slot σ Proxy)
    (log : σ → List Posting) : Prop where
  set : ∀ proxy s, log (slot.set proxy s) = log s
  draw : ∀ s, chronicleAt slot log (env.draw s).2 = chronicleAt slot log s
  post : ∀ kind event s,
    chronicleAt slot log (env.post kind event s).2 = (chronicleAt slot log s).note kind event

/-! ## What is written down does not matter -/

/-- The sessions as a part of the proxy. -/
def Proxy.sessionsSlot : Slot Proxy SessionRegistry where
  get := fun proxy => proxy.plane.sessions
  set := fun sessions proxy => proxy.withSessions fun _ => sessions
  get_set := fun _ _ => rfl
  set_get := fun _ => rfl
  set_set := fun _ _ _ => rfl

/-- The same surroundings with a notebook beside them. -/
def Surroundings.noting (env : Surroundings σ) (slot : Slot σ Proxy) :
    Surroundings (σ × List Posting) where
  now := fun s => env.now s.1
  draw := fun s => ((env.draw s.1).1, (env.draw s.1).2, s.2)
  post := fun kind event s => ((env.post kind event s.1).1, (env.post kind event s.1).2,
    s.2 ++ [⟨kind, event, (slot.get s.1).plane.sessions⟩])
  send := fun channel bytes s =>
    ((env.send channel bytes s.1).1, (env.send channel bytes s.1).2, s.2)

/-- Any surroundings that leave the sessions alone can be given a notebook. -/
theorem Surroundings.Spares.noting (h : env.Spares (slot.comp Proxy.sessionsSlot)) :
    (env.noting slot).Chronicles (Slot.first.comp slot) Prod.snd where
  set _ _ := rfl
  draw s := by
    have hsessions : (slot.get (env.draw s.1).2).plane.sessions = (slot.get s.1).plane.sessions :=
      h.draw s.1
    show Chronicle.mk (slot.get (env.draw s.1).2).plane.sessions s.2 = ⟨_, _⟩
    rw [hsessions]
    rfl
  post kind event s := by
    have hsessions : (slot.get (env.post kind event s.1).2).plane.sessions =
        (slot.get s.1).plane.sessions := h.post kind event s.1
    show Chronicle.mk (slot.get (env.post kind event s.1).2).plane.sessions _ = _
    rw [hsessions]
    rfl

/-! ## What the calls do -/

namespace Surroundings.Chronicles

theorem chronicleAt_set (h : env.Chronicles slot log) (proxy : Proxy) (s : σ) :
    chronicleAt slot log (slot.set proxy s) =
      { chronicleAt slot log s with sessions := proxy.plane.sessions } := by
  rw [chronicleAt, slot.get_set, h.set]
  rfl

/-- Nothing is told of the rest of the proxy. -/
theorem chronicleAt_aside (h : env.Chronicles slot log) {f : Proxy → Proxy}
    (hf : ∀ proxy, (f proxy).plane.sessions = proxy.plane.sessions) (s : σ) :
    chronicleAt slot log (slot.modify f s) = chronicleAt slot log s := by
  rw [Slot.modify, h.chronicleAt_set, hf]
  rfl

end Surroundings.Chronicles

namespace Proxy

variable (h : env.Chronicles slot log)

include h

theorem decide_aside (context : RoutingContext) (initial : Bool) (s : σ) :
    (chronicleAt slot log s).Aside (chronicleAt slot log (Routing.decide env
      (slot.comp routingSlot) (isUnavailable env slot) context initial s).2) := by
  unfold Routing.decide
  dsimp only
  split
  · rw [h.post]
    exact Chronicle.Aside.refl.note _ nofun nofun
  · rw [h.post, h.post]
    have hasked : (chronicleAt slot log s).Aside
        ((chronicleAt slot log s).note .routePreSelect { context := context }) :=
      .note _ .refl nofun nofun
    exact .note _ hasked nofun nofun

theorem selectBackend_aside (context : RoutingContext) (initial : Bool) (s : σ) :
    (chronicleAt slot log s).Aside
      (chronicleAt slot log (selectBackend env slot context initial s).2) := by
  have hrouting : ∀ (f : Routing → Routing) s,
      chronicleAt slot log ((slot.comp routingSlot).modify f s) = chronicleAt slot log s :=
    fun f s => h.chronicleAt_aside (f := routingSlot.modify f) (fun _ => rfl) s
  unfold selectBackend Routing.select
  split
  · exact .refl
  · rename_i limiter _
    dsimp only
    rw [hrouting]
    have hdecided := decide_aside h context initial
      ((slot.comp routingSlot).modify (fun routing => { routing with limiter := limiter }) s)
    rw [hrouting] at hdecided
    exact hdecided

theorem chronicleAt_disconnect (id : SessionId) (reason : Option String) (s : σ) :
    chronicleAt slot log (disconnect env slot id reason s).2 =
      (chronicleAt slot log s).departed id reason := by
  unfold disconnect Chronicle.departed announceEnd
  dsimp only
  split
  · rename_i hremoved
    rw [h.post, Slot.modify, h.chronicleAt_set]
    exact (if_pos hremoved).symm
  · rename_i hgone
    rw [Slot.modify, h.chronicleAt_set]
    exact (if_neg hgone).symm

omit h in
theorem forward_eq_error {proxy : Proxy} {now : Millis} {nonce : Nonce} {frame : ConnectFrame}
    {player : Uuid} {clientCert : Option String} {backend : String} {e : GatewayError}
    (herror : proxy.forward now nonce frame player clientCert backend = .error e) :
    e.isEarly = false := by
  unfold forward at herror
  -- Of the token only counts whether there is one.
  generalize ProxyToken.issue _ _ _ _ _ _ _ _ = issued at herror
  cases issued with
  | error fault =>
      cases herror
      rfl
  | ok token =>
      replace herror : ((frame.withReferral (Utf8.encode token) proxy.config.referral).encode
        proxy.config.limits).mapError GatewayError.wire = .error e := herror
      cases hencode : (frame.withReferral (Utf8.encode token) proxy.config.referral).encode
          proxy.config.limits with
      | error fault =>
          rw [hencode] at herror
          cases herror
          rfl
      | ok bytes =>
          rw [hencode] at herror
          cases herror

/-- A session that cannot be routed is left as it is; one that is routed is given its backend. -/
theorem route_cases (id : SessionId) (frame : ConnectFrame) (player : Uuid)
    (address : Option ClientAddress) (requested : Option String) (s : σ) :
    ∃ c, (chronicleAt slot log s).Aside c ∧
      ((∃ e, (route env slot id frame player address requested s).1 = .error e ∧
          e.isEarly = false ∧
          chronicleAt slot log (route env slot id frame player address requested s).2 = c) ∨
        ∃ a, (route env slot id frame player address requested s).1 = .ok a ∧ a.session = id ∧
          chronicleAt slot log (route env slot id frame player address requested s).2 =
            { c with sessions := c.sessions.update id fun session =>
              { session with selectedBackend := some a.backend.id } }) := by
  have hselect := selectBackend_aside h
    { RoutingContext.ofFrame frame address with requested := requested } requested.isNone s
  unfold route
  dsimp only
  split
  · rename_i e chosen hfailed
    rw [hfailed] at hselect
    exact ⟨_, hselect, .inl ⟨_, rfl, rfl, rfl⟩⟩
  · rename_i selection chosen hselected
    rw [hselected] at hselect
    rw [← h.draw chosen] at hselect
    refine ⟨_, hselect, ?_⟩
    split
    · rename_i e hforward
      exact .inl ⟨e, rfl, forward_eq_error hforward, rfl⟩
    · refine .inr ⟨_, rfl, rfl, ?_⟩
      rw [Slot.modify, h.chronicleAt_set]
      rfl

omit h in
/-- Tells the observers that a session has ended if it has been replaced. -/
def announceReplaced (env : Surroundings σ) (reason : Option String) (replaced : Option SessionId)
    (s : σ) : σ :=
  match replaced with
  | none => s
  | some old => announceEnd env old reason s

theorem chronicleAt_announceReplaced (reason : Option String) (replaced : Option SessionId)
    (s : σ) : chronicleAt slot log (announceReplaced env reason replaced s) =
      (chronicleAt slot log s).replacing reason replaced := by
  cases replaced with
  | none => rfl
  | some old => exact h.post _ _ _

omit h in
/-- A client whose frame was read, before it is routed: it has a session, and everybody has
heard of it. -/
def greet (env : Surroundings σ) (slot : Slot σ Proxy) (frame : ConnectFrame) (player : Uuid)
    (client : ConnectionId) (address : Option ClientAddress) (certificate : Option Bytes)
    (requested : Option String) (s : σ) : SessionId × σ :=
  let opened := (slot.get s).openSession frame player client certificate
  let told := announceReplaced env
    (some (if requested.isSome then "transferred" else "replaced by a new connection"))
    opened.2.1 (slot.set opened.2.2 s)
  (opened.1, (env.post .playerConnected ⟨opened.1, address⟩ told).2)

omit h in
theorem welcome_eq (env : Surroundings σ) (slot : Slot σ Proxy) (frame : ConnectFrame)
    (player : Uuid) (client : ConnectionId) (address : Option ClientAddress)
    (certificate : Option Bytes) (requested : Option String) (s : σ) :
    welcome env slot frame player client address certificate requested s =
      let greeted := greet env slot frame player client address certificate requested s
      match route env slot greeted.1 frame player address requested greeted.2 with
      | (.ok accepted, s) => (.ok accepted, s)
      | (.error e, s) => (.error e, (disconnect env slot greeted.1
          (some (e.message SessionId.text ConnectionId.text)) s).2) := rfl

theorem chronicleAt_greet (frame : ConnectFrame) (player : Uuid) (client : ConnectionId)
    (address : Option ClientAddress) (certificate : Option Bytes) (requested : Option String)
    (s : σ) :
    ∃ session reason, session.state = .handshaking ∧
      chronicleAt slot log
          (greet env slot frame player client address certificate requested s).2 =
        (chronicleAt slot log s).welcomed session player reason address := by
  have hopened := h.chronicleAt_set
    ((slot.get s).openSession frame player client certificate).2.2 s
  refine ⟨{
    state := .handshaking
    username := frame.username
    clientCert := certificate.map Fingerprint.ofCertificate
    clientLink := some client },
    some (if requested.isSome then "transferred" else "replaced by a new connection"), rfl, ?_⟩
  unfold greet
  dsimp only
  rw [h.post, chronicleAt_announceReplaced h, hopened]
  rfl

/-- A client whose frame was read gets a session, which is gone again if it cannot be routed. -/
theorem welcome_cases (frame : ConnectFrame) (player : Uuid) (client : ConnectionId)
    (address : Option ClientAddress) (certificate : Option Bytes) (requested : Option String)
    (s : σ) :
    ∃ session reason c, session.state = .handshaking ∧
      ((chronicleAt slot log s).welcomed session player reason address).Aside c ∧
      ((∃ e why,
          (welcome env slot frame player client address certificate requested s).1 = .error e ∧
          e.isEarly = false ∧ chronicleAt slot log
            (welcome env slot frame player client address certificate requested s).2 =
              c.departed ⟨(chronicleAt slot log s).sessions.nextNumber⟩ why) ∨
        ∃ a, (welcome env slot frame player client address certificate requested s).1 = .ok a ∧
          a.session = ⟨(chronicleAt slot log s).sessions.nextNumber⟩ ∧ chronicleAt slot log
            (welcome env slot frame player client address certificate requested s).2 =
              { c with sessions := c.sessions.update a.session fun session =>
                { session with selectedBackend := some a.backend.id } }) := by
  obtain ⟨session, reason, hstate, hgreeted⟩ :=
    chronicleAt_greet h frame player client address certificate requested s
  have hid : (greet env slot frame player client address certificate requested s).1 =
      ⟨(chronicleAt slot log s).sessions.nextNumber⟩ := rfl
  rw [welcome_eq]
  dsimp only
  rw [hid]
  generalize (greet env slot frame player client address certificate requested s).2 = greeted
    at hgreeted ⊢
  obtain ⟨c, haside, hrouted⟩ := route_cases h
    ⟨(chronicleAt slot log s).sessions.nextNumber⟩ frame player address requested greeted
  rw [hgreeted] at haside
  refine ⟨session, reason, c, hstate, haside, ?_⟩
  generalize route env slot ⟨(chronicleAt slot log s).sessions.nextNumber⟩ frame player address
    requested greeted = routed at hrouted ⊢
  obtain ⟨result, last⟩ := routed
  rcases hrouted with ⟨e, herror, hlate, hlast⟩ | ⟨a, hok, hsession, hlast⟩
  · cases herror
    refine .inl ⟨e, some (e.message SessionId.text ConnectionId.text), rfl, hlate, ?_⟩
    rw [← hlast]
    exact chronicleAt_disconnect h _ _ last
  · cases hok
    refine .inr ⟨a, rfl, hsession, ?_⟩
    rw [hsession]
    exact hlast

theorem countAttempt_cases (address : Option ClientAddress) (s : σ) :
    chronicleAt slot log (countAttempt env slot address s).2 = chronicleAt slot log s ∧
      (slot.get (countAttempt env slot address s).2).config = (slot.get s).config ∧
      ∀ e, (countAttempt env slot address s).1 = .error e → e.isEarly = true := by
  unfold countAttempt
  split
  · exact ⟨rfl, rfl, nofun⟩
  · dsimp only
    refine ⟨h.chronicleAt_aside ?_ s, ?_, fun e herror => ?_⟩
    · intro proxy
      rfl
    · rw [slot.get_modify]
    · split at herror
      · cases herror
      · cases herror
        rfl

omit h in
theorem readFrame_eq_error {proxy : Proxy} {bytes : Bytes} {e : GatewayError}
    (herror : proxy.readFrame bytes = .error e) : e.isEarly = true := by
  unfold readFrame at herror
  split at herror
  · cases herror
    rfl
  · split at herror
    · cases herror
      rfl
    · cases herror

omit h in
theorem requestedBackend_eq_error {proxy : Proxy} {now : Millis} {frame : ConnectFrame}
    {player : Uuid} {e : GatewayError}
    (herror : proxy.requestedBackend now frame player = .error e) : e.isEarly = true := by
  unfold requestedBackend at herror
  split at herror
  · cases herror
  · split at herror
    · cases herror
    · split at herror
      · cases herror
        rfl
      · cases herror

/-- A connection is refused early, or it gets a session. -/
theorem acceptConnection_cases (bytes : Bytes) (client : ConnectionId)
    (address : Option ClientAddress) (certificate : Option Bytes) (s : σ) :
    (∃ e, (acceptConnection env slot bytes client address certificate s).1 = .error e ∧
      e.isEarly = true ∧
      chronicleAt slot log (acceptConnection env slot bytes client address certificate s).2 =
        chronicleAt slot log s) ∨
    ∃ frame player requested counted,
      ConnectFrame.decode? (slot.get s).config.limits bytes = some frame ∧
      frame.playerId = some player ∧ chronicleAt slot log counted = chronicleAt slot log s ∧
      acceptConnection env slot bytes client address certificate s =
        welcome env slot frame player client address certificate requested counted := by
  obtain ⟨hsame, hconfig, hearly⟩ := countAttempt_cases h address s
  unfold acceptConnection
  split
  · rename_i e counted hrefused
    rw [hrefused] at hsame hearly
    exact .inl ⟨e, rfl, hearly e rfl, hsame⟩
  · rename_i counted hcounted
    rw [hcounted] at hsame hconfig
    dsimp only
    split
    · rename_i e hread
      exact .inl ⟨e, rfl, readFrame_eq_error hread, hsame⟩
    · rename_i frame player hread
      obtain ⟨hdecode, hplayer⟩ := readFrame_eq_ok hread
      rw [hconfig] at hdecode
      split
      · rename_i e hrequested
        exact .inl ⟨e, rfl, requestedBackend_eq_error hrequested, hsame⟩
      · rename_i requested _
        exact .inr ⟨frame, player, requested, counted, hdecode, hplayer, hsame, rfl⟩

end Proxy

/-! ## Runs -/

/-- What accepting a connection says is so: an error leaves no session behind, and an early one
nothing at all; an accepted connection has the session that was opened for it. -/
def Chronicle.Answers (before after : Chronicle) (frame? : Option ConnectFrame) :
    Except GatewayError Accepted → Prop
  | .error e =>
      (∀ id, before.sessions.nextNumber ≤ id.number → after.sessions.isRegistered id = false) ∧
        if e.isEarly then after = before
        else after.sessions.nextNumber = before.sessions.nextNumber + 1
  | .ok a =>
      a.session = ⟨before.sessions.nextNumber⟩ ∧
        after.sessions.nextNumber = before.sessions.nextNumber + 1 ∧
        ∃ frame player session, frame? = some frame ∧ frame.playerId = some player ∧
          after.sessions.get a.session = .ok session ∧ session.state = .handshaking ∧
          session.player = some player ∧ session.selectedBackend = some a.backend.id ∧
          after.sessions.findByPlayer player = some a.session

/-- A connection is accepted or not; the chronicle stays complete, and what the proxy answers is
so. -/
theorem Proxy.acceptConnection_answers (h : env.Chronicles slot log) (bytes : Bytes)
    (client : ConnectionId) (address : Option ClientAddress) (certificate : Option Bytes) {s : σ}
    (hs : (chronicleAt slot log s).Complete) :
    (chronicleAt slot log
      (acceptConnection env slot bytes client address certificate s).2).Complete ∧
      (chronicleAt slot log s).Answers
        (chronicleAt slot log (acceptConnection env slot bytes client address certificate s).2)
        (ConnectFrame.decode? (slot.get s).config.limits bytes)
        (acceptConnection env slot bytes client address certificate s).1 := by
  rcases acceptConnection_cases h bytes client address certificate s with
    ⟨e, herror, hearly, hsame⟩ |
      ⟨frame, player, requested, counted, hdecode, hplayer, hsame, haccept⟩
  · rw [herror, hsame]
    refine ⟨hs, fun id hid => hs.truthful.isRegistered_of_le hid, ?_⟩
    rw [if_pos hearly]
  rw [haccept, hdecode]
  obtain ⟨session, reason, c, hstate, haside, hrouted⟩ :=
    welcome_cases h frame player client address certificate requested counted
  rw [hsame] at haside hrouted
  obtain ⟨hwelcomed, hnext, hget⟩ := hs.welcomed session player reason address
  have hcomplete := hwelcomed.aside haside
  have hindex := (chronicleAt slot log s).byPlayer_welcomed session player reason address
  rw [← haside.sessions] at hnext hget hindex
  rcases hrouted with ⟨e, why, herror, hlate, hlast⟩ | ⟨a, hok, hid, hlast⟩
  · rw [herror, hlast]
    obtain ⟨hdeparted, hnumber, -⟩ :=
      hcomplete.departed ⟨(chronicleAt slot log s).sessions.nextNumber⟩ why
    -- The one number that is new is that of the session that has been removed again.
    refine ⟨hdeparted, fun id hid => hcomplete.isRegistered_departed hnext why hid, ?_⟩
    rw [if_neg (Bool.eq_false_iff.mp hlate), hnumber, hnext]
  · rw [hok, hlast]
    let routed : Session := { session with
      player := some player
      selectedBackend := some a.backend.id }
    have hrouted : (c.sessions.update a.session fun session =>
        { session with selectedBackend := some a.backend.id }).get a.session = .ok routed :=
      SessionRegistry.get_update_eq_ok_iff.mpr ⟨_, hid ▸ hget, (if_pos rfl).symm⟩
    refine ⟨hcomplete.same (.update _ _ _), hid, hnext, frame, player, routed, rfl, hplayer,
      hrouted, hstate, rfl, rfl, ?_⟩
    obtain ⟨hview, hregistered⟩ := SessionRegistry.get_eq_ok_iff.mp hrouted
    refine SessionRegistry.findByPlayer_eq_some_iff.mpr
      ⟨hid ▸ hindex, hregistered, routed, hview, ?_⟩
    show session.state ≠ .disconnected
    rw [hstate]
    exact nofun

/-- A proxy accepts and disconnects; in between anything may happen that opens and ends no
session. -/
inductive ConnectionRun (env : Surroundings σ) (slot : Slot σ Proxy) (log : σ → List Posting)
    (start : σ) : σ → Prop
  | start : ConnectionRun env slot log start start
  | accept {s : σ} (run : ConnectionRun env slot log start s) (bytes : Bytes)
      (client : ConnectionId) (address : Option ClientAddress) (certificate : Option Bytes) :
      ConnectionRun env slot log start
        (Proxy.acceptConnection env slot bytes client address certificate s).2
  | disconnect {s : σ} (run : ConnectionRun env slot log start s) (id : SessionId)
      (reason : Option String) :
      ConnectionRun env slot log start (Proxy.disconnect env slot id reason s).2
  | elsewhere {s s' : σ} (run : ConnectionRun env slot log start s)
      (members : (chronicleAt slot log s).sessions.SameMembers (chronicleAt slot log s').sessions)
      (unsaid : log s' = log s) : ConnectionRun env slot log start s'

theorem ConnectionRun.complete (h : env.Chronicles slot log) {start s : σ}
    (hstart : (chronicleAt slot log start).Complete) (hrun : ConnectionRun env slot log start s) :
    (chronicleAt slot log s).Complete := by
  induction hrun with
  | start => exact hstart
  | accept _ bytes client address certificate ih =>
      exact (Proxy.acceptConnection_answers h bytes client address certificate ih).1
  | disconnect _ id reason ih =>
      rw [Proxy.chronicleAt_disconnect h]
      exact (ih.departed id reason).1
  | @elsewhere s s' _ members unsaid ih =>
      have hsame : chronicleAt slot log s' =
          { chronicleAt slot log s with sessions := (chronicleAt slot log s').sessions } := by
        rw [chronicleAt, unsaid]
        rfl
      rw [hsame]
      exact ih.same members

/-- **The life of connections.**  After any run of a proxy that begins without sessions, every
session that was opened has been announced once, and the end of a session was told exactly
once, as soon as it was registered no more; this was so in every moment in which something was
posted.  And a connection that is accepted or refused next is answered with what is so. -/
theorem lifecycle_told (h : env.Chronicles slot log) {start s : σ}
    (hstart : chronicleAt slot log start = {}) (hrun : ConnectionRun env slot log start s) :
    (chronicleAt slot log s).Complete ∧
      ∀ bytes client address certificate, (chronicleAt slot log s).Answers
        (chronicleAt slot log
          (Proxy.acceptConnection env slot bytes client address certificate s).2)
        (ConnectFrame.decode? (slot.get s).config.limits bytes)
        (Proxy.acceptConnection env slot bytes client address certificate s).1 := by
  have hcomplete := hrun.complete h (hstart ▸ Chronicle.complete_empty)
  refine ⟨hcomplete, fun bytes client address certificate => ?_⟩
  exact (Proxy.acceptConnection_answers h bytes client address certificate hcomplete).2

namespace Alone

/-- Surroundings in which nobody hears of anything, with a notebook. -/
def notebook : Surroundings (Alone Proxy × List Posting) := Alone.env.noting Alone.slot

/-- The proxy beside its notebook. -/
def notebookSlot : Slot (Alone Proxy × List Posting) Proxy := Slot.first.comp Alone.slot

/-- A proxy in front of two backends that has just been started, with an empty notebook. -/
def unvisited : Alone Proxy × List Posting := (⟨0, .start crossroads 0⟩, [])

/-- The visitor connects. -/
def visited (s : Alone Proxy × List Posting) : Alone Proxy × List Posting :=
  (Proxy.acceptConnection notebook notebookSlot
    (ConnectFrame.write { playerId := some visitor }) ⟨0⟩ none none s).2

/-- What has been told when the visitor has connected twice. -/
def twiceVisited : Chronicle := chronicleAt notebookSlot Prod.snd (visited (visited unvisited))

theorem members_twiceVisited : twiceVisited.sessions.nextNumber = 2 ∧
    twiceVisited.sessions.isRegistered ⟨0⟩ = false ∧
    twiceVisited.sessions.isRegistered ⟨1⟩ = true := by
  decide +kernel

/-- When the visitor has connected twice, both sessions have begun, and the first one has
ended. -/
theorem visits_told :
    notebook.Chronicles notebookSlot Prod.snd ∧
      chronicleAt notebookSlot Prod.snd unvisited = {} ∧
      ConnectionRun notebook notebookSlot Prod.snd unvisited (visited (visited unvisited)) ∧
      (Chronicle.beginnings twiceVisited.log ⟨0⟩ = 1 ∧ Chronicle.endings twiceVisited.log ⟨0⟩ = 1) ∧
      Chronicle.beginnings twiceVisited.log ⟨1⟩ = 1 ∧
      Chronicle.endings twiceVisited.log ⟨1⟩ = 0 := by
  have hnotes : notebook.Chronicles notebookSlot Prod.snd :=
    (quiet.comp Proxy.sessionsSlot).spares.noting
  have hstart : chronicleAt notebookSlot Prod.snd unvisited = {} := rfl
  have hvisit : ∀ s, ConnectionRun notebook notebookSlot Prod.snd unvisited s →
      ConnectionRun notebook notebookSlot Prod.snd unvisited (visited s) :=
    fun s hs => hs.accept _ _ _ _
  have hrun := hvisit _ (hvisit _ .start)
  have hcomplete : twiceVisited.Complete := (lifecycle_told hnotes hstart hrun).1
  obtain ⟨hnext, hfirst, hsecond⟩ := members_twiceVisited
  have hbegun := hcomplete.beginnings
  have hended := hcomplete.truthful.endings
  rw [hnext] at hbegun
  refine ⟨hnotes, hstart, hrun, ⟨hbegun ⟨0⟩, ?_⟩, hbegun ⟨1⟩, ?_⟩
  · rw [hended ⟨0⟩, hnext, hfirst]
    rfl
  · rw [hended ⟨1⟩, hnext, hsecond]
    rfl

end Alone

end GameGateway
