import GameGateway.Proofs.Proxy.Ledger
import GameGateway.Proofs.Quiet
import GameGateway.Proxy.Connection
import GameGateway.Proxy.Transfer

/-!
# Runs of a proxy

A run of a proxy is made of calls, in any order and with anything in between that leaves
the ledger alone: a moving clock, another strategy, whatever the other parts of the state
do.  While a call is under way, its observers and the receivers of its messages may
call the proxy again.  Observers leave the sessions as they find them; what a receiver
does is up to the receiver.

The proxy of a run is recorded: what is drawn and which packets come in is noted beside
it.  Whatever a call does, with all calls nested in it, is a sequence of moves of the
ledger (`perform_moves`), and so is a run (`ProxyRun.moves`).
-/

namespace GameGateway

/-! ## Recorded proxies -/

/-- A proxy with its history. -/
structure RecordedProxy where
  proxy : Proxy
  arrivals : List Arrival := []
  drawn : List (Block 16) := []

namespace RecordedProxy

/-- The proxy, which knows nothing of the history. -/
def proxySlot : Slot RecordedProxy Proxy where
  get := proxy
  set := fun proxy recorded => { recorded with proxy := proxy }
  get_set := fun _ _ => rfl
  set_get := fun _ => rfl
  set_set := fun _ _ _ => rfl

/-- The ledger of the proxy. -/
def ledger (recorded : RecordedProxy) : Ledger where
  sessions := recorded.proxy.plane.sessions
  pending := recorded.proxy.plane.pending
  arrivals := recorded.arrivals
  drawn := recorded.drawn

/-- Notes that a packet has come in. -/
def noteArrival (now : Millis) (packet : Bytes) (recorded : RecordedProxy) : RecordedProxy :=
  { recorded with arrivals := recorded.arrivals ++ [⟨recorded.proxy.plane, now, packet⟩] }

/-- Notes that a value was drawn. -/
def noteDraw (value : Block 16) (recorded : RecordedProxy) : RecordedProxy :=
  { recorded with drawn := recorded.drawn ++ [value] }

end RecordedProxy

open RecordedProxy (proxySlot noteArrival noteDraw)
open Ledger (Move Moves)

variable {σ : Type} {env : Surroundings σ} {slot : Slot σ RecordedProxy}

/-- The ledger of the proxy in a state. -/
def ledgerAt (slot : Slot σ RecordedProxy) (s : σ) : Ledger := (slot.get s).ledger

theorem ledgerAt_set (proxy : Proxy) (s : σ) :
    ledgerAt slot ((slot.comp proxySlot).set proxy s) =
      { ledgerAt slot s with
        sessions := proxy.plane.sessions
        pending := proxy.plane.pending } := by
  have hget : slot.get ((slot.comp proxySlot).set proxy s) =
      { slot.get s with proxy := proxy } := slot.get_set _ _
  rw [ledgerAt, hget]
  rfl

/-- What a call has led to when its result is taken apart. -/
theorem moves_of_result {α : Type} {l : Ledger} {result : α × σ} {a : α} {s : σ}
    (hresult : result = (a, s)) (h : Moves l (ledgerAt slot result.2)) :
    Moves l (ledgerAt slot s) := by
  rwa [hresult] at h

/-- Nothing of the ledger changes with the rest of the proxy. -/
theorem moves_aside {f : Proxy → Proxy} (s : σ)
    (hsessions : ∀ proxy, (f proxy).plane.sessions = proxy.plane.sessions)
    (hpending : ∀ proxy, (f proxy).plane.pending = proxy.plane.pending) :
    Moves (ledgerAt slot s) (ledgerAt slot ((slot.comp proxySlot).modify f s)) := by
  refine .of_eq ?_
  rw [Slot.modify, ledgerAt_set, hsessions, hpending]
  rfl

theorem moves_sessions {f : SessionRegistry → SessionRegistry} (s : σ)
    (hmove : Move (ledgerAt slot s) { ledgerAt slot s with
      sessions := f (ledgerAt slot s).sessions }) :
    Moves (ledgerAt slot s)
      (ledgerAt slot ((slot.comp proxySlot).modify (fun proxy => proxy.withSessions f) s)) := by
  rw [Slot.modify, ledgerAt_set]
  exact .single hmove

/-- What a proxy needs of its surroundings: the clock is not its own, what is drawn is noted
down, observers and receivers do to the ledger what can be done to it, and observers leave the
sessions alone. -/
structure Surroundings.Orderly (env : Surroundings σ) (slot : Slot σ RecordedProxy) : Prop where
  now_set : ∀ recorded s, env.now (slot.set recorded s) = env.now s
  draw : ∀ s, slot.get (env.draw s).2 = (slot.get s).noteDraw (env.draw s).1
  post : ∀ kind event s, Moves (ledgerAt slot s) (ledgerAt slot (env.post kind event s).2)
  observe : ∀ kind event s,
    (ledgerAt slot (env.post kind event s).2).sessions = (ledgerAt slot s).sessions
  send : ∀ channel bytes s, Moves (ledgerAt slot s) (ledgerAt slot (env.send channel bytes s).2)

theorem Surroundings.Orderly.ledgerAt_draw (h : env.Orderly slot) (s : σ) :
    ledgerAt slot (env.draw s).2 =
      { ledgerAt slot s with drawn := (ledgerAt slot s).drawn ++ [(env.draw s).1] } := by
  rw [ledgerAt, h.draw]
  rfl

theorem Surroundings.Orderly.moves_draw (h : env.Orderly slot) (s : σ) :
    Moves (ledgerAt slot s) (ledgerAt slot (env.draw s).2) := by
  rw [h.ledgerAt_draw]
  exact .single (.draw _ _)

namespace Proxy

/-! ## Sessions and backends -/

theorem announceEnd_moves (h : env.Orderly slot) (id : SessionId) (reason : Option String) (s : σ) :
    Moves (ledgerAt slot s) (ledgerAt slot (announceEnd env id reason s)) :=
  h.post _ _ _

theorem disconnect_moves (h : env.Orderly slot) (id : SessionId) (reason : Option String) (s : σ) :
    Moves (ledgerAt slot s)
      (ledgerAt slot (disconnect env (slot.comp proxySlot) id reason s).2) := by
  have hremoved : Moves (ledgerAt slot s) (ledgerAt slot ((slot.comp proxySlot).modify (fun proxy =>
      proxy.withSessions fun _ =>
        (((slot.comp proxySlot).get s).plane.sessions.remove id).2) s)) :=
    moves_sessions s (.remove _ id)
  unfold disconnect
  dsimp only
  split
  · exact hremoved.trans (announceEnd_moves h id reason _)
  · exact hremoved

theorem attachBackend_moves (id : SessionId) (link : ConnectionId) (s : σ) :
    Moves (ledgerAt slot s)
      (ledgerAt slot (attachBackend env (slot.comp proxySlot) id link s).2) := by
  unfold attachBackend
  split
  · exact .refl
  · have hattached : Moves (ledgerAt slot s) (ledgerAt slot ((slot.comp proxySlot).modify
        (fun proxy => proxy.updateSession id fun session =>
          { session with backendLink := some link }) s)) :=
      moves_sessions s (.revise _ id fun _ => ⟨rfl, rfl⟩)
    dsimp only
    split
    · exact hattached
    · dsimp only
      refine hattached.trans (moves_aside _ ?_ ?_)
      · intro proxy
        rfl
      · intro proxy
        rfl

theorem reportUnreachable_moves (backend : String) (s : σ) :
    Moves (ledgerAt slot s)
      (ledgerAt slot (reportUnreachable env (slot.comp proxySlot) backend s)) := by
  refine moves_aside s ?_ ?_
  · intro proxy
    rfl
  · intro proxy
    rfl

/-! ## Accepting -/

theorem selectBackend_moves (h : env.Orderly slot) (context : RoutingContext) (initial : Bool)
    (s : σ) : Moves (ledgerAt slot s)
      (ledgerAt slot (selectBackend env (slot.comp proxySlot) context initial s).2) := by
  have hdecide : ∀ s, Moves (ledgerAt slot s) (ledgerAt slot
      (Routing.decide env ((slot.comp proxySlot).comp routingSlot)
        (isUnavailable env (slot.comp proxySlot)) context initial s).2) := by
    intro s
    unfold Routing.decide
    dsimp only
    split
    · exact h.post _ _ _
    · exact (h.post _ _ _).trans (h.post _ _ _)
  have haside : ∀ (f : Routing → Routing) s, Moves (ledgerAt slot s)
      (ledgerAt slot (((slot.comp proxySlot).comp routingSlot).modify f s)) := fun f s =>
    moves_aside (f := routingSlot.modify f) s (fun _ => rfl) (fun _ => rfl)
  unfold selectBackend Routing.select
  split
  · exact .refl
  · rename_i limiter _
    have hacquired := haside (fun routing => { routing with limiter := limiter }) s
    have hdecided := hacquired.trans (hdecide _)
    exact hdecided.trans
      (haside (fun routing => { routing with limiter := routing.limiter.giveBack }) _)

theorem countAttempt_moves (address : Option ClientAddress) (s : σ) :
    Moves (ledgerAt slot s)
      (ledgerAt slot (countAttempt env (slot.comp proxySlot) address s).2) := by
  unfold countAttempt
  split
  · exact .refl
  · dsimp only
    refine moves_aside s ?_ ?_
    · intro proxy
      rfl
    · intro proxy
      rfl

theorem route_moves (h : env.Orderly slot) (id : SessionId) (frame : ConnectFrame) (player : Uuid)
    (address : Option ClientAddress) (requested : Option String) (s : σ) :
    Moves (ledgerAt slot s) (ledgerAt slot
      (route env (slot.comp proxySlot) id frame player address requested s).2) := by
  unfold route
  dsimp only
  split
  · rename_i hfailed
    exact moves_of_result hfailed (selectBackend_moves h _ _ s)
  · rename_i hselected
    have hdrawn := (moves_of_result hselected (selectBackend_moves h _ _ s)).trans (h.moves_draw _)
    split
    · exact hdrawn
    · exact hdrawn.trans (moves_sessions _ (.revise _ id fun _ => ⟨rfl, rfl⟩))

theorem welcome_moves (h : env.Orderly slot) (frame : ConnectFrame) (player : Uuid)
    (client : ConnectionId) (address : Option ClientAddress) (certificate : Option Bytes)
    (requested : Option String) (s : σ) :
    Moves (ledgerAt slot s) (ledgerAt slot (welcome env (slot.comp proxySlot) frame player client
      address certificate requested s).2) := by
  have hopened : Moves (ledgerAt slot s) (ledgerAt slot ((slot.comp proxySlot).set
      (((slot.comp proxySlot).get s).openSession frame player client certificate).2.2 s)) := by
    rw [ledgerAt_set]
    exact .single (.openFor (ledgerAt slot s) player rfl)
  have hrouted : ∀ id announced, Moves (ledgerAt slot s) (ledgerAt slot announced) →
      ∀ event, Moves (ledgerAt slot s) (ledgerAt slot (route env (slot.comp proxySlot) id frame
        player address requested (env.post .playerConnected event announced).2).2) :=
    fun id announced hannounced event =>
      (hannounced.trans (h.post _ _ _)).trans (route_moves h _ _ _ _ _ _)
  unfold welcome
  dsimp only
  split
  · rename_i hok
    refine moves_of_result hok (hrouted _ _ ?_ _)
    split
    · exact hopened
    · exact hopened.trans (announceEnd_moves h _ _ _)
  · rename_i herror
    refine (moves_of_result herror (hrouted _ _ ?_ _)).trans (disconnect_moves h _ _ _)
    split
    · exact hopened
    · exact hopened.trans (announceEnd_moves h _ _ _)

theorem acceptConnection_moves (h : env.Orderly slot) (bytes : Bytes) (client : ConnectionId)
    (address : Option ClientAddress) (certificate : Option Bytes) (s : σ) :
    Moves (ledgerAt slot s) (ledgerAt slot
      (acceptConnection env (slot.comp proxySlot) bytes client address certificate s).2) := by
  unfold acceptConnection
  split
  · rename_i herror
    exact moves_of_result herror (countAttempt_moves address s)
  · rename_i hok
    have hcounted := moves_of_result hok (countAttempt_moves address s)
    dsimp only
    split
    · exact hcounted
    · split
      · exact hcounted
      · exact hcounted.trans (welcome_moves h _ _ _ _ _ _ _)

end Proxy

/-! ## Messages -/

namespace RecordedProxy

/-- The control side of the proxy. -/
def planeSlot : Slot RecordedProxy ProxyPlane := proxySlot.comp Proxy.planeSlot

/-- The proxy's endpoint. -/
def endpointSlot : Slot RecordedProxy ControlEndpoint := planeSlot.comp ProxyPlane.endpointSlot

end RecordedProxy

open RecordedProxy (planeSlot endpointSlot)

theorem ledgerAt_modifyPlane (f : ProxyPlane → ProxyPlane) (s : σ) :
    ledgerAt slot ((slot.comp planeSlot).modify f s) =
      { ledgerAt slot s with
        sessions := (f ((slot.comp planeSlot).get s)).sessions
        pending := (f ((slot.comp planeSlot).get s)).pending } :=
  ledgerAt_set (Proxy.planeSlot.modify f (slot.get s).proxy) s

theorem ledgerAt_setEndpoint (endpoint : ControlEndpoint) (s : σ) :
    ledgerAt slot ((slot.comp endpointSlot).set endpoint s) = ledgerAt slot s :=
  ledgerAt_modifyPlane (fun plane => { plane with endpoint := endpoint }) s

theorem ControlEndpoint.send_moves (h : env.Orderly slot) (kind : MessageKind) (payload : Bytes)
    (s : σ) : Moves (ledgerAt slot s) (ledgerAt slot (ControlEndpoint.send env
      (slot.comp endpointSlot) kind payload s).2) := by
  unfold send
  dsimp only
  split
  · exact .of_eq (ledgerAt_setEndpoint _ s)
  · split
    · exact h.moves_draw s
    · exact (h.moves_draw s).trans (h.send _ _ _)

/-! ## Transfers -/

/-- The plane while it waits for the answer to a request. -/
def ProxyPlane.awaiting (plane : ProxyPlane) (request : TransferRequest) (now : Millis) :
    ProxyPlane :=
  { plane with pending := plane.pending.insert request.correlation ⟨now, request.player⟩ }

/-- A request is pending before it is sent, and if it was sent it has been pending. -/
theorem ProxyPlane.requestTransfer_moves (h : env.Orderly slot) (request : TransferRequest)
    {l : Ledger} {s : σ}
    (hdrawn : ledgerAt slot s = { l with drawn := l.drawn ++ [request.correlation.octets] }) :
    Moves l (ledgerAt slot (requestTransfer env (slot.comp planeSlot) request s).2) ∧
      ((requestTransfer env (slot.comp planeSlot) request s).1 = .ok () →
        Moves (l.asked request.correlation ⟨env.now s, request.player⟩)
          (ledgerAt slot (requestTransfer env (slot.comp planeSlot) request s).2)) := by
  have hasked : ledgerAt slot ((slot.comp planeSlot).modify (fun plane =>
      plane.awaiting request (env.now s)) s) =
        l.asked request.correlation ⟨env.now s, request.player⟩ := by
    have hsessions : ((slot.comp planeSlot).get s).sessions = l.sessions :=
      congrArg Ledger.sessions hdrawn
    have hpending : ((slot.comp planeSlot).get s).pending = l.pending :=
      congrArg Ledger.pending hdrawn
    rw [ledgerAt_modifyPlane, hdrawn, ProxyPlane.awaiting, hsessions, hpending]
    rfl
  -- The answer may come in while the request is being sent, and finds it on the list.
  have hsent : ∀ payload, Moves (l.asked request.correlation ⟨env.now s, request.player⟩)
      (ledgerAt slot (ControlEndpoint.send env ((slot.comp planeSlot).comp ProxyPlane.endpointSlot)
        .transferRequest payload ((slot.comp planeSlot).modify (fun plane =>
          plane.awaiting request (env.now s)) s)).2) := by
    intro payload
    rw [← hasked]
    exact ControlEndpoint.send_moves h _ _ _
  unfold requestTransfer
  split
  · refine ⟨?_, nofun⟩
    dsimp only
    rw [hdrawn]
    exact .single (.draw l _)
  · rename_i payload _
    dsimp only
    split
    · rename_i hok
      have hmoves := moves_of_result hok (hsent payload)
      exact ⟨.head (.ask l _ _) hmoves, fun _ => hmoves⟩
    · rename_i herror
      have hmoves := moves_of_result herror (hsent payload)
      refine ⟨(Relation.ReflTransGen.head (.ask l _ _) hmoves).trans ?_, nofun⟩
      rw [ledgerAt_modifyPlane]
      exact .single (.withdraw _ request.correlation)

namespace Proxy

theorem restore_moves (id : SessionId) (s : σ) :
    Moves (ledgerAt slot s) (ledgerAt slot (restore (slot.comp proxySlot) id s)) :=
  moves_sessions s (.restore _ id)

/-- Marking a session as under way is a move, and nothing happens if there is no session. -/
theorem marked_moves {id : SessionId} {other : Session} (s : σ)
    (hstate : ((((slot.comp proxySlot).get s).session? id).getD other).state = .playing ∨
      ((((slot.comp proxySlot).get s).session? id).getD other).state = .transferring) :
    Moves (ledgerAt slot s) (ledgerAt slot ((slot.comp proxySlot).modify (fun proxy =>
      proxy.updateSession id fun _ =>
        { (((slot.comp proxySlot).get s).session? id).getD other with
          state := .transferring }) s)) := by
  cases hfound : ((slot.comp proxySlot).get s).session? id with
  | none =>
      -- The session that stands in for the missing one is never stored.
      have hsame : (((slot.comp proxySlot).get s).updateSession id fun _ =>
          { other with state := .transferring }).plane.sessions =
            ((slot.comp proxySlot).get s).plane.sessions :=
        SessionRegistry.update_of_none (f := fun _ => { other with state := .transferring }) hfound
      refine .of_eq ?_
      rw [Slot.modify, ledgerAt_set, Option.getD_none, hsame]
      rfl
  | some session =>
      rw [hfound] at hstate
      exact moves_sessions s (.mark _ hfound hstate)

theorem sendTransfer_moves (h : env.Orderly slot) (id : SessionId) (player : Uuid)
    (target : String) (s : σ) :
    Moves (ledgerAt slot s)
        (ledgerAt slot (sendTransfer env (slot.comp proxySlot) id player target s).2) ∧
      ∀ correlation, (sendTransfer env (slot.comp proxySlot) id player target s).1 =
        .ok correlation → ∃ startedAt, Moves
          ((ledgerAt slot s).asked correlation ⟨startedAt, player⟩)
          (ledgerAt slot (sendTransfer env (slot.comp proxySlot) id player target s).2) := by
  have hasked := fun target referral => ProxyPlane.requestTransfer_moves h
    ⟨⟨(env.draw s).1⟩, player, target, referral⟩ (h.ledgerAt_draw s)
  unfold sendTransfer
  dsimp only
  split
  · exact ⟨restore_moves id s, nofun⟩
  · rename_i token _
    obtain ⟨hmoves, hsent⟩ := hasked target (Utf8.encode token)
    split
    · rename_i herror
      exact ⟨(moves_of_result herror hmoves).trans (restore_moves id _), nofun⟩
    · rename_i hok
      refine ⟨moves_of_result hok hmoves, fun correlation hcorrelation => ?_⟩
      cases hcorrelation
      exact ⟨_, moves_of_result hok (hsent (congrArg Prod.fst hok))⟩

/-- A transfer that was requested has been pending for the player of the session. -/
theorem requestTransfer_moves (h : env.Orderly slot) (id : SessionId) (backend : String) (s : σ) :
    Moves (ledgerAt slot s)
        (ledgerAt slot (requestTransfer env (slot.comp proxySlot) id backend s).2) ∧
      ∀ correlation, (requestTransfer env (slot.comp proxySlot) id backend s).1 =
        .ok correlation → ∃ session player l startedAt,
          (ledgerAt slot s).sessions.session? id = some session ∧ session.player = some player ∧
          Moves (ledgerAt slot s) l ∧ Moves (l.asked correlation ⟨startedAt, player⟩)
            (ledgerAt slot (requestTransfer env (slot.comp proxySlot) id backend s).2) := by
  unfold requestTransfer
  split
  · exact ⟨.refl, nofun⟩
  · rename_i found hfound
    split
    · exact ⟨.refl, nofun⟩
    · rename_i player hplayer
      split
      · rename_i hfailed
        exact ⟨moves_of_result hfailed (selectBackend_moves h _ _ s), nofun⟩
      · rename_i selection chosen hselected
        have hchosen := moves_of_result hselected (selectBackend_moves h _ _ s)
        dsimp only
        split
        · exact ⟨hchosen, nofun⟩
        · split
          · exact ⟨hchosen, nofun⟩
          · rename_i marked hbecome
            obtain ⟨rfl, hstate⟩ := Session.become_transferring hbecome
            have hmarked := hchosen.trans (marked_moves chosen hstate)
            obtain ⟨hmoves, hasked⟩ := sendTransfer_moves h id player selection.backend.id
              ((slot.comp proxySlot).modify (fun proxy => proxy.updateSession id fun _ =>
                { (((slot.comp proxySlot).get chosen).session? id).getD found with
                  state := .transferring }) chosen)
            refine ⟨hmarked.trans hmoves, fun correlation hcorrelation => ?_⟩
            obtain ⟨startedAt, hsent⟩ := hasked correlation hcorrelation
            exact ⟨found, player, _, startedAt, hfound, hplayer, hmarked, hsent⟩

end Proxy

/-! ## Reports -/

namespace ProxyPlane

/-- The answer to a request takes it back and perhaps restores a session. -/
theorem settle_moves (l : Ledger) (plane : ProxyPlane) (result : TransferResult)
    (hsessions : plane.sessions = l.sessions) (hpending : plane.pending = l.pending) :
    Moves l { l with
      sessions := (plane.settle result).sessions
      pending := (plane.settle result).pending } := by
  have hwithdrawn : Moves l { l with pending := l.pending.erase result.correlation } :=
    .single (.withdraw l result.correlation)
  unfold settle
  dsimp only
  rw [hpending]
  split
  · rw [hsessions]
    exact hwithdrawn
  · split
    · unfold restore
      dsimp only
      rw [hsessions]
      split
      · exact hwithdrawn
      · exact hwithdrawn.tail (.restore _ _)
    · rw [hsessions]
      exact hwithdrawn

theorem onResult_moves (h : env.Orderly slot) (result : TransferResult) (s : σ) :
    Moves (ledgerAt slot s) (ledgerAt slot (onResult env (slot.comp planeSlot) result s)) := by
  have hsettled : Moves (ledgerAt slot s) (ledgerAt slot
      ((slot.comp planeSlot).modify (fun plane => plane.settle result) s)) := by
    rw [ledgerAt_modifyPlane]
    exact settle_moves _ _ result rfl rfl
  exact hsettled.trans (h.post _ _ _)

theorem authenticated?_eq_some {plane : ProxyPlane} {player : Uuid} {backend : String}
    {id : SessionId} {session' : Session}
    (h : plane.authenticated? player backend = some (id, session')) :
    plane.sessions.findByPlayer player = some id ∧ ∃ session,
      plane.sessions.session? id = some session ∧ session.authenticate backend = .ok session' := by
  unfold authenticated? at h
  obtain ⟨found, hfound, h⟩ := Option.bind_eq_some_iff.mp h
  obtain ⟨session, hsession, h⟩ := Option.bind_eq_some_iff.mp h
  split at h
  · rename_i taken htaken
    cases h
    exact ⟨hfound, session, hsession, htaken⟩
  · cases h

/-- A session plays after a report only if the report was an accepting one that came in while
the sessions were as they are. -/
theorem onValidation_moves (h : env.Orderly slot) (notice : ValidationNotice) {a : Arrival} {s : σ}
    (ha : a ∈ (ledgerAt slot s).arrivals) (hsame : a.plane.sessions = (ledgerAt slot s).sessions)
    (haccepts : notice.outcome = .accepted → a.Accepts notice.player) :
    Moves (ledgerAt slot s) (ledgerAt slot (onValidation env (slot.comp planeSlot) notice s)) := by
  unfold onValidation
  dsimp only
  -- Observers hear of the report first.  They leave the sessions alone, so the session that is
  -- looked up after that is the one that was there when the packet came in.
  have hposted := h.post .tokenValidated
    ⟨notice.player, notice.backend, notice.outcome, notice.reason⟩ s
  have hobserved := h.observe .tokenValidated
    ⟨notice.player, notice.backend, notice.outcome, notice.reason⟩ s
  generalize (env.post .tokenValidated
    ⟨notice.player, notice.backend, notice.outcome, notice.reason⟩ s).2 = told at hposted hobserved
  split
  · exact hposted
  · rename_i houtcome
    split
    · exact hposted
    · rename_i id session' hauthenticated
      obtain ⟨hlive, session, hfound, htaken⟩ := authenticated?_eq_some hauthenticated
      have htaken : Move (ledgerAt slot told) { ledgerAt slot told with
          sessions := (ledgerAt slot told).sessions.update id fun _ => session' } :=
        .authenticate _ (hposted.arrivals_subset ha) (haccepts (Decidable.not_not.mp houtcome))
          (hsame.trans hobserved.symm) hlive hfound htaken
      refine (hposted.trans ?_).trans (h.post _ _ _)
      rw [ledgerAt_modifyPlane]
      exact .single htaken

theorem onStatus_moves (h : env.Orderly slot) (notice : StatusNotice) (s : σ) :
    Moves (ledgerAt slot s) (ledgerAt slot (onStatus env (slot.comp planeSlot) notice s)) := by
  have hheard : Moves (ledgerAt slot s) (ledgerAt slot
      ((slot.comp planeSlot).modify (fun plane => plane.hear (env.now s) notice) s)) :=
    .of_eq (ledgerAt_modifyPlane _ s)
  unfold onStatus
  dsimp only
  split
  · exact hheard
  · exact hheard.trans (h.post _ _ _)

theorem reject_moves (reason : RejectReason) (s : σ) :
    Moves (ledgerAt slot s) (ledgerAt slot (reject (slot.comp planeSlot) reason s)) :=
  .of_eq (ledgerAt_setEndpoint _ s)

theorem dispatch_moves {α : Type} {handler : α → σ → σ} {s : σ} {payload : Option α}
    (hhandler : ∀ value, payload = some value →
      Moves (ledgerAt slot s) (ledgerAt slot (handler value s))) :
    Moves (ledgerAt slot s) (ledgerAt slot (dispatch (slot.comp planeSlot) handler s payload)) := by
  cases payload with
  | none => exact reject_moves _ s
  | some value => exact hhandler value rfl

/-- What an admitted envelope does, of a packet that came in while the sessions were as they
are. -/
theorem process_moves (h : env.Orderly slot) {a : Arrival} {envelope : Envelope} {s : σ}
    (ha : a ∈ (ledgerAt slot s).arrivals) (hsame : a.plane.sessions = (ledgerAt slot s).sessions)
    (hadmitted : a.admitted = some envelope) :
    Moves (ledgerAt slot s)
      (ledgerAt slot (process env (slot.comp planeSlot) envelope s)) := by
  unfold process
  split
  · exact dispatch_moves fun result _ => onResult_moves h result s
  · rename_i hkind
    exact dispatch_moves fun notice hnotice => onValidation_moves h notice ha hsame fun houtcome =>
      ⟨envelope, notice, hadmitted, hkind, hnotice, rfl, houtcome⟩
  · exact dispatch_moves fun notice _ => onStatus_moves h notice s
  · exact reject_moves _ s

/-- A packet that comes in is noted, and if it is admitted its envelope is read. -/
theorem ledgerAt_handlePacket (h : env.Orderly slot) (packet : Bytes) (s : σ) :
    ∃ visited, ledgerAt slot visited = { ledgerAt slot s with
        arrivals :=
          (ledgerAt slot s).arrivals ++ [⟨(slot.get s).proxy.plane, env.now s, packet⟩] } ∧
      ledgerAt slot (handlePacket env (slot.comp planeSlot) packet
          (slot.modify (noteArrival (env.now s) packet) s)) =
        match (Arrival.mk (slot.get s).proxy.plane (env.now s) packet).admitted with
        | none => ledgerAt slot visited
        | some envelope => ledgerAt slot (process env (slot.comp planeSlot) envelope visited) := by
  have hget : slot.get (slot.modify (noteArrival (env.now s) packet) s) =
      (slot.get s).noteArrival (env.now s) packet := slot.get_modify _ _
  have hnow : env.now (slot.modify (noteArrival (env.now s) packet) s) = env.now s :=
    h.now_set _ _
  generalize slot.modify (noteArrival (env.now s) packet) s = noted at hget hnow ⊢
  have hendpoint : ((slot.comp planeSlot).comp ProxyPlane.endpointSlot).get noted =
      (slot.get s).proxy.plane.endpoint := by
    show (slot.get noted).proxy.plane.endpoint = _
    rw [hget]
    rfl
  refine ⟨((slot.comp planeSlot).comp ProxyPlane.endpointSlot).set
    ((slot.get s).proxy.plane.endpoint.accept (env.now s) packet).2 noted, ?_, ?_⟩
  · refine (ledgerAt_setEndpoint _ noted).trans ?_
    rw [ledgerAt, hget]
    rfl
  · unfold handlePacket ControlEndpoint.handle
    dsimp only
    rw [hendpoint, hnow, Arrival.admitted]
    dsimp only
    cases ((slot.get s).proxy.plane.endpoint.accept (env.now s) packet).1 with
    | none => rfl
    | some envelope => exact ledgerAt_setEndpoint _ _

/-- Handling a packet whose arrival has just been noted. -/
theorem handlePacket_moves (h : env.Orderly slot) (packet : Bytes) (s : σ) :
    Moves (ledgerAt slot s) (ledgerAt slot (handlePacket env (slot.comp planeSlot) packet
      (slot.modify (noteArrival (env.now s) packet) s))) := by
  obtain ⟨visited, hvisited, hhandled⟩ := ledgerAt_handlePacket h packet s
  have harrived : Moves (ledgerAt slot s) (ledgerAt slot visited) := by
    rw [hvisited]
    exact .single (.arrive _ _)
  rw [hhandled]
  split
  · exact harrived
  · rename_i envelope hadmitted
    refine harrived.trans (process_moves h ?_ ?_ hadmitted)
    · rw [hvisited]
      exact List.mem_append_right _ (List.mem_singleton_self _)
    · rw [hvisited]
      rfl

end ProxyPlane

/-! ## Runs -/

/-- A call of a proxy from outside. -/
inductive ProxyCall where
  | accept (bytes : Bytes) (client : ConnectionId) (address : Option ClientAddress)
      (certificate : Option Bytes)
  | attach (id : SessionId) (link : ConnectionId)
  | disconnect (id : SessionId) (reason : Option String)
  | reportUnreachable (backend : String)
  | transfer (id : SessionId) (backend : String)
  | packet (bytes : Bytes)
  | rotate (secret : Bytes)

/-- What a call does. -/
def perform (env : Surroundings σ) (slot : Slot σ RecordedProxy) (call : ProxyCall) (s : σ) : σ :=
  match call with
  | .accept bytes client address certificate =>
      (Proxy.acceptConnection env (slot.comp proxySlot) bytes client address certificate s).2
  | .attach id link => (Proxy.attachBackend env (slot.comp proxySlot) id link s).2
  | .disconnect id reason => (Proxy.disconnect env (slot.comp proxySlot) id reason s).2
  | .reportUnreachable backend => Proxy.reportUnreachable env (slot.comp proxySlot) backend s
  | .transfer id backend => (Proxy.requestTransfer env (slot.comp proxySlot) id backend s).2
  | .packet bytes => ProxyPlane.handlePacket env (slot.comp planeSlot) bytes
      (slot.modify (noteArrival (env.now s) bytes) s)
  | .rotate secret => (slot.comp proxySlot).modify (fun proxy =>
      { proxy with secrets := proxy.secrets.rotate secret }) s

theorem perform_moves (h : env.Orderly slot) (call : ProxyCall) (s : σ) :
    Moves (ledgerAt slot s) (ledgerAt slot (perform env slot call s)) := by
  cases call with
  | accept bytes client address certificate =>
      exact Proxy.acceptConnection_moves h bytes client address certificate s
  | attach id link => exact Proxy.attachBackend_moves id link s
  | disconnect id reason => exact Proxy.disconnect_moves h id reason s
  | reportUnreachable backend => exact Proxy.reportUnreachable_moves backend s
  | transfer id backend => exact (Proxy.requestTransfer_moves h id backend s).1
  | packet bytes => exact ProxyPlane.handlePacket_moves h bytes s
  | rotate secret =>
      unfold perform
      refine moves_aside s ?_ ?_
      · intro proxy
        rfl
      · intro proxy
        rfl

/-- The proxy gets from the first state to the second.  Each call has surroundings of its own;
what they do while the call is under way is a run again. -/
inductive ProxyRun (slot : Slot σ RecordedProxy) : σ → σ → Prop
  | done (s : σ) : ProxyRun slot s s
  | elsewhere {s s' s'' : σ} (untouched : ledgerAt slot s' = ledgerAt slot s)
      (rest : ProxyRun slot s' s'') : ProxyRun slot s s''
  | call (env : Surroundings σ) (call : ProxyCall) {s s' : σ}
      (now_set : ∀ recorded s, env.now (slot.set recorded s) = env.now s)
      (draw : ∀ s, slot.get (env.draw s).2 = (slot.get s).noteDraw (env.draw s).1)
      (post : ∀ kind event s, ProxyRun slot s (env.post kind event s).2)
      (observe : ∀ kind event s,
        (ledgerAt slot (env.post kind event s).2).sessions = (ledgerAt slot s).sessions)
      (send : ∀ channel bytes s, ProxyRun slot s (env.send channel bytes s).2)
      (rest : ProxyRun slot (perform env slot call s) s') : ProxyRun slot s s'

/-- Surroundings that keep to the rules of a run. -/
structure Surroundings.Around (env : Surroundings σ) (slot : Slot σ RecordedProxy) : Prop where
  now_set : ∀ recorded s, env.now (slot.set recorded s) = env.now s
  draw : ∀ s, slot.get (env.draw s).2 = (slot.get s).noteDraw (env.draw s).1
  post : ∀ kind event s, ProxyRun slot s (env.post kind event s).2
  observe : ∀ kind event s,
    (ledgerAt slot (env.post kind event s).2).sessions = (ledgerAt slot s).sessions
  send : ∀ channel bytes s, ProxyRun slot s (env.send channel bytes s).2

/-- Whatever the nesting of its calls, a run is a sequence of moves. -/
theorem ProxyRun.moves {s s' : σ} (h : ProxyRun slot s s') :
    Moves (ledgerAt slot s) (ledgerAt slot s') := by
  -- What the surroundings of a call do is a run of its own, so the hypotheses for `post` and
  -- `send` are what makes them orderly.
  induction h with
  | done s => exact .refl
  | elsewhere untouched rest ih => exact untouched ▸ ih
  | call env call now_set draw post observe send rest ihPost ihSend ihRest =>
      exact (perform_moves ⟨now_set, draw, ihPost, observe, ihSend⟩ call _).trans ihRest

theorem Surroundings.Around.orderly (h : env.Around slot) : env.Orderly slot where
  now_set := h.now_set
  draw := h.draw
  post kind event s := (h.post kind event s).moves
  observe := h.observe
  send channel bytes s := (h.send channel bytes s).moves

/-! ## A recorded proxy alone with a clock -/

namespace Alone

/-- Surroundings in which every message is sent and nobody hears of it; the fresh values are
counted up. -/
def recording : Surroundings (Alone RecordedProxy) where
  now := clock
  draw := fun s =>
    let value := (Uuid.ofNat s.part.drawn.length).octets
    (value, { s with part := s.part.noteDraw value })
  post := fun _ event s => (event, s)
  send := fun _ _ s => (.ok (), s)

/-- The proxy after some calls. -/
def after (calls : List ProxyCall) (s : Alone RecordedProxy) : Alone RecordedProxy :=
  calls.foldl (fun s call => perform recording Alone.slot call s) s

theorem around_recording : recording.Around Alone.slot where
  now_set _ _ := rfl
  draw _ := rfl
  post _ _ s := .done s
  observe _ _ _ := rfl
  send _ _ s := .done s

theorem run_after (calls : List ProxyCall) (s : Alone RecordedProxy) :
    ProxyRun Alone.slot s (after calls s) := by
  induction calls generalizing s with
  | nil => exact .done s
  | cons call calls ih =>
      have h := around_recording
      exact .call recording call h.now_set h.draw h.post h.observe h.send (ih _)

/-- A proxy in front of two backends. -/
def crossroads : ProxyConfig where
  security := { secret := "an unguessable text of 32 letters" }
  backends := [⟨"lobby", "10.0.0.1", 25565⟩, ⟨"arena", "10.0.0.2", 25565⟩]

/-- A player. -/
def visitor : Uuid := .ofNat 7

/-- A proxy in front of two backends that has just been started. -/
def opened : Alone RecordedProxy := ⟨0, { proxy := .start crossroads 0 }⟩

/-- The visitor connects. -/
def visit : ProxyCall :=
  .accept (ConnectFrame.write { playerId := some visitor }) ⟨0⟩ none none

/-- The lobby sends a message; the nonce is made of a number. -/
def fromLobby (kind : MessageKind) (number : Nat) (payload : Bytes) : ProxyCall :=
  .packet (Envelope.write
    { kind := kind, sender := "lobby", issuedAt := 0, ttl := 10000
      nonce := (Uuid.ofNat number).octets, payload := payload })

/-- The lobby says that it has taken the visitor. -/
def taken (number : Nat) : ProxyCall :=
  fromLobby .tokenValidation number (ValidationNotice.write ⟨visitor, "lobby", .accepted, none⟩)

end Alone

end GameGateway
