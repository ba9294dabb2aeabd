import GameGateway.Proofs.Proxy.Consent
import GameGateway.Proofs.Proxy.Lifecycle
import GameGateway.Proofs.Route.Outcome

/-!
# What a refused connection leaves behind

A connection is refused before it has a session or after that.  Before, nothing has happened to
the sessions.  After, a session has been opened for the player, which displaces the one that the
player had, and is removed again (`Proxy.acceptConnection_refused_cases`).  The removal does not
bring the displaced session back.  So a late refusal costs the player the session that was there,
and nobody else anything.

Between calls a session is registered exactly if it is not disconnected, so to be registered and
to be found are the same (`SessionRegistry.Tidy`).  All that a late refusal does
follows from one equivalence, which says of the sessions that are not disconnected afterwards that
they are those from before whose player is another one
(`SessionRegistry.WellKept.session?_openFor_iff`).
-/

namespace GameGateway

/-! ## Tidy registries -/

namespace SessionRegistry

variable {r r' : SessionRegistry} {id key : SessionId} {player : Uuid} {session session' : Session}

/-- No disconnected session is registered. -/
def Live (r : SessionRegistry) : Prop :=
  ∀ id session, r.get id = .ok session → session.state ≠ .disconnected

/-- A well-kept registry in which no disconnected session is registered. -/
structure Tidy (r : SessionRegistry) : Prop where
  wellKept : r.WellKept
  live : r.Live

theorem tidy_empty : Tidy {} where
  wellKept := wellKept_empty
  live _ _ h := by cases h

theorem Live.update {f : Session → Session} (h : r.Live)
    (hf : ∀ session, session.state ≠ .disconnected → (f session).state ≠ .disconnected) :
    (r.update key f).Live := by
  intro id session' hsession'
  obtain ⟨session, hsession, rfl⟩ := get_update_eq_ok_iff.mp hsession'
  split
  · exact hf session (h id session hsession)
  · exact h id session hsession

theorem Live.openFor (h : r.Live) (hnew : session.state ≠ .disconnected) :
    (r.openFor session player).Live := by
  intro id found hfound
  obtain ⟨-, bound, hbound, rfl⟩ := get_of_bindPlayer hfound
  have halive : bound.state ≠ .disconnected := by
    rw [get_add_eq_ok_iff] at hbound
    split at hbound
    · obtain ⟨-, rfl⟩ := hbound
      exact hnew
    · exact h id bound hbound
  split
  · exact halive
  · exact halive

theorem Live.remove (h : r.Live) (id : SessionId) : (r.remove id).2.Live :=
  fun key session hsession => h key session (get_remove_eq_ok_iff.mp hsession).2

namespace Tidy

theorem get_eq_ok_iff (h : r.Tidy) :
    r.get id = .ok session ↔ r.session? id = some session ∧ session.state ≠ .disconnected := by
  constructor
  · intro hget
    exact ⟨(SessionRegistry.get_eq_ok_iff.mp hget).1, h.live id session hget⟩
  · rintro ⟨hsession, halive⟩
    exact SessionRegistry.get_eq_ok_iff.mpr
      ⟨hsession, (h.wellKept.reachable id session hsession halive).1⟩

theorem findByPlayer_eq_some_iff (h : r.Tidy) : r.findByPlayer player = some id ↔
    ∃ session, r.get id = .ok session ∧ session.player = some player := by
  rw [h.wellKept.findByPlayer_eq_some_iff]
  constructor
  · rintro ⟨session, hsession, hplayer, halive⟩
    exact ⟨session, h.get_eq_ok_iff.mpr ⟨hsession, halive⟩, hplayer⟩
  · rintro ⟨session, hget, hplayer⟩
    obtain ⟨hsession, halive⟩ := h.get_eq_ok_iff.mp hget
    exact ⟨session, hsession, hplayer, halive⟩

end Tidy

/-! ## A session that comes and goes -/

/-- A session is opened for a player and removed again. -/
def passed (r : SessionRegistry) (session : Session) (player : Uuid) : SessionRegistry :=
  ((r.openFor session player).remove ⟨r.nextNumber⟩).2

theorem session?_remove_of_ne (hne : key ≠ id) : (r.remove id).2.session? key = r.session? key := by
  rcases r.remove_eq id with hsame | ⟨owner, hremoved⟩
  · rw [hsame]
  · rw [hremoved, session?_retire, if_neg hne, session?_forget]

/-- When a session has been opened for a player, the older ones that are not disconnected are
those of other players. -/
theorem WellKept.session?_openFor_iff (h : r.WellKept) (hne : key ≠ ⟨r.nextNumber⟩)
    (halive : session'.state ≠ .disconnected) :
    (r.openFor session player).session? key = some session' ↔
      r.session? key = some session' ∧ session'.player ≠ some player := by
  have hindexed : r.session? key = some session' → session'.player = some player →
      r.isRegistered key = true ∧ r.byPlayer.get? player = some key := by
    intro hsession hplayer
    obtain ⟨hregistered, owner, howner, hpoints⟩ := h.reachable _ _ hsession halive
    rw [hplayer] at howner
    cases howner
    exact ⟨hregistered, hpoints⟩
  rcases h.openFor_cases session player with ⟨hsame, hgone⟩ | ⟨previous, hindex, hsame⟩
  · rw [hsame, session?_enter, if_neg hne]
    refine (and_iff_left_of_imp fun hsession hplayer => ?_).symm
    obtain ⟨hregistered, hpoints⟩ := hindexed hsession hplayer
    rw [hgone key hpoints] at hregistered
    cases hregistered
  rw [hsame, session?_retire, session?_enter, if_neg hne]
  by_cases hprevious : key = previous
  · -- The session that is displaced is the one that the index has for the player.
    subst hprevious
    obtain ⟨old, hold, hplayer⟩ := h.indexed _ _ hindex
    rw [if_pos rfl, hold, Option.map_some]
    constructor
    · intro heq
      cases heq
      exact absurd rfl halive
    · rintro ⟨heq, hother⟩
      cases heq
      exact absurd hplayer hother
  · rw [if_neg hprevious]
    refine (and_iff_left_of_imp fun hsession hplayer => ?_).symm
    rw [(hindexed hsession hplayer).2] at hindex
    exact hprevious (Option.some.inj hindex)

/-- What is left when a session has come and gone: every session that is not disconnected, unless
it was the player's. -/
theorem Tidy.session?_passed_iff (h : r.Tidy) (htidy : (r.passed session player).Tidy)
    (halive : session'.state ≠ .disconnected) :
    (r.passed session player).session? key = some session' ↔
      r.session? key = some session' ∧ session'.player ≠ some player := by
  by_cases hkey : key = ⟨r.nextNumber⟩
  · -- The session that has come is gone, and there was none with its number.
    subst hkey
    constructor
    · intro hsession
      have hget := htidy.get_eq_ok_iff.mpr ⟨hsession, halive⟩
      exact absurd rfl (get_remove_eq_ok_iff.mp hget).1
    · rintro ⟨hsession, -⟩
      exact absurd (h.wellKept.numbered _ _ hsession) (Nat.lt_irrefl _)
  · rw [passed, session?_remove_of_ne hkey]
    exact h.wellKept.session?_openFor_iff hkey halive

/-- Every session that was registered still is, in the state that it had, and is still found for
the player for whom it was found. -/
def LeavesAll (r r' : SessionRegistry) : Prop :=
  ∀ id session, r.get id = .ok session →
    (∃ session', r'.get id = .ok session' ∧ session'.state = session.state) ∧
      ∀ player, r.findByPlayer player = some id → r'.findByPlayer player = some id

/-- The registry is the same but for the session of a player, which is gone if there was one. -/
structure Loses (r r' : SessionRegistry) (player : Uuid) : Prop where
  others : ∀ id session, r'.get id = .ok session ↔
    r.get id = .ok session ∧ r.findByPlayer player ≠ some id
  own : ∀ id, r.findByPlayer player = some id → r'.isRegistered id = false ∧
    ∃ session, r'.session? id = some session ∧ session.state = .disconnected
  found : ∀ owner, r'.findByPlayer owner = if owner = player then none else r.findByPlayer owner

theorem Tidy.loses (h : r.Tidy) (htidy : (r.passed session player).Tidy) :
    r.Loses (r.passed session player) player := by
  have hothers : ∀ id found, (r.passed session player).get id = .ok found ↔
      r.get id = .ok found ∧ found.player ≠ some player := by
    intro id found
    rw [htidy.get_eq_ok_iff, h.get_eq_ok_iff, and_right_comm]
    exact and_congr_left fun halive => h.session?_passed_iff htidy halive
  refine ⟨fun id found => ?_, fun id hfound => ?_, fun owner => ?_⟩
  · rw [hothers]
    refine and_congr_right fun hget => not_congr ?_
    rw [h.findByPlayer_eq_some_iff]
    constructor
    · exact fun hplayer => ⟨found, hget, hplayer⟩
    · rintro ⟨other, hother, hplayer⟩
      rw [hget] at hother
      cases hother
      exact hplayer
  · obtain ⟨found, hget, hplayer⟩ := h.findByPlayer_eq_some_iff.mp hfound
    obtain ⟨-, hkeeps⟩ := h.wellKept.openFor session player
    obtain ⟨-, hkeeps'⟩ := (h.wellKept.openFor session player).1.remove ⟨r.nextNumber⟩
    obtain ⟨left, hleft, hkept, -⟩ := hkeeps.trans hkeeps' id found (h.get_eq_ok_iff.mp hget).1
    have hgone : left.state = .disconnected := Decidable.byContradiction fun halive =>
      ((hothers id left).mp (htidy.get_eq_ok_iff.mpr ⟨hleft, halive⟩)).2 (hkept player hplayer)
    refine ⟨Bool.eq_false_iff.mpr fun hregistered => ?_, left, hleft, hgone⟩
    exact htidy.live id left (SessionRegistry.get_eq_ok_iff.mpr ⟨hleft, hregistered⟩) hgone
  · ext id
    rw [htidy.findByPlayer_eq_some_iff]
    simp only [hothers]
    split
    · rename_i howner
      subst howner
      simp
    · rename_i howner
      rw [h.findByPlayer_eq_some_iff]
      refine exists_congr fun found => ?_
      rw [and_assoc]
      refine and_congr_right fun _ => and_iff_right_of_imp fun hplayer hother => ?_
      rw [hplayer] at hother
      exact howner (Option.some.inj hother)

/-- Nothing is lost if there was nothing to lose. -/
theorem Loses.leavesAll_iff (hr : r.Loses r' player) :
    r.LeavesAll r' ↔ r.findByPlayer player = none := by
  constructor
  · intro hleaves
    refine Option.eq_none_iff_forall_ne_some.mpr fun id hfound => ?_
    obtain ⟨-, hregistered, session, hsession, -⟩ := findByPlayer_eq_some_iff.mp hfound
    obtain ⟨⟨session', hsession', -⟩, -⟩ :=
      hleaves id session (get_eq_ok_iff.mpr ⟨hsession, hregistered⟩)
    exact ((hr.others id session').mp hsession').2 hfound
  · intro hnone id session hsession
    refine ⟨⟨session, (hr.others id session).mpr ⟨hsession, ?_⟩, rfl⟩, fun owner howner => ?_⟩
    · rw [hnone]
      exact nofun
    · rw [hr.found, if_neg, howner]
      rintro rfl
      rw [hnone] at howner
      cases howner

theorem LeavesAll.refl (r : SessionRegistry) : r.LeavesAll r :=
  fun _ session h => ⟨⟨session, h, rfl⟩, fun _ hfound => hfound⟩

end SessionRegistry

/-! ## Sessions of a proxy are tidy -/

namespace Ledger

/-- No move leaves a disconnected session registered. -/
theorem Move.tidy {l l' : Ledger} (h : Move l l') (hl : l.sessions.Tidy) : l'.sessions.Tidy := by
  refine ⟨(h.keeps hl.wellKept).1, ?_⟩
  cases h with
  | draw | arrive | ask | withdraw => exact hl.live
  | openFor player state =>
      refine hl.live.openFor ?_
      rw [state]
      exact nofun
  | revise id same =>
      refine hl.live.update fun session halive => ?_
      rw [(same session).1]
      exact halive
  | mark found state => exact hl.live.update fun _ _ => nofun
  | restore id =>
      refine hl.live.update fun session halive => ?_
      rw [Session.state_restore]
      split
      · exact nofun
      · exact halive
  | remove id => exact hl.live.remove id
  | authenticate arrived accepts since live found taken =>
      refine hl.live.update fun _ _ => ?_
      rw [(Session.authenticate_eq_ok taken).1]
      exact nofun

theorem Moves.tidy {l l' : Ledger} (h : Moves l l') (hl : l.sessions.Tidy) : l'.sessions.Tidy :=
  h.invariant (P := fun l => l.sessions.Tidy) (fun _ _ move hl => move.tidy hl) hl

end Ledger

/-! ## Early and late refusals -/

section Accepting

variable {σ : Type} {env : Surroundings σ} {slot : Slot σ Proxy}

/-- The sessions of a proxy in a state. -/
def sessionsAt (slot : Slot σ Proxy) (s : σ) : SessionRegistry := (slot.get s).plane.sessions

/-- Neither fresh values nor observers change the sessions. -/
structure Surroundings.SparesSessions (env : Surroundings σ) (slot : Slot σ Proxy) : Prop where
  draw : ∀ s, sessionsAt slot (env.draw s).2 = sessionsAt slot s
  post : env.Keeps (sessionsAt slot)

namespace Proxy

theorem sessionsAt_set (proxy : Proxy) (s : σ) :
    sessionsAt slot (slot.set proxy s) = proxy.plane.sessions := by
  rw [sessionsAt, slot.get_set]

theorem sessionsAt_selectBackend (h : env.SparesSessions slot) (context : RoutingContext)
    (initial : Bool) (s : σ) :
    sessionsAt slot (selectBackend env slot context initial s).2 = sessionsAt slot s := by
  have hrouting : ∀ (f : Routing → Routing) s,
      sessionsAt slot ((slot.comp routingSlot).modify f s) = sessionsAt slot s := by
    intro f s
    rw [sessionsAt, Slot.get_modify_comp]
    rfl
  unfold selectBackend
  rcases Nat.lt_or_ge ((slot.comp routingSlot).get s).limiter.count
    ((slot.comp routingSlot).get s).limiter.limit with hfree | hfull
  · rw [Routing.select_of_free hfree, Routing.returned, hrouting, Routing.view_decide h.post,
      Routing.leased, hrouting]
  · rw [Routing.select_of_full hfull]

theorem countAttempt_refused (env : Surroundings σ) (slot : Slot σ Proxy)
    (address : Option ClientAddress) (s : σ) :
    sessionsAt slot (countAttempt env slot address s).2 = sessionsAt slot s ∧
      (slot.get (countAttempt env slot address s).2).config = (slot.get s).config ∧
      ∀ e, (countAttempt env slot address s).1 = .error e → e.isEarly = true := by
  unfold countAttempt
  split
  · exact ⟨rfl, rfl, nofun⟩
  · dsimp only
    rw [sessionsAt, Slot.get_modify]
    refine ⟨rfl, rfl, fun e herror => ?_⟩
    split at herror
    · cases herror
    · cases herror
      rfl

/-- A session that cannot be routed is left as it is. -/
theorem route_refused (h : env.SparesSessions slot) {id : SessionId} {frame : ConnectFrame}
    {player : Uuid} {address : Option ClientAddress} {requested : Option String} {s s' : σ}
    {e : GatewayError}
    (hrefused : route env slot id frame player address requested s = (.error e, s')) :
    e.isEarly = false ∧ sessionsAt slot s' = sessionsAt slot s := by
  have hselect := sessionsAt_selectBackend h
    { RoutingContext.ofFrame frame address with requested := requested } requested.isNone s
  unfold route at hrefused
  dsimp only at hrefused
  split at hrefused
  · rename_i hfailed
    cases hrefused
    rw [hfailed] at hselect
    exact ⟨rfl, hselect⟩
  · rename_i selection chosen hselected
    rw [hselected] at hselect
    split at hrefused
    · rename_i hforward
      cases hrefused
      exact ⟨forward_eq_error hforward, (h.draw chosen).trans hselect⟩
    · cases hrefused

theorem sessionsAt_disconnect (h : env.SparesSessions slot) (id : SessionId)
    (reason : Option String) (s : σ) :
    sessionsAt slot (disconnect env slot id reason s).2 = ((sessionsAt slot s).remove id).2 := by
  have hremoved : sessionsAt slot (slot.modify (fun proxy => proxy.withSessions fun _ =>
      ((sessionsAt slot s).remove id).2) s) = ((sessionsAt slot s).remove id).2 :=
    sessionsAt_set _ s
  unfold disconnect
  dsimp only
  split
  · exact (h.post _ _ _).trans hremoved
  · exact hremoved

theorem sessionsAt_greet (h : env.SparesSessions slot) (frame : ConnectFrame) (player : Uuid)
    (client : ConnectionId) (address : Option ClientAddress) (certificate : Option Bytes)
    (requested : Option String) (s : σ) : ∃ session : Session,
      sessionsAt slot (greet env slot frame player client address certificate requested s).2 =
        (sessionsAt slot s).openFor session player := by
  have hopened : sessionsAt slot (slot.set
      ((slot.get s).openSession frame player client certificate).2.2 s) =
        (sessionsAt slot s).openFor
          { state := .handshaking
            username := frame.username
            clientCert := certificate.map Fingerprint.ofCertificate
            clientLink := some client } player :=
    sessionsAt_set _ s
  refine ⟨_, Eq.trans ?_ hopened⟩
  unfold greet announceReplaced
  dsimp only
  rw [h.post]
  split
  · rfl
  · exact h.post _ _ _

/-- A connection is refused early without a trace among the sessions, or late, when the session
that was opened for it is removed. -/
theorem acceptConnection_refused_cases (h : env.SparesSessions slot) {bytes : Bytes}
    {client : ConnectionId} {address : Option ClientAddress} {certificate : Option Bytes}
    {s s' : σ} {e : GatewayError}
    (hrefused : acceptConnection env slot bytes client address certificate s = (.error e, s')) :
    (e.isEarly = true ∧ sessionsAt slot s' = sessionsAt slot s) ∨
      (e.isEarly = false ∧ ∃ frame player session,
        ConnectFrame.decode? (slot.get s).config.limits bytes = some frame ∧
        frame.playerId = some player ∧
        sessionsAt slot s' = (sessionsAt slot s).passed session player) := by
  obtain ⟨hsame, hconfig, hearly⟩ := countAttempt_refused env slot address s
  unfold acceptConnection at hrefused
  split at hrefused
  · rename_i hcounted
    cases hrefused
    rw [hcounted] at hsame hearly
    exact .inl ⟨hearly e rfl, hsame⟩
  rename_i counted hcounted
  rw [hcounted] at hsame hconfig
  dsimp only at hsame hconfig hrefused
  split at hrefused
  · rename_i hread
    cases hrefused
    exact .inl ⟨readFrame_eq_error hread, hsame⟩
  rename_i frame player hread
  obtain ⟨hdecode, hplayer⟩ := readFrame_eq_ok hread
  rw [hconfig] at hdecode
  split at hrefused
  · rename_i hrequested
    cases hrefused
    exact .inl ⟨requestedBackend_eq_error hrequested, hsame⟩
  rename_i requested _
  obtain ⟨session, hgreeted⟩ :=
    sessionsAt_greet h frame player client address certificate requested counted
  rw [welcome_eq] at hrefused
  dsimp only at hrefused
  split at hrefused
  · cases hrefused
  rename_i routed hrouted
  cases hrefused
  obtain ⟨hlate, hrest⟩ := route_refused h hrouted
  refine .inr ⟨hlate, frame, player, session, hdecode, hplayer, ?_⟩
  rw [sessionsAt_disconnect h, hrest, hgreeted, hsame, SessionRegistry.passed, ← hsame]
  rfl

end Proxy

end Accepting

/-! ## Runs -/

section Runs

open RecordedProxy (proxySlot)

variable {σ : Type} {env : Surroundings σ} {slot : Slot σ RecordedProxy}

theorem JustStarted.tidy {s : σ} (h : JustStarted slot s) : (ledgerAt slot s).sessions.Tidy := by
  obtain ⟨config, now, hget⟩ := h
  rw [ledgerAt, hget]
  exact SessionRegistry.tidy_empty

theorem Surroundings.Around.sparesSessions (h : env.Around slot) :
    env.SparesSessions (slot.comp proxySlot) where
  draw s := congrArg Ledger.sessions (h.orderly.ledgerAt_draw s)
  post := h.observe

/-- **What a refused connection leaves behind.**  Whatever has happened to a proxy since its start,
a connection that is refused for the number of attempts, for its frame or for its transfer token
leaves the sessions as they are.  One that is refused for any other reason costs the player of
its frame the session that the player had, which is disconnected, and nobody else anything.  So a
refusal leaves everybody where they are exactly if it is early or the player had no session. -/
theorem Proxy.refused_connection_exact {s₀ s s' : σ} (hstart : JustStarted slot s₀)
    (hrun : ProxyRun slot s₀ s) (henv : env.Around slot) {bytes : Bytes} {client : ConnectionId}
    {address : Option ClientAddress} {certificate : Option Bytes} {e : GatewayError}
    (hrefused : acceptConnection env (slot.comp proxySlot) bytes client address certificate s =
      (.error e, s')) :
    (e.isEarly = true ∧ (ledgerAt slot s').sessions = (ledgerAt slot s).sessions ∧
        (ledgerAt slot s).sessions.LeavesAll (ledgerAt slot s').sessions) ∨
      (e.isEarly = false ∧ ∃ frame player,
        ConnectFrame.decode? (slot.get s).proxy.config.limits bytes = some frame ∧
        frame.playerId = some player ∧
        (ledgerAt slot s).sessions.Loses (ledgerAt slot s').sessions player ∧
        ((ledgerAt slot s).sessions.LeavesAll (ledgerAt slot s').sessions ↔
          (ledgerAt slot s).sessions.findByPlayer player = none)) := by
  have htidy := hrun.moves.tidy hstart.tidy
  have htidy' : (ledgerAt slot s').sessions.Tidy :=
    (moves_of_result hrefused (acceptConnection_moves henv.orderly bytes client address
      certificate s)).tidy htidy
  rcases acceptConnection_refused_cases henv.sparesSessions hrefused with
    ⟨hearly, hsame⟩ | ⟨hlate, frame, player, session, hdecode, hplayer, hpassed⟩
  · have hsame : (ledgerAt slot s').sessions = (ledgerAt slot s).sessions := hsame
    refine .inl ⟨hearly, hsame, ?_⟩
    rw [hsame]
    exact .refl _
  · have hpassed : (ledgerAt slot s').sessions =
        (ledgerAt slot s).sessions.passed session player := hpassed
    rw [hpassed] at htidy' ⊢
    have hloses := htidy.loses htidy'
    exact .inr ⟨hlate, frame, player, hdecode, hplayer, hloses, hloses.leavesAll_iff⟩

end Runs

namespace Alone

open RecordedProxy (proxySlot)

/-- Surroundings in which an observer turns every connection away. -/
def denying : Surroundings (Alone RecordedProxy) :=
  { recording with
    post := fun kind event s =>
      match kind, event with
      | .routePreSelect, event => ({ event with decision := .denied "maintenance" }, s)
      | _, event => (event, s) }

theorem post_denying (kind : EventKind) (event : Event kind) (s : Alone RecordedProxy) :
    (denying.post kind event s).2 = s := by
  cases kind <;> rfl

theorem around_denying : denying.Around Alone.slot where
  now_set _ _ := rfl
  draw _ := rfl
  post kind event s := by
    rw [post_denying]
    exact .done s
  observe kind event s := by
    rw [post_denying]
  send _ _ s := .done s

/-- A player connects while the visitor plays in the lobby, and is turned away. -/
def turnedAway (player : Uuid) : Except GatewayError Accepted × Alone RecordedProxy :=
  Proxy.acceptConnection denying (Alone.slot.comp proxySlot)
    (ConnectFrame.write { playerId := some player }) ⟨1⟩ none none welcomed

/-- Somebody who is not in the lobby. -/
def stranger : Uuid := .ofNat 8

theorem exists_turnedAway {player : Uuid} (h : (turnedAway player).1.toOption.isSome = false) :
    ∃ e, Proxy.acceptConnection denying (Alone.slot.comp proxySlot)
      (ConnectFrame.write { playerId := some player }) ⟨1⟩ none none welcomed =
        (.error e, (turnedAway player).2) := by
  unfold turnedAway at h ⊢
  generalize Proxy.acceptConnection denying _ _ _ _ _ welcomed = outcome at h ⊢
  obtain ⟨result, last⟩ := outcome
  cases result with
  | error e => exact ⟨e, rfl⟩
  | ok accepted => cases h

end Alone

open Alone (denying opened welcomed visitor stranger turnedAway)
open RecordedProxy (proxySlot)

/-- A stranger who is turned away leaves the visitor in the lobby. -/
theorem refused_stranger_leaves_visitor :
    JustStarted Alone.slot opened ∧ ProxyRun Alone.slot opened welcomed ∧
      denying.Around Alone.slot ∧
      ∃ e, Proxy.acceptConnection denying (Alone.slot.comp proxySlot)
          (ConnectFrame.write { playerId := some stranger }) ⟨1⟩ none none welcomed =
            (.error e, (turnedAway stranger).2) ∧
        (ledgerAt Alone.slot welcomed).sessions.LeavesAll
          (ledgerAt Alone.slot (turnedAway stranger).2).sessions := by
  have hstart : JustStarted Alone.slot opened := ⟨Alone.crossroads, 0, rfl⟩
  have hrun : ProxyRun Alone.slot opened welcomed :=
    Alone.run_after [Alone.visit, Alone.taken 1] opened
  have hfacts : (turnedAway stranger).1.toOption.isSome = false ∧
      (ConnectFrame.decode? (Alone.slot.get welcomed).proxy.config.limits
        (ConnectFrame.write { playerId := some stranger })).bind ConnectFrame.playerId =
          some stranger ∧
      (ledgerAt Alone.slot welcomed).sessions.findByPlayer stranger = none := by
    decide +kernel
  obtain ⟨hrefused, hshown, hnobody⟩ := hfacts
  obtain ⟨e, hrefused⟩ := Alone.exists_turnedAway hrefused
  refine ⟨hstart, hrun, Alone.around_denying, e, hrefused, ?_⟩
  rcases Proxy.refused_connection_exact hstart hrun Alone.around_denying hrefused with
    ⟨-, -, hleaves⟩ | ⟨-, frame, player, hdecode, hplayer, -, hleaves⟩
  · exact hleaves
  · rw [hdecode, Option.bind_some, hplayer] at hshown
    cases hshown
    exact hleaves.mpr hnobody

/-- The visitor who is turned away at a second attempt has lost the session in the lobby. -/
theorem refused_visitor_loses_session :
    ¬ ∀ (σ : Type) (env : Surroundings σ) (slot : Slot σ RecordedProxy) (s₀ s s' : σ)
        (bytes : Bytes) (client : ConnectionId) (address : Option ClientAddress)
        (certificate : Option Bytes) (e : GatewayError),
      JustStarted slot s₀ → ProxyRun slot s₀ s → env.Around slot →
      Proxy.acceptConnection env (slot.comp proxySlot) bytes client address certificate s =
        (.error e, s') →
      (ledgerAt slot s).sessions.LeavesAll (ledgerAt slot s').sessions := by
  intro h
  have hstart : JustStarted Alone.slot opened := ⟨Alone.crossroads, 0, rfl⟩
  have hrun : ProxyRun Alone.slot opened welcomed :=
    Alone.run_after [Alone.visit, Alone.taken 1] opened
  have hfacts : (turnedAway visitor).1.toOption.isSome = false ∧
      (ledgerAt Alone.slot welcomed).sessions.isRegistered ⟨0⟩ = true ∧
      (ledgerAt Alone.slot (turnedAway visitor).2).sessions.isRegistered ⟨0⟩ = false := by
    decide +kernel
  obtain ⟨hrefused, hbefore, hafter⟩ := hfacts
  obtain ⟨e, hrefused⟩ := Alone.exists_turnedAway hrefused
  obtain ⟨session, hsession⟩ := SessionRegistry.get_eq_ok_of_isRegistered hbefore
  obtain ⟨⟨session', hsession', -⟩, -⟩ :=
    h _ _ _ _ _ _ _ _ _ _ _ hstart hrun Alone.around_denying hrefused ⟨0⟩ session hsession
  rw [(SessionRegistry.get_eq_ok_iff.mp hsession').2] at hafter
  cases hafter

end GameGateway
