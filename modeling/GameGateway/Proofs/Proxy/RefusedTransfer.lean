import GameGateway.Proofs.Proxy.FailedTransfer
import GameGateway.Proofs.Route.Outcome

/-!
# What a refused transfer leaves behind

A transfer can be refused before the session is marked as under way and after that.  Before,
nothing has happened yet.  After, the entry of the pending transfer is taken back and the
session is restored to playing, which undoes the mark, provided that it is the call's own: a
session that was under way when the call began is marked already, and the undoing takes
away the mark of the transfer that goes on (`Proxy.refused_transfer_exact`).
-/

namespace GameGateway

open Session (become_transferring)

/-- Is it told when the session has been marked as under way?  Then the token or the message
was at fault. -/
def GatewayError.followsMark : GatewayError → Bool
  | .token _ | .control _ => true
  | _ => false

/-- A session on its way to another backend. -/
def Session.marked (session : Session) : Session := { session with state := .transferring }

theorem Session.restore_marked (session : Session) :
    session.marked.restore = { session with state := .playing } := rfl

variable {σ : Type} {env : Surroundings σ}

/-! ## The message -/

/-- A request that is not sent is not pending afterwards, and nothing has become of the
sessions. -/
theorem ProxyPlane.requestTransfer_refused {slot : Slot σ ProxyPlane} (h : env.Spares slot)
    {request : TransferRequest} {s s' : σ} {e : ControlError}
    (hfresh : (slot.get s).pending.get? request.correlation = none)
    (hrefused : requestTransfer env slot request s = (.error e, s')) :
    (slot.get s').sessions = (slot.get s).sessions ∧
      ∀ correlation, (slot.get s').pending.get? correlation =
        (slot.get s).pending.get? correlation := by
  unfold requestTransfer at hrefused
  split at hrefused
  · cases hrefused
    exact ⟨rfl, fun _ => rfl⟩
  rename_i payload _
  dsimp only at hrefused
  split at hrefused
  · cases hrefused
  rename_i sent hsent
  cases hrefused
  obtain ⟨tally, htally⟩ := ControlEndpoint.send_spares h ProxyPlane.endpointSlot
    .transferRequest payload (slot.modify (fun plane =>
      plane.awaiting request (env.now s)) s)
  have hget : slot.get sent = ProxyPlane.endpointSlot.modify
      (fun endpoint => { endpoint with rejects := tally })
      ((slot.get s).awaiting request (env.now s)) := by
    rw [← slot.get_modify (fun plane => plane.awaiting request (env.now s)) s, ← htally]
    exact congrArg (fun result => slot.get result.2) hsent.symm
  rw [Slot.get_modify, hget]
  refine ⟨rfl, fun correlation => ?_⟩
  -- What was entered is taken out again, and nothing was there before it.
  calc (((slot.get s).pending.insert request.correlation ⟨env.now s, request.player⟩).erase
          request.correlation).get? correlation
    _ = if correlation = request.correlation then none
        else (slot.get s).pending.get? correlation := by
      rw [Table.get?_erase, Table.get?_insert]
      split
      · rfl
      · rfl
    _ = (slot.get s).pending.get? correlation := by
      split
      · rename_i hsame
        rw [hsame, hfresh]
      · rfl

namespace Proxy

variable {slot : Slot σ Proxy} {id : SessionId} {backend : String} {s s' : σ} {e : GatewayError}

/-! ## The mark -/

/-- Where the surroundings spare the proxy, choosing a backend leaves it as it is. -/
theorem get_selectBackend (h : env.Spares slot) (context : RoutingContext) (initial : Bool)
    (s : σ) : slot.get (selectBackend env slot context initial s).2 = slot.get s := by
  unfold selectBackend
  rcases Nat.lt_or_ge ((slot.comp routingSlot).get s).limiter.count
    ((slot.comp routingSlot).get s).limiter.limit with hfree | hfull
  · rw [Routing.select_of_free hfree, Routing.returned, Slot.get_modify_comp,
      Routing.view_decide h.post, Routing.leased, Slot.get_modify_comp]
    rfl
  · rw [Routing.select_of_full hfull]

/-- The state in which a value is drawn for a transfer of the session: the backend has been
chosen, and the session is marked. -/
def departing (env : Surroundings σ) (slot : Slot σ Proxy) (id : SessionId) (player : Uuid)
    (backend : String) (s : σ) : σ :=
  slot.modify (fun proxy => proxy.updateSession id Session.marked)
    (selectBackend env slot (.forTransfer player backend) false s).2

theorem get_departing (h : env.Spares slot) (id : SessionId) (player : Uuid) (backend : String)
    (s : σ) : slot.get (departing env slot id player backend s) =
      (slot.get s).updateSession id Session.marked := by
  rw [departing, Slot.get_modify, get_selectBackend h]

/-- Putting in the session that was found, marked, is the same as marking it where it is. -/
theorem modify_marked {session : Session} {chosen : σ}
    (hsession : (slot.get s).session? id = some session) (hchosen : slot.get chosen = slot.get s) :
    slot.modify (fun proxy => proxy.updateSession id fun _ => session.marked) chosen =
      slot.modify (fun proxy => proxy.updateSession id Session.marked) chosen := by
  have hupdate : (slot.get s).plane.sessions.update id (fun _ => session.marked) =
      (slot.get s).plane.sessions.update id Session.marked :=
    SessionRegistry.update_congr fun found hfound => by
      rw [Option.some.inj (hsession.symm.trans hfound)]
  rw [Slot.modify, Slot.modify, hchosen]
  rw [updateSession, updateSession, withSessions, withSessions, hupdate]

/-- No pending transfer is known by the value that is drawn for a transfer of the session. -/
def DrawsAnew (env : Surroundings σ) (slot : Slot σ Proxy) (id : SessionId) (backend : String)
    (s : σ) : Prop :=
  ∀ session player, (slot.get s).session? id = some session → session.player = some player →
    (slot.get s).plane.pending.get? ⟨(env.draw (departing env slot id player backend s)).1⟩ = none

/-- A transfer is refused without a trace, or on the way that begins with the mark. -/
theorem requestTransfer_refused_cases (h : env.Spares slot)
    (hrefused : requestTransfer env slot id backend s = (.error e, s')) :
    (e.followsMark = false ∧ slot.get s' = slot.get s) ∨ ∃ session player target,
      (slot.get s).session? id = some session ∧ session.player = some player ∧
      (session.state = .playing ∨ session.state = .transferring) ∧
      sendTransfer env slot id player target (departing env slot id player backend s) =
        (.error e, s') := by
  unfold requestTransfer at hrefused
  split at hrefused
  · cases hrefused
    exact .inl ⟨rfl, rfl⟩
  rename_i session hsession
  split at hrefused
  · cases hrefused
    exact .inl ⟨rfl, rfl⟩
  rename_i player hplayer
  have hchosen := get_selectBackend h (.forTransfer player backend) false s
  split at hrefused
  · rename_i hselected
    cases hrefused
    rw [hselected] at hchosen
    exact .inl ⟨rfl, hchosen⟩
  rename_i selection chosen hselected
  rw [hselected] at hchosen
  dsimp only at hchosen hrefused
  rw [hchosen, hsession, Option.getD_some] at hrefused
  split at hrefused
  · cases hrefused
    exact .inl ⟨rfl, hchosen⟩
  split at hrefused
  · rename_i hbecome
    cases hrefused
    unfold Session.become at hbecome
    split at hbecome
    · cases hbecome
    · cases hbecome
      exact .inl ⟨rfl, hchosen⟩
  · rename_i changed next hbecome
    obtain ⟨rfl, hstate⟩ := become_transferring hbecome
    refine .inr ⟨session, player, selection.backend.id, hsession, hplayer, hstate, ?_⟩
    rw [departing, hselected, ← modify_marked hsession hchosen]
    exact hrefused

/-! ## The undoing -/

/-- Once the session is marked, a refusal restores it and takes the pending transfer back. -/
theorem sendTransfer_refused (h : env.Spares slot) {player : Uuid} {target : String}
    (hfresh : (slot.get s).plane.pending.get? ⟨(env.draw s).1⟩ = none)
    (hrefused : sendTransfer env slot id player target s = (.error e, s')) :
    e.followsMark = true ∧
      (slot.get s').plane.sessions = (slot.get s).plane.sessions.update id Session.restore ∧
      ∀ correlation, (slot.get s').plane.pending.get? correlation =
        (slot.get s).plane.pending.get? correlation := by
  have hrestore : ∀ s, slot.get (restore slot id s) =
      (slot.get s).updateSession id Session.restore :=
    fun s => slot.get_modify _ s
  unfold sendTransfer at hrefused
  dsimp only at hrefused
  split at hrefused
  · cases hrefused
    rw [hrestore]
    exact ⟨rfl, rfl, fun _ => rfl⟩
  split at hrefused
  · rename_i token _ _ asked hasked
    cases hrefused
    have hdrawn : ((slot.comp planeSlot).get (env.draw s).2) = (slot.get s).plane :=
      congrArg plane (h.draw s)
    obtain ⟨hsessions, hpending⟩ := ProxyPlane.requestTransfer_refused (h.comp planeSlot)
      (by rw [hdrawn]; exact hfresh) hasked
    rw [hdrawn] at hsessions hpending
    rw [hrestore]
    refine ⟨rfl, ?_, hpending⟩
    exact congrArg (fun sessions => SessionRegistry.update sessions id Session.restore) hsessions
  · cases hrefused

/-- **What a refused transfer leaves behind.**  The transfers that are pending are the ones
that were pending before, and every session is as it was, with one exception: if the session
was under way already and the refusal comes after the mark, it plays from then on. -/
theorem refused_transfer_exact (h : env.Spares slot) (hfresh : DrawsAnew env slot id backend s)
    (hrefused : requestTransfer env slot id backend s = (.error e, s')) :
    (∀ correlation, (slot.get s').plane.pending.get? correlation =
      (slot.get s).plane.pending.get? correlation) ∧
    ∀ key, (slot.get s').session? key = ((slot.get s).session? key).map fun session =>
      if key = id ∧ e.followsMark = true ∧ session.state = .transferring then
        { session with state := .playing }
      else session := by
  rcases requestTransfer_refused_cases h hrefused with
    ⟨hearly, hsame⟩ | ⟨session, player, target, hsession, hplayer, hstate, hsend⟩
  · rw [hsame]
    refine ⟨fun _ => rfl, fun key => ?_⟩
    simp [hearly]
  have hmarked := get_departing h id player backend s
  obtain ⟨hlate, hsessions, hpending⟩ := sendTransfer_refused h
    (by rw [hmarked]; exact hfresh session player hsession hplayer) hsend
  rw [hmarked] at hsessions hpending
  refine ⟨hpending, fun key => ?_⟩
  have hview : (slot.get s').session? key =
      (((slot.get s).plane.sessions.update id Session.marked).update id
        Session.restore).session? key :=
    congrArg (fun sessions => SessionRegistry.session? sessions key) hsessions
  rw [hview, SessionRegistry.session?_update, SessionRegistry.session?_update]
  by_cases hkey : key = id
  · subst hkey
    have hfound : (slot.get s).plane.sessions.session? key = some session := hsession
    rw [if_pos rfl, if_pos rfl, hsession, hfound]
    rcases hstate with hplaying | htransferring
    · have hsame : { session with state := .playing } = session := by
        rw [← hplaying]
      simp [hplaying, Session.restore_marked, hsame]
    · simp [hlate, htransferring, Session.restore_marked]
  · rw [if_neg hkey, if_neg hkey]
    simp only [hkey, false_and, if_false, Option.map_id']
    rfl

end Proxy

/-! ## A visitor on the way to the arena -/

namespace Alone

open RecordedProxy (proxySlot)

/-- A proxy in front of three backends; its messages are so short that no request for the
stadium fits in one. -/
def terse : ProxyConfig :=
  { crossroads with
    backends := crossroads.backends ++ [⟨"stadium", "10.0.0.3", 25565⟩]
    control := { maxPayload := 162 } }

/-- The lobby has taken the visitor. -/
def settledIn : Alone RecordedProxy := after [visit, taken 1] ⟨0, { proxy := .start terse 0 }⟩

/-- The visitor is under way to the arena. -/
def leaving : Alone RecordedProxy := perform recording Alone.slot (toArena 0) settledIn

/-- The proxy that is recorded. -/
def gate : Slot (Alone RecordedProxy) Proxy := Alone.slot.comp proxySlot

theorem recording_spares : recording.Spares gate where
  draw _ := rfl
  post _ _ _ := rfl
  send _ _ _ := rfl

/-- What comes of a request for a transfer to the stadium. -/
def toStadium (s : Alone RecordedProxy) : Except GatewayError Uuid × Alone RecordedProxy :=
  Proxy.requestTransfer recording gate ⟨0⟩ "stadium" s

/-- The session is that of the visitor, nothing is pending under the value that is drawn for the
stadium, and the request is refused. -/
structure TurnedBack (s : Alone RecordedProxy) : Prop where
  player : ((gate.get s).session? ⟨0⟩).map Session.player = some (some visitor)
  fresh : (gate.get s).plane.pending.get?
    ⟨(recording.draw (Proxy.departing recording gate ⟨0⟩ visitor "stadium" s)).1⟩ = none
  refused : (toStadium s).1.toOption = none

theorem TurnedBack.drawsAnew {s : Alone RecordedProxy} (h : TurnedBack s) :
    Proxy.DrawsAnew recording gate ⟨0⟩ "stadium" s := by
  intro session player hsession hplayer
  have hvisitor := h.player
  rw [hsession, Option.map_some, hplayer] at hvisitor
  cases hvisitor
  exact h.fresh

theorem TurnedBack.exists_error {s : Alone RecordedProxy} (h : TurnedBack s) :
    ∃ e, Proxy.requestTransfer recording gate ⟨0⟩ "stadium" s = (.error e, (toStadium s).2) := by
  have hrefused := h.refused
  cases houtcome : (toStadium s).1 with
  | error e => exact ⟨e, Prod.ext houtcome rfl⟩
  | ok correlation =>
      rw [houtcome] at hrefused
      cases hrefused

/-- Somebody who plays in the lobby is turned back. -/
theorem settledIn_turnedBack : TurnedBack settledIn ∧
    ((gate.get settledIn).session? ⟨0⟩).map Session.state = some .playing := by
  have hfacts : (((gate.get settledIn).session? ⟨0⟩).map Session.player = some (some visitor) ∧
      (gate.get settledIn).plane.pending.get? ⟨(recording.draw
        (Proxy.departing recording gate ⟨0⟩ visitor "stadium" settledIn)).1⟩ = none ∧
      (toStadium settledIn).1.toOption = none) ∧
      ((gate.get settledIn).session? ⟨0⟩).map Session.state = some .playing := by
    decide +kernel
  obtain ⟨⟨hplayer, hfresh, hrefused⟩, hstate⟩ := hfacts
  exact ⟨⟨hplayer, hfresh, hrefused⟩, hstate⟩

/-- Somebody who is under way to the arena is turned back and plays from then on. -/
theorem leaving_turnedBack : TurnedBack leaving ∧
    ((gate.get leaving).session? ⟨0⟩).map Session.state = some .transferring ∧
    ((gate.get (toStadium leaving).2).session? ⟨0⟩).map Session.state = some .playing := by
  have hfacts : (((gate.get leaving).session? ⟨0⟩).map Session.player = some (some visitor) ∧
      (gate.get leaving).plane.pending.get? ⟨(recording.draw
        (Proxy.departing recording gate ⟨0⟩ visitor "stadium" leaving)).1⟩ = none ∧
      (toStadium leaving).1.toOption = none) ∧
      ((gate.get leaving).session? ⟨0⟩).map Session.state = some .transferring ∧
      ((gate.get (toStadium leaving).2).session? ⟨0⟩).map Session.state = some .playing := by
    decide +kernel
  obtain ⟨⟨hplayer, hfresh, hrefused⟩, hstates⟩ := hfacts
  exact ⟨⟨hplayer, hfresh, hrefused⟩, hstates⟩

end Alone

open Alone (recording gate settledIn leaving toStadium)

/-- A visitor who plays in the lobby stays there as before when the stadium cannot be asked
for. -/
theorem refused_transfer_leaves_player :
    recording.Spares gate ∧ Proxy.DrawsAnew recording gate ⟨0⟩ "stadium" settledIn ∧
      ∃ e, Proxy.requestTransfer recording gate ⟨0⟩ "stadium" settledIn =
          (.error e, (toStadium settledIn).2) ∧
        (gate.get (toStadium settledIn).2).session? ⟨0⟩ = (gate.get settledIn).session? ⟨0⟩ := by
  obtain ⟨hturned, hstate⟩ := Alone.settledIn_turnedBack
  obtain ⟨e, hrefused⟩ := hturned.exists_error
  obtain ⟨-, hsessions⟩ := Proxy.refused_transfer_exact Alone.recording_spares hturned.drawsAnew
    hrefused
  refine ⟨Alone.recording_spares, hturned.drawsAnew, e, hrefused, ?_⟩
  obtain ⟨session, hsession, hplaying⟩ := Option.map_eq_some_iff.mp hstate
  rw [hsessions ⟨0⟩, hsession]
  simp [hplaying]

/-- A visitor who is under way to the arena plays in the lobby again when the stadium cannot be
asked for. -/
theorem refused_transfer_ends_another :
    ¬ ∀ (σ : Type) (env : Surroundings σ) (slot : Slot σ Proxy) (id : SessionId)
        (backend : String) (s s' : σ) (e : GatewayError),
      env.Spares slot → Proxy.DrawsAnew env slot id backend s →
      Proxy.requestTransfer env slot id backend s = (.error e, s') →
      ((slot.get s').session? id).map Session.state =
        ((slot.get s).session? id).map Session.state := by
  intro h
  obtain ⟨hturned, hbefore, hafter⟩ := Alone.leaving_turnedBack
  obtain ⟨e, hrefused⟩ := hturned.exists_error
  have hsame := h _ recording gate ⟨0⟩ "stadium" leaving (toStadium leaving).2 e
    Alone.recording_spares hturned.drawsAnew hrefused
  rw [hbefore, hafter] at hsame
  cases hsame

end GameGateway
