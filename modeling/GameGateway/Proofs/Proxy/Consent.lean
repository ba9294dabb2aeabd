import GameGateway.Proofs.Proxy.Run

/-!
# No session plays without the consent of a backend

A session plays, or is under way from one backend to another, only after a backend has
said that it takes the player of the session: a packet that says so was admitted while
the session was the one that the registry found for its player, and so not before the
session was opened.  A backend's word is needed once for each session; a transfer that
comes to nothing takes the session back to where it was.

The invariant (`Ledger.Consenting`) is kept by each of the moves of a ledger: a new session
shakes hands, `mark` and `restore` lead from sessions with consent to sessions with
consent, and `authenticate` has the consent in its hands.
-/

namespace GameGateway

namespace Ledger

/-- A backend has taken the player of the session while it was the player's. -/
def Consented (l : Ledger) (id : SessionId) (player : Uuid) : Prop :=
  ∃ a ∈ l.arrivals, a.Accepts player ∧ a.plane.sessions.findByPlayer player = some id

theorem Consented.mono {l l' : Ledger} {id : SessionId} {player : Uuid}
    (h : l.Consented id player) (hsubset : l.arrivals ⊆ l'.arrivals) : l'.Consented id player := by
  obtain ⟨a, ha, haccepts, hlive⟩ := h
  exact ⟨a, hsubset ha, haccepts, hlive⟩

/-- If the session plays or is under way, a backend has taken its player. -/
def Backed (l : Ledger) (id : SessionId) (session : Session) : Prop :=
  session.state = .playing ∨ session.state = .transferring →
    ∃ player, session.player = some player ∧ l.Consented id player

theorem Backed.mono {l l' : Ledger} {id : SessionId} {session : Session}
    (h : l.Backed id session) (hsubset : l.arrivals ⊆ l'.arrivals) : l'.Backed id session := by
  intro hstate
  obtain ⟨player, hplayer, hconsented⟩ := h hstate
  exact ⟨player, hplayer, hconsented.mono hsubset⟩

/-- A session that does not play unless another one did, and has that one's player. -/
theorem Backed.of_backed {l : Ledger} {id : SessionId} {session session' : Session}
    (h : l.Backed id session) (hplayer : session'.player = session.player)
    (hstate : session'.state = .playing ∨ session'.state = .transferring →
      session.state = .playing ∨ session.state = .transferring) : l.Backed id session' := by
  intro hstate'
  rw [hplayer]
  exact h (hstate hstate')

/-- The registry is well kept, and every session in it is backed. -/
structure Consenting (l : Ledger) : Prop where
  wellKept : l.sessions.WellKept
  backed : ∀ id session, l.sessions.session? id = some session → l.Backed id session

/-- Sessions are backed after one of them was changed if that one is. -/
theorem backed_update {l : Ledger} (h : l.Consenting) {id : SessionId} {f : Session → Session}
    (hf : ∀ session, l.sessions.session? id = some session → l.Backed id session →
      l.Backed id (f session)) :
    ∀ key session', (l.sessions.update id f).session? key = some session' →
      l.Backed key session' := by
  intro key session' hsession'
  rw [SessionRegistry.session?_update] at hsession'
  split at hsession'
  · rename_i hkey
    subst hkey
    obtain ⟨session, hsession, rfl⟩ := Option.map_eq_some_iff.mp hsession'
    exact hf session hsession (h.backed _ _ hsession)
  · exact h.backed _ _ hsession'

theorem backed_openFor {l : Ledger} (h : l.Consenting) {session : Session} {player : Uuid}
    (hstate : session.state = .handshaking) :
    ∀ key session', (l.sessions.openFor session player).session? key = some session' →
      l.Backed key session' := by
  intro key session' hsession' hplays
  have halive : session'.state ≠ .disconnected := by
    rcases hplays with hplays | hplays <;> rw [hplays] <;> nofun
  rcases h.wellKept.session?_of_openFor hsession' halive with rfl | hsession
  · dsimp only at hplays
    rw [hstate] at hplays
    rcases hplays with hplays | hplays
    · cases hplays
    · cases hplays
  · exact h.backed _ _ hsession hplays

theorem backed_remove {l : Ledger} (h : l.Consenting) (id : SessionId) :
    ∀ key session', (l.sessions.remove id).2.session? key = some session' →
      l.Backed key session' := by
  intro key session' hsession' hplays
  rcases l.sessions.remove_eq id with hsame | ⟨owner, hremoved⟩
  · rw [hsame] at hsession'
    exact h.backed _ _ hsession' hplays
  · rw [hremoved] at hsession'
    obtain ⟨session, hsession, -, hkept⟩ := SessionRegistry.session?_of_retire hsession'
    have halive : session'.state ≠ .disconnected := by
      rcases hplays with hplays | hplays <;> rw [hplays] <;> nofun
    obtain ⟨-, rfl⟩ := hkept halive
    rw [SessionRegistry.session?_forget] at hsession
    exact h.backed _ _ hsession hplays

/-- Every move keeps the sessions backed. -/
theorem Move.consenting {l l' : Ledger} (h : Move l l') (hl : l.Consenting) : l'.Consenting := by
  refine ⟨(h.keeps hl.wellKept).1, fun key session' hsession' => ?_⟩
  refine Backed.mono (l := l) ?_ h.arrivals_subset
  cases h with
  | draw | arrive | ask | withdraw => exact hl.backed _ _ hsession'
  | openFor player state => exact backed_openFor hl state _ _ hsession'
  | revise id same =>
      refine backed_update hl (fun session _ hbacked => ?_) _ _ hsession'
      obtain ⟨hstate, hplayer⟩ := same session
      exact hbacked.of_backed hplayer (hstate ▸ fun hplays => hplays)
  | mark found state =>
      refine backed_update hl (fun session hsession hbacked => ?_) _ _ hsession'
      rw [found] at hsession
      cases hsession
      exact hbacked.of_backed rfl fun _ => state
  | restore id =>
      refine backed_update hl (fun session _ hbacked => ?_) _ _ hsession'
      refine hbacked.of_backed session.player_restore fun hplays => ?_
      rw [Session.state_restore] at hplays
      split at hplays
      · rename_i htransferring
        exact .inr htransferring
      · exact hplays
  | remove id => exact backed_remove hl id _ _ hsession'
  | authenticate arrived accepts since live found taken =>
      -- The one move that makes a session play which did not play before.  Its packet came in
      -- while the sessions were as they still are, so the session was the player's then.
      refine backed_update hl (fun session hsession _ => ?_) _ _ hsession'
      rw [found] at hsession
      cases hsession
      obtain ⟨-, hplayer, -⟩ := Session.authenticate_eq_ok taken
      obtain ⟨owner, howner, howned, -⟩ := hl.wellKept.findByPlayer_eq_some_iff.mp live
      rw [found] at howner
      cases howner
      exact fun _ => ⟨_, hplayer.trans howned, _, arrived, accepts, since ▸ live⟩

end Ledger

/-! ## Runs -/

section Runs

variable {σ : Type} {slot : Slot σ RecordedProxy}

/-- The proxy has just been started. -/
def JustStarted (slot : Slot σ RecordedProxy) (s : σ) : Prop :=
  ∃ config now, slot.get s = { proxy := .start config now }

theorem JustStarted.consenting {s : σ} (h : JustStarted slot s) : (ledgerAt slot s).Consenting := by
  obtain ⟨config, now, hget⟩ := h
  have hsessions : (ledgerAt slot s).sessions = {} := by
    rw [ledgerAt, hget]
    rfl
  refine ⟨?_, fun id session hsession => ?_⟩
  · rw [hsessions]
    exact SessionRegistry.wellKept_empty
  · rw [hsessions] at hsession
    cases hsession

theorem consenting_of_run {s s' : σ} (hstart : JustStarted slot s) (hrun : ProxyRun slot s s') :
    (ledgerAt slot s').Consenting :=
  hrun.moves.invariant (fun _ _ move hl => move.consenting hl) hstart.consenting

/-- **No session plays without consent.**  Whatever happens to a proxy since its start, of every
session that plays or is under way there is an admitted packet in which a backend says that it
has taken the session's player, and which came in when the session was the one found for that
player.  A session that is disconnected stays so, whatever happens then. -/
theorem plays_with_consent {s s' : σ} (hstart : JustStarted slot s) (hrun : ProxyRun slot s s') :
    (∀ id session, (slot.get s').proxy.session? id = some session →
      session.state = .playing ∨ session.state = .transferring →
        ∃ player, session.player = some player ∧ ∃ a ∈ (slot.get s').arrivals,
          a.Accepts player ∧ a.plane.sessions.findByPlayer player = some id) ∧
      ∀ id session, (slot.get s').proxy.session? id = some session →
        session.state = .disconnected → ∀ s'', ProxyRun slot s' s'' →
          ∃ session'', (slot.get s'').proxy.session? id = some session'' ∧
            session''.state = .disconnected := by
  have hconsenting := consenting_of_run hstart hrun
  refine ⟨fun id session hsession => hconsenting.backed id session hsession, ?_⟩
  intro id session hsession hgone s'' hlater
  obtain ⟨-, hkeeps⟩ := hlater.moves.keeps hconsenting.wellKept
  obtain ⟨session'', hsession'', -, hstays⟩ := hkeeps id session hsession
  exact ⟨session'', hsession'', hstays hgone⟩

end Runs

/-- The lobby has taken the visitor. -/
def Alone.welcomed : Alone RecordedProxy := after [visit, taken 1] opened

theorem Alone.welcomed_plays :
    ((Alone.slot.get welcomed).proxy.session? ⟨0⟩).map Session.state = some .playing := by
  decide +kernel

/-- A visitor whom the lobby has taken plays, and the packet of the lobby is on record. -/
theorem visitor_plays_with_consent :
    JustStarted Alone.slot Alone.opened ∧ ∃ session,
      (Alone.slot.get Alone.welcomed).proxy.session? ⟨0⟩ = some session ∧
      session.state = .playing ∧ ∃ player, session.player = some player ∧
        ∃ a ∈ (Alone.slot.get Alone.welcomed).arrivals,
          a.Accepts player ∧ a.plane.sessions.findByPlayer player = some ⟨0⟩ := by
  have hstart : JustStarted Alone.slot Alone.opened := ⟨Alone.crossroads, 0, rfl⟩
  have hrun : ProxyRun Alone.slot Alone.opened Alone.welcomed :=
    Alone.run_after [Alone.visit, Alone.taken 1] Alone.opened
  obtain ⟨session, hsession, hstate⟩ := Option.map_eq_some_iff.mp Alone.welcomed_plays
  exact ⟨hstart, session, hsession, hstate,
    (plays_with_consent hstart hrun).1 ⟨0⟩ session hsession (.inl hstate)⟩

end GameGateway
