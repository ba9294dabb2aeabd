import GameGateway.Proofs.Proxy.Consent
import GameGateway.Proofs.Wire.Notice

/-!
# Which session a failed transfer restores

While a transfer has no answer the proxy remembers the player it is about, but not the
session it was requested for, nor how often a transfer of that session was requested.
When the answer is that the transfer failed, the session that is then found for the player
is restored.  Everything else stays as it is: no session of another player changes, and a
second answer to the same request changes nothing at all (`failedTransfer_exact`).

As long as the session of the request is not disconnected, it is the one that is found.
After the player has come back it is another one, and an answer that was late until then
takes the player's new transfer back to playing (`late_failure_restores_successor`).
-/

namespace GameGateway

/-- The packet was admitted, and in it a backend says that a transfer failed. -/
def Arrival.Fails (a : Arrival) (correlation : Uuid) : Prop :=
  ∃ envelope result, a.admitted = some envelope ∧ envelope.kind = .transferResult ∧
    TransferResult.decode? envelope.payload = some result ∧ result.correlation = correlation ∧
    result.status = .failed

namespace Ledger

/-! ## Whose transfer is pending -/

/-- If a transfer is pending under the value, it is one of the player. -/
def AwaitsOnly (l : Ledger) (correlation : Uuid) (player : Uuid) : Prop :=
  ∀ transfer, l.pending.get? correlation = some transfer → transfer.player = player

theorem awaitsOnly_asked (l : Ledger) (correlation : Uuid) (transfer : PendingTransfer) :
    (l.asked correlation transfer).AwaitsOnly correlation transfer.player := by
  intro other hother
  unfold asked at hother
  rw [Table.get?_insert, if_pos rfl] at hother
  cases hother
  rfl

/-- A value that was drawn before is not asked under again if no value is drawn twice. -/
theorem Move.awaitsOnly {l l' : Ledger} {correlation player : Uuid} (h : Move l l')
    (hnodup : l'.drawn.Nodup) (hdrawn : correlation.octets ∈ l.drawn)
    (hl : l.AwaitsOnly correlation player) : l'.AwaitsOnly correlation player := by
  cases h with
  | ask other transfer =>
      intro found hfound
      have hne : correlation ≠ other := by
        rintro rfl
        exact (List.nodup_append.mp hnodup).2.2 _ hdrawn _ (List.mem_singleton_self _) rfl
      unfold asked at hfound
      rw [Table.get?_insert, if_neg hne] at hfound
      exact hl found hfound
  | withdraw other =>
      intro found hfound
      rw [Table.get?_erase] at hfound
      split at hfound
      · cases hfound
      · exact hl found hfound
  | _ => exact hl

theorem Moves.awaitsOnly {l l' : Ledger} {correlation player : Uuid} (h : Moves l l')
    (hnodup : l'.drawn.Nodup) (hdrawn : correlation.octets ∈ l.drawn)
    (hl : l.AwaitsOnly correlation player) : l'.AwaitsOnly correlation player := by
  -- By induction from the end: what was drawn until then is a prefix of what was drawn in all.
  induction h with
  | refl => exact hl
  | tail before move ih =>
      have hbefore := hnodup.sublist move.drawn_prefix.sublist
      exact move.awaitsOnly hnodup (Moves.drawn_prefix before |>.subset hdrawn) (ih hbefore)

/-! ## What a failure does -/

/-- The session that is restored if the answer to a request is that the transfer failed. -/
def blamed? (l : Ledger) (correlation : Uuid) : Option SessionId := do
  let transfer ← l.pending.get? correlation
  l.sessions.findByPlayer transfer.player

/-- The sessions after the answer that a transfer failed. -/
def sessionsWithout (l : Ledger) (correlation : Uuid) : SessionRegistry :=
  match l.blamed? correlation with
  | none => l.sessions
  | some id => l.sessions.update id Session.restore

theorem session?_sessionsWithout (l : Ledger) (correlation : Uuid) (key : SessionId) :
    (l.sessionsWithout correlation).session? key =
      if l.blamed? correlation = some key then (l.sessions.session? key).map Session.restore
      else l.sessions.session? key := by
  unfold sessionsWithout
  cases l.blamed? correlation with
  | none => rw [if_neg nofun]
  | some id =>
      dsimp only
      rw [SessionRegistry.session?_update]
      by_cases hkey : key = id
      · rw [if_pos hkey, if_pos (congrArg some hkey.symm)]
      · rw [if_neg hkey, if_neg fun hsame => hkey (Option.some.inj hsame).symm]

end Ledger

open RecordedProxy (planeSlot proxySlot)

section Answers

variable {σ : Type} {env : Surroundings σ} {slot : Slot σ RecordedProxy}

theorem ProxyPlane.sessions_settle {l : Ledger} {plane : ProxyPlane} {result : TransferResult}
    (hsessions : plane.sessions = l.sessions) (hpending : plane.pending = l.pending)
    (hfailed : result.status = .failed) :
    (plane.settle result).sessions = l.sessionsWithout result.correlation := by
  unfold settle Ledger.sessionsWithout Ledger.blamed?
  dsimp only
  rw [hpending]
  cases l.pending.get? result.correlation with
  | none => exact hsessions
  | some transfer =>
      rw [Option.bind_eq_bind, Option.bind_some]
      dsimp only
      rw [if_pos hfailed, ← hsessions]
      unfold restore
      dsimp only
      cases plane.sessions.findByPlayer transfer.player with
      | none => rfl
      | some id => rfl

/-- What handling a failure does to the sessions. -/
theorem sessions_of_fails (h : env.Orderly slot) {packet : Bytes} {correlation : Uuid} {s : σ}
    (hfails : (Arrival.mk (slot.get s).proxy.plane (env.now s) packet).Fails correlation) :
    (ledgerAt slot (perform env slot (.packet packet) s)).sessions =
      (ledgerAt slot s).sessionsWithout correlation := by
  obtain ⟨envelope, result, hadmitted, hkind, hdecode, rfl, hfailed⟩ := hfails
  obtain ⟨visited, hvisited, hhandled⟩ := ProxyPlane.ledgerAt_handlePacket h packet s
  have hsessions : ((slot.comp planeSlot).get visited).sessions = (ledgerAt slot s).sessions :=
    congrArg Ledger.sessions hvisited
  have hpending : ((slot.comp planeSlot).get visited).pending = (ledgerAt slot s).pending :=
    congrArg Ledger.pending hvisited
  rw [hadmitted] at hhandled
  rw [perform, hhandled]
  dsimp only
  rw [ProxyPlane.process_result hkind hdecode, ProxyPlane.onResult, h.observe, ledgerAt_modifyPlane]
  exact ProxyPlane.sessions_settle hsessions hpending hfailed

/-! ## Late answers -/

/-- Once a transfer was requested, the value it is known by is only ever pending for the player
of its session. -/
theorem awaitsOnly_of_request (h : env.Orderly slot) {id : SessionId} {backend : String}
    {correlation : Uuid} {s s' : σ}
    (hrequest : (Proxy.requestTransfer env (slot.comp proxySlot) id backend s).1 = .ok correlation)
    (hlater : ProxyRun slot (perform env slot (.transfer id backend) s) s')
    (hnodup : (slot.get s').drawn.Nodup) :
    ∃ session player, (ledgerAt slot s).sessions.session? id = some session ∧
      session.player = some player ∧ (ledgerAt slot s').AwaitsOnly correlation player := by
  obtain ⟨session, player, l, startedAt, hsession, hplayer, -, hasked⟩ :=
    (Proxy.requestTransfer_moves h id backend s).2 correlation hrequest
  have hmoves : Ledger.Moves (l.asked correlation ⟨startedAt, player⟩) (ledgerAt slot s') :=
    hasked.trans hlater.moves
  have hdrawn : correlation.octets ∈ (l.asked correlation ⟨startedAt, player⟩).drawn :=
    List.mem_append_right _ (List.mem_singleton_self _)
  exact ⟨session, player, hsession, hplayer,
    hmoves.awaitsOnly hnodup hdrawn (l.awaitsOnly_asked correlation ⟨startedAt, player⟩)⟩

/-- **Which session a failed transfer restores.**  A transfer of a session was requested some
time after the start of the proxy, whatever has happened before and after that; no value was
drawn twice.  When an answer comes in that this transfer failed, then the session that is found
for the player is restored if the request was still pending, and no other session changes.  As
long as the session of the request is not disconnected, no session but that one changes. -/
theorem failedTransfer_exact {s₀ s s' : σ} (hstart : JustStarted slot s₀)
    (hbefore : ProxyRun slot s₀ s) (hrequested : env.Around slot) {id : SessionId}
    {backend : String} {correlation : Uuid}
    (hrequest : (Proxy.requestTransfer env (slot.comp proxySlot) id backend s).1 = .ok correlation)
    (hlater : ProxyRun slot (perform env slot (.transfer id backend) s) s')
    (hnodup : (slot.get s').drawn.Nodup) {env' : Surroundings σ} (hanswered : env'.Around slot)
    {packet : Bytes}
    (hfails : (Arrival.mk (slot.get s').proxy.plane (env'.now s') packet).Fails correlation) :
    ∃ session player, (slot.get s').proxy.session? id = some session ∧
      session.player = some player ∧
      (∀ key, (slot.get (perform env' slot (.packet packet) s')).proxy.session? key =
        if ((slot.get s').proxy.plane.pending.get? correlation).isSome ∧
            (slot.get s').proxy.plane.sessions.findByPlayer player = some key then
          ((slot.get s').proxy.session? key).map Session.restore
        else (slot.get s').proxy.session? key) ∧
      (session.state ≠ .disconnected → ∀ key, key ≠ id →
        (slot.get (perform env' slot (.packet packet) s')).proxy.session? key =
          (slot.get s').proxy.session? key) := by
  have hwell := (consenting_of_run hstart hbefore).wellKept
  have hall : Ledger.Moves (ledgerAt slot s) (ledgerAt slot s') :=
    (perform_moves hrequested.orderly (.transfer id backend) s).trans hlater.moves
  obtain ⟨hwell', hkeeps⟩ := hall.keeps hwell
  obtain ⟨old, player, hold, howner, hawaits⟩ :=
    awaitsOnly_of_request hrequested.orderly hrequest hlater hnodup
  obtain ⟨session, hsession, hkept, -⟩ := hkeeps id old hold
  have hplayer := hkept player howner
  have hblamed : ∀ key, (ledgerAt slot s').blamed? correlation = some key ↔
      ((ledgerAt slot s').pending.get? correlation).isSome ∧
        (ledgerAt slot s').sessions.findByPlayer player = some key := by
    intro key
    unfold Ledger.blamed?
    cases hpending : (ledgerAt slot s').pending.get? correlation with
    | none => simp
    | some transfer => simp [hawaits transfer hpending]
  have hafter : ∀ key, (slot.get (perform env' slot (.packet packet) s')).proxy.session? key =
      if ((slot.get s').proxy.plane.pending.get? correlation).isSome ∧
          (slot.get s').proxy.plane.sessions.findByPlayer player = some key then
        ((slot.get s').proxy.session? key).map Session.restore
      else (slot.get s').proxy.session? key := by
    intro key
    have hview := congrArg (fun r => r.session? key) (sessions_of_fails hanswered.orderly hfails)
    rw [Ledger.session?_sessionsWithout] at hview
    simp only [hblamed] at hview
    exact hview
  refine ⟨session, player, hsession, hplayer, hafter, fun halive key hne => ?_⟩
  have hfound : (slot.get s').proxy.plane.sessions.findByPlayer player = some id :=
    hwell'.findByPlayer_eq_some_iff.mpr ⟨session, hsession, hplayer, halive⟩
  rw [hafter, if_neg ?_]
  rintro ⟨-, hother⟩
  rw [hfound] at hother
  cases hother
  exact hne rfl

end Answers

/-! ## A visitor who comes back -/

namespace Alone

/-- A session is to be transferred to the arena. -/
def toArena (session : Nat) : ProxyCall := .transfer ⟨session⟩ "arena"

/-- The visitor is under way from the lobby to the arena. -/
def moving : Alone RecordedProxy := perform recording Alone.slot (toArena 0) welcomed

/-- The same visitor after coming back, under way to the arena a second time. -/
def movingAgain : Alone RecordedProxy := after [visit, taken 2, toArena 1] moving

/-- A player who comes along. -/
def companion : Uuid := .ofNat 8

/-- The visitor is in the lobby, and the companion already under way from there to the arena. -/
def accompanied : Alone RecordedProxy := after
  [visit, taken 1,
    .accept (ConnectFrame.write { playerId := some companion }) ⟨1⟩ none none,
    fromLobby .tokenValidation 2 (ValidationNotice.write ⟨companion, "lobby", .accepted, none⟩),
    toArena 1] opened

/-- Both are under way. -/
def together : Alone RecordedProxy := perform recording Alone.slot (toArena 0) accompanied

/-- The lobby says that a transfer failed. -/
def refusal (correlation : Uuid) : Envelope where
  kind := .transferResult
  sender := "lobby"
  issuedAt := 0
  ttl := 10000
  nonce := (Uuid.ofNat 3).octets
  payload := TransferResult.encode (.failed correlation .playerNotFound)

/-- The transfer of the visitor, known by the fifth value that was drawn, has failed. -/
def answered : Alone RecordedProxy :=
  perform recording Alone.slot (.packet (refusal (.ofNat 4)).write) together

/-- The transfer of the first session was requested, and the endpoint takes its refusal later. -/
structure Refusable (correlation : Uuid) (before s : Alone RecordedProxy) : Prop where
  requested : (Proxy.requestTransfer recording (Alone.slot.comp proxySlot) ⟨0⟩ "arena"
    before).1 = .ok correlation
  nodup : (Alone.slot.get s).drawn.Nodup
  fails : (Arrival.mk (Alone.slot.get s).proxy.plane (recording.now s)
    (refusal correlation).write).Fails correlation

theorem refusable_of_facts {correlation : Uuid} {before s : Alone RecordedProxy}
    (h : (Proxy.requestTransfer recording (Alone.slot.comp proxySlot) ⟨0⟩ "arena"
        before).1.toOption = some correlation ∧
      (Alone.slot.get s).drawn.Nodup ∧
      ((Alone.slot.get s).proxy.plane.endpoint.accept (recording.now s)
        (refusal correlation).write).1 = some (refusal correlation)) :
    Refusable correlation before s where
  requested := toOption_eq_some_iff.mp h.1
  nodup := h.2.1
  fails := ⟨refusal correlation, _, h.2.2, rfl, TransferResult.decode?_encode _, rfl, rfl⟩

theorem welcomed_run : ProxyRun Alone.slot opened welcomed := run_after [visit, taken 1] opened

theorem accompanied_run : ProxyRun Alone.slot opened accompanied := run_after _ opened

/-- Both are under way when the refusal of the visitor's transfer comes in. -/
theorem together_facts :
    ((Proxy.requestTransfer recording (Alone.slot.comp proxySlot) ⟨0⟩ "arena"
        accompanied).1.toOption = some (.ofNat 4) ∧
      (Alone.slot.get together).drawn.Nodup ∧
      ((Alone.slot.get together).proxy.plane.endpoint.accept (recording.now together)
        (refusal (.ofNat 4)).write).1 = some (refusal (.ofNat 4))) ∧
    ((Alone.slot.get together).proxy.session? ⟨0⟩).map
      (fun session => (session.state, session.player)) = some (.transferring, some visitor) ∧
    ((Alone.slot.get together).proxy.session? ⟨1⟩).map Session.state = some .transferring ∧
    ((Alone.slot.get together).proxy.plane.pending.get? (.ofNat 4)).isSome ∧
    (Alone.slot.get together).proxy.plane.sessions.findByPlayer visitor = some ⟨0⟩ := by
  decide +kernel

/-- The second transfer is under way when the refusal of the first one comes in, which is known
by the second value that was drawn, and not after that. -/
theorem movingAgain_facts :
    ((Proxy.requestTransfer recording (Alone.slot.comp proxySlot) ⟨0⟩ "arena"
        welcomed).1.toOption = some (.ofNat 1) ∧
      (Alone.slot.get movingAgain).drawn.Nodup ∧
      ((Alone.slot.get movingAgain).proxy.plane.endpoint.accept (recording.now movingAgain)
        (refusal (.ofNat 1)).write).1 = some (refusal (.ofNat 1))) ∧
    ((Alone.slot.get movingAgain).proxy.session? ⟨1⟩).map Session.state = some .transferring ∧
    ((Alone.slot.get (perform recording Alone.slot (.packet (refusal (.ofNat 1)).write)
      movingAgain)).proxy.session? ⟨1⟩).map Session.state = some .playing := by
  decide +kernel

end Alone

open Alone (recording opened welcomed moving movingAgain accompanied together answered toArena
  refusal)

/-- Of two players who are under way, the one whose transfer failed plays again.  The other one
stays under way. -/
theorem failure_restores_own_session :
    (Proxy.requestTransfer recording (Alone.slot.comp proxySlot) ⟨0⟩ "arena" accompanied).1 =
        .ok (.ofNat 4) ∧
      ((Alone.slot.get together).proxy.session? ⟨0⟩).map Session.state = some .transferring ∧
      ((Alone.slot.get answered).proxy.session? ⟨0⟩).map Session.state = some .playing ∧
      ((Alone.slot.get answered).proxy.session? ⟨1⟩).map Session.state = some .transferring ∧
      ∀ key, key ≠ ⟨0⟩ → (Alone.slot.get answered).proxy.session? key =
        (Alone.slot.get together).proxy.session? key := by
  unfold answered
  obtain ⟨hfacts, hvisitor, hcompanion, hpending, hfind⟩ := Alone.together_facts
  have hrefusable := Alone.refusable_of_facts hfacts
  have hstart : JustStarted Alone.slot opened := ⟨Alone.crossroads, 0, rfl⟩
  have hlater : ProxyRun Alone.slot (perform recording Alone.slot (toArena 0) accompanied)
      together := .done together
  obtain ⟨session, player, hsession, hplayer, hafter, hothers⟩ := failedTransfer_exact hstart
    Alone.accompanied_run Alone.around_recording hrefusable.requested hlater hrefusable.nodup
    Alone.around_recording hrefusable.fails
  rw [hsession, Option.map_some, Option.some.injEq, Prod.mk.injEq] at hvisitor
  obtain ⟨htransferring, howner⟩ := hvisitor
  have hsame : player = Alone.visitor := Option.some.inj (hplayer.symm.trans howner)
  have hunchanged := hothers (by rw [htransferring]; nofun)
  refine ⟨hrefusable.requested, ?_, ?_, ?_, hunchanged⟩
  · rw [hsession, Option.map_some, htransferring]
  · rw [hafter, hsame, if_pos ⟨hpending, hfind⟩, hsession, Option.map_some, Option.map_some,
      Session.state_restore, if_pos htransferring]
  · rw [hunchanged ⟨1⟩ (by decide)]
    exact hcompanion

/-- A failure that comes in after the visitor has come back, and is under way again, restores
the new session. -/
theorem late_failure_restores_successor :
    ¬ ∀ (σ : Type) (slot : Slot σ RecordedProxy) (s₀ s s' : σ) (env env' : Surroundings σ)
        (id : SessionId) (backend : String) (correlation : Uuid) (packet : Bytes),
      JustStarted slot s₀ → ProxyRun slot s₀ s → env.Around slot →
      (Proxy.requestTransfer env (slot.comp proxySlot) id backend s).1 = .ok correlation →
      ProxyRun slot (perform env slot (.transfer id backend) s) s' →
      (slot.get s').drawn.Nodup → env'.Around slot →
      (Arrival.mk (slot.get s').proxy.plane (env'.now s') packet).Fails correlation →
      ∀ key, key ≠ id → (slot.get (perform env' slot (.packet packet) s')).proxy.session? key =
        (slot.get s').proxy.session? key := by
  intro h
  obtain ⟨hfacts, htransferring, hplaying⟩ := Alone.movingAgain_facts
  have hrefusable := Alone.refusable_of_facts hfacts
  have hstart : JustStarted Alone.slot opened := ⟨Alone.crossroads, 0, rfl⟩
  have hlater : ProxyRun Alone.slot (perform recording Alone.slot (toArena 0) welcomed)
      movingAgain := Alone.run_after [Alone.visit, Alone.taken 2, toArena 1] moving
  have hunchanged := h _ Alone.slot opened welcomed movingAgain recording recording ⟨0⟩ "arena"
    (.ofNat 1) (refusal (.ofNat 1)).write hstart Alone.welcomed_run Alone.around_recording
    hrefusable.requested hlater hrefusable.nodup Alone.around_recording hrefusable.fails ⟨1⟩
    (by decide)
  have hstates := congrArg (Option.map Session.state) hunchanged
  have hcontra := hplaying.symm.trans (hstates.trans htransferring)
  cases hcontra

end GameGateway
