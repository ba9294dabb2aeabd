import GameGateway.Proofs.Proxy.FailedTransfer
import GameGateway.Proofs.Route.Outcome

/-!
# What reports do to sessions

Whoever may send on the control channel reports about players and backends, and the proxy
looks the sessions up that these reports are about: for a verdict on a token by the player in
it, for a failed transfer by the player of the request that is pending under its value.

All that a packet says about sessions is one piece of news about one player, or nothing
(`ProxyPlane.news?`).  The registry after the packet is the registry before it with this piece of
news heeded (`sessions_handlePacket`), whatever observers do apart from sessions.  So a packet
touches one session at most, and that one plays afterwards.
-/

namespace GameGateway

/-! ## Sessions advance -/

namespace Session

variable {session session' : Session} {backend : String}

/-- A session that has not shaken hands with any backend cannot be taken by one. -/
theorem authenticate_of_new (hnew : session.state = .new) :
    (session.authenticate backend).toOption = none := by
  simp [authenticate, become, SessionState.become, SessionState.canBecome, hnew, bind, Except.bind,
    Except.toOption]

theorem exists_authenticate (backend : String) (hnew : session.state ≠ .new)
    (halive : session.state ≠ .disconnected) :
    ∃ session', session.authenticate backend = .ok session' := by
  cases hstate : session.state with
  | new => exact absurd hstate hnew
  | disconnected => exact absurd hstate halive
  | handshaking | playing | transferring =>
      simp [authenticate, become, SessionState.become, SessionState.canBecome, hstate, bind,
        Except.bind, pure, Except.pure]

end Session

/-- What a packet has to say about the session of a player. -/
inductive SessionNews where
  | failed (player : Uuid)
  | taken (player : Uuid) (backend : String)
deriving DecidableEq

namespace SessionNews

/-- The player in the news. -/
def player : SessionNews → Uuid
  | failed player | taken player _ => player

/-- The player's session after the news, if it can get there. -/
def advance? : SessionNews → Session → Option Session
  | failed _, session => some session.restore
  | taken _ backend, session => (session.authenticate backend).toOption

variable {news : SessionNews} {session session' : Session}

/-- What a piece of news changes plays. -/
theorem playing_of_advance? (h : news.advance? session = some session') (hne : session' ≠ session) :
    session'.state = .playing := by
  cases news with
  | failed player =>
      cases h
      rw [Session.state_restore]
      split
      · rfl
      · rename_i hother
        exact absurd (if_neg hother) hne
  | taken player backend =>
      rw [advance?] at h
      cases hok : session.authenticate backend with
      | error e =>
          rw [hok] at h
          cases h
      | ok found =>
          rw [hok] at h
          cases h
          exact (Session.authenticate_eq_ok hok).1

end SessionNews

/-! ## News about one session -/

namespace SessionRegistry

/-- The session in the news, with the session as it is afterwards. -/
def addressed? (r : SessionRegistry) (news : SessionNews) : Option (SessionId × Session) := do
  let id ← r.findByPlayer news.player
  let session ← r.session? id
  let session' ← news.advance? session
  some (id, session')

/-- The registry after a piece of news. -/
def heeding (r : SessionRegistry) : Option SessionNews → SessionRegistry
  | none => r
  | some news =>
      match r.addressed? news with
      | none => r
      | some (id, session) => r.update id fun _ => session

variable {r : SessionRegistry} {news : SessionNews} {id : SessionId} {session session' : Session}

theorem addressed?_eq_some_iff : r.addressed? news = some (id, session') ↔
    r.findByPlayer news.player = some id ∧
      ∃ session, r.session? id = some session ∧ news.advance? session = some session' := by
  simp only [addressed?, Option.bind_eq_bind, Option.bind_eq_some_iff, Option.some.injEq,
    Prod.mk.injEq]
  constructor
  · rintro ⟨found, hfound, session, hsession, advanced, hadvanced, rfl, rfl⟩
    exact ⟨hfound, session, hsession, hadvanced⟩
  · rintro ⟨hfound, session, hsession, hadvanced⟩
    exact ⟨id, hfound, session, hsession, session', hadvanced, rfl, rfl⟩

theorem heeding_of_none (h : r.addressed? news = none) : r.heeding (some news) = r := by
  rw [heeding, h]

theorem heeding_of_some (h : r.addressed? news = some (id, session)) :
    r.heeding (some news) = r.update id fun _ => session := by
  rw [heeding, h]

@[simp] theorem isRegistered_heeding (r : SessionRegistry) (news? : Option SessionNews)
    (id : SessionId) : (r.heeding news?).isRegistered id = r.isRegistered id := by
  unfold heeding
  split
  · rfl
  · split
    · rfl
    · exact isRegistered_update r _ id _

/-- A session that has not shaken hands with any backend is left alone. -/
theorem heeding_of_new {player : Uuid} {backend : String} (hfound : r.findByPlayer player = some id)
    (hsession : r.session? id = some session) (hnew : session.state = .new) :
    r.heeding (some (.taken player backend)) = r := by
  refine heeding_of_none ?_
  rw [Option.eq_none_iff_forall_ne_some]
  rintro ⟨found, session'⟩ haddressed
  obtain ⟨hsame, other, hother, hadvanced⟩ := addressed?_eq_some_iff.mp haddressed
  rw [SessionNews.player, hfound] at hsame
  cases hsame
  rw [hsession] at hother
  cases hother
  rw [SessionNews.advance?, Session.authenticate_of_new hnew] at hadvanced
  cases hadvanced

/-- Any other session plays. -/
theorem state_heeding_taken {player : Uuid} {backend : String}
    (hfound : r.findByPlayer player = some id) (hsession : r.session? id = some session)
    (hold : session.state ≠ .new) :
    ((r.heeding (some (.taken player backend))).session? id).map Session.state =
      some .playing := by
  obtain ⟨-, -, other, hother, halive⟩ := findByPlayer_eq_some_iff.mp hfound
  rw [hsession] at hother
  cases hother
  obtain ⟨session', hok⟩ := Session.exists_authenticate backend hold halive
  have haddressed : r.addressed? (.taken player backend) = some (id, session') :=
    addressed?_eq_some_iff.mpr ⟨hfound, session, hsession, congrArg Except.toOption hok⟩
  rw [heeding_of_some haddressed, session?_update, if_pos rfl, hsession, Option.map_some,
    Option.map_some, (Session.authenticate_eq_ok hok).1]

/-- A session that is not as it was is the one in the news. -/
theorem of_session?_heeding {news? : Option SessionNews}
    (hne : (r.heeding news?).session? id ≠ r.session? id) :
    ∃ news session session', news? = some news ∧ r.findByPlayer news.player = some id ∧
      r.session? id = some session ∧ news.advance? session = some session' ∧
      (r.heeding news?).session? id = some session' := by
  unfold heeding at hne ⊢
  split at hne
  · exact absurd rfl hne
  rename_i news
  split at hne
  · exact absurd rfl hne
  rename_i key advanced haddressed
  rw [session?_update] at hne
  split at hne
  · rename_i hkey
    subst hkey
    obtain ⟨hfound, session, hsession, hadvanced⟩ := addressed?_eq_some_iff.mp haddressed
    refine ⟨news, session, advanced, rfl, hfound, hsession, hadvanced, ?_⟩
    rw [session?_update, if_pos rfl, hsession]
    rfl
  · exact absurd rfl hne

end SessionRegistry

/-! ## The news in a packet -/

namespace ProxyPlane

/-- What an admitted envelope has to say about sessions. -/
def news? (plane : ProxyPlane) (envelope : Envelope) : Option SessionNews :=
  match envelope.kind with
  | .transferResult => do
      let result ← TransferResult.decode? envelope.payload
      let transfer ← plane.pending.get? result.correlation
      if result.status = .failed then some (.failed transfer.player) else none
  | .tokenValidation => do
      let notice ← ValidationNotice.decode? envelope.payload
      if notice.outcome = .accepted then some (.taken notice.player notice.backend) else none
  | .transferRequest | .backendStatus => none

variable {σ : Type} {env : Surroundings σ} {slot : Slot σ ProxyPlane}

theorem sessions_restore (plane : ProxyPlane) (player : Uuid) :
    (plane.restore player).sessions = plane.sessions.heeding (some (.failed player)) := by
  unfold restore
  cases hfound : plane.sessions.findByPlayer player with
  | none =>
      rw [SessionRegistry.heeding_of_none]
      simp [SessionRegistry.addressed?, SessionNews.player, hfound]
  | some id =>
      obtain ⟨-, -, session, hsession, -⟩ := SessionRegistry.findByPlayer_eq_some_iff.mp hfound
      have haddressed : plane.sessions.addressed? (.failed player) = some (id, session.restore) :=
        SessionRegistry.addressed?_eq_some_iff.mpr ⟨hfound, session, hsession, rfl⟩
      rw [SessionRegistry.heeding_of_some haddressed]
      refine SessionRegistry.update_congr fun other hother => ?_
      rw [hsession] at hother
      cases hother
      rfl

theorem heeding_settle (plane : ProxyPlane) (result : TransferResult) :
    (plane.settle result).sessions = plane.sessions.heeding (do
      let transfer ← plane.pending.get? result.correlation
      if result.status = .failed then some (.failed transfer.player) else none) := by
  unfold settle
  cases plane.pending.get? result.correlation with
  | none => rfl
  | some transfer =>
      dsimp only [Option.bind_eq_bind, Option.bind_some]
      split
      · exact sessions_restore _ transfer.player
      · rfl

theorem authenticated?_eq (plane : ProxyPlane) (player : Uuid) (backend : String) :
    plane.authenticated? player backend = plane.sessions.addressed? (.taken player backend) := by
  refine Option.bind_congr fun id _ => Option.bind_congr fun session _ => ?_
  rw [SessionNews.advance?]
  cases session.authenticate backend with
  | error e => rfl
  | ok session' => rfl

theorem sessions_onResult (hkeeps : env.Keeps fun s => (slot.get s).sessions)
    (result : TransferResult) (s : σ) :
    (slot.get (onResult env slot result s)).sessions = ((slot.get s).settle result).sessions := by
  unfold onResult
  exact (hkeeps _ _ _).trans (congrArg sessions (slot.get_modify _ s))

theorem sessions_onValidation (hkeeps : env.Keeps fun s => (slot.get s).sessions)
    (notice : ValidationNotice) (s : σ) :
    (slot.get (onValidation env slot notice s)).sessions = (slot.get s).sessions.heeding
      (if notice.outcome = .accepted then some (.taken notice.player notice.backend)
        else none) := by
  have hposted := hkeeps .tokenValidated
    ⟨notice.player, notice.backend, notice.outcome, notice.reason⟩ s
  unfold onValidation
  dsimp only at hposted ⊢
  by_cases haccepted : notice.outcome = .accepted
  · rw [if_neg (not_not_intro haccepted), if_pos haccepted, authenticated?_eq, hposted]
    split
    · rename_i haddressed
      rw [SessionRegistry.heeding_of_none haddressed]
      exact hposted
    · rename_i id session haddressed
      rw [SessionRegistry.heeding_of_some haddressed, ← hposted]
      refine (hkeeps _ _ _).trans ?_
      dsimp only
      rw [slot.get_modify]
  · rw [if_pos haccepted, if_neg haccepted]
    exact hposted

theorem sessions_onStatus (hkeeps : env.Keeps fun s => (slot.get s).sessions)
    (notice : StatusNotice) (s : σ) :
    (slot.get (onStatus env slot notice s)).sessions = (slot.get s).sessions := by
  have hheard : (slot.get (slot.modify (fun plane => plane.hear (env.now s) notice) s)).sessions =
      (slot.get s).sessions := by
    rw [slot.get_modify]
    rfl
  unfold onStatus
  dsimp only
  split
  · exact hheard
  · exact (hkeeps _ _ _).trans hheard

theorem get_setEndpoint (endpoint : ControlEndpoint) (s : σ) :
    slot.get ((slot.comp endpointSlot).set endpoint s) =
      { slot.get s with endpoint := endpoint } :=
  slot.get_set _ s

theorem sessions_setEndpoint (endpoint : ControlEndpoint) (s : σ) :
    (slot.get ((slot.comp endpointSlot).set endpoint s)).sessions = (slot.get s).sessions := by
  rw [get_setEndpoint]

theorem sessions_process (hkeeps : env.Keeps fun s => (slot.get s).sessions) (envelope : Envelope)
    (s : σ) : (slot.get (process env slot envelope s)).sessions =
      (slot.get s).sessions.heeding ((slot.get s).news? envelope) := by
  unfold process news?
  cases envelope.kind with
  | transferRequest => exact sessions_setEndpoint _ s
  | transferResult =>
      dsimp only
      cases TransferResult.decode? envelope.payload with
      | none => exact sessions_setEndpoint _ s
      | some result => exact (sessions_onResult hkeeps result s).trans (heeding_settle _ result)
  | tokenValidation =>
      dsimp only
      cases ValidationNotice.decode? envelope.payload with
      | none => exact sessions_setEndpoint _ s
      | some notice => exact sessions_onValidation hkeeps notice s
  | backendStatus =>
      dsimp only
      cases StatusNotice.decode? envelope.payload with
      | none => exact sessions_setEndpoint _ s
      | some notice => exact sessions_onStatus hkeeps notice s

end ProxyPlane

/-- What a packet has to say about sessions. -/
def Arrival.news? (a : Arrival) : Option SessionNews := a.admitted.bind a.plane.news?

/-- The sessions after a packet are those before it, with the news in it heeded. -/
theorem ProxyPlane.sessions_handlePacket {σ : Type} {env : Surroundings σ}
    {slot : Slot σ ProxyPlane} (hkeeps : env.Keeps fun s => (slot.get s).sessions) (packet : Bytes)
    (s : σ) : (slot.get (handlePacket env slot packet s)).sessions =
      (slot.get s).sessions.heeding (Arrival.mk (slot.get s) (env.now s) packet).news? := by
  unfold handlePacket ControlEndpoint.handle Arrival.news? Arrival.admitted
  dsimp only
  split
  · rename_i hturned
    rw [sessions_setEndpoint]
    have hnone : ((slot.get s).endpoint.accept (env.now s) packet).1 = none := hturned
    rw [hnone]
    rfl
  · rename_i envelope hadmitted
    have hsome : ((slot.get s).endpoint.accept (env.now s) packet).1 = some envelope := hadmitted
    rw [hsome, Slot.modify, sessions_setEndpoint, sessions_process hkeeps, get_setEndpoint]
    rfl

/-! ## One session at most -/

namespace Arrival

/-- The packet says nothing about sessions. -/
inductive Idle (a : Arrival) : Prop
  /-- The packet is not admitted. -/
  | turnedAway (admitted : a.admitted = none)
  /-- The proxy does not carry out transfers. -/
  | request {envelope : Envelope} (admitted : a.admitted = some envelope)
      (kind : envelope.kind = .transferRequest)
  | status {envelope : Envelope} (admitted : a.admitted = some envelope)
      (kind : envelope.kind = .backendStatus)
  | unreadResult {envelope : Envelope} (admitted : a.admitted = some envelope)
      (kind : envelope.kind = .transferResult)
      (unread : TransferResult.decode? envelope.payload = none)
  | unreadNotice {envelope : Envelope} (admitted : a.admitted = some envelope)
      (kind : envelope.kind = .tokenValidation)
      (unread : ValidationNotice.decode? envelope.payload = none)
  /-- No request is pending under the value. -/
  | unknown {envelope : Envelope} {result : TransferResult} (admitted : a.admitted = some envelope)
      (kind : envelope.kind = .transferResult)
      (read : TransferResult.decode? envelope.payload = some result)
      (unknown : a.plane.pending.get? result.correlation = none)
  /-- The backend has not taken the player. -/
  | rejected {envelope : Envelope} {notice : ValidationNotice}
      (admitted : a.admitted = some envelope) (kind : envelope.kind = .tokenValidation)
      (read : ValidationNotice.decode? envelope.payload = some notice)
      (outcome : notice.outcome = .rejected)

variable {a : Arrival}

theorem Idle.news?_eq_none (h : a.Idle) : a.news? = none := by
  cases h with
  | turnedAway admitted => rw [news?, admitted, Option.bind_none]
  | request admitted kind | status admitted kind =>
      rw [news?, admitted, Option.bind_some, ProxyPlane.news?, kind]
  | unreadResult admitted kind unread | unreadNotice admitted kind unread =>
      simp [news?, admitted, ProxyPlane.news?, kind, unread]
  | unknown admitted kind read unknown =>
      simp [news?, admitted, ProxyPlane.news?, kind, read, unknown]
  | rejected admitted kind read outcome =>
      simp [news?, admitted, ProxyPlane.news?, kind, read, outcome]

/-- News comes from a backend that has taken a player, or from a failed transfer that is
pending. -/
theorem of_news? {news : SessionNews} (h : a.news? = some news) :
    a.Accepts news.player ∨ ∃ correlation transfer, a.Fails correlation ∧
      a.plane.pending.get? correlation = some transfer ∧ transfer.player = news.player := by
  obtain ⟨envelope, hadmitted, hnews⟩ := Option.bind_eq_some_iff.mp h
  cases hkind : envelope.kind with
  | transferRequest | backendStatus =>
      rw [ProxyPlane.news?, hkind] at hnews
      cases hnews
  | transferResult =>
      rw [ProxyPlane.news?, hkind] at hnews
      obtain ⟨result, hresult, hnews⟩ := Option.bind_eq_some_iff.mp hnews
      obtain ⟨transfer, htransfer, hnews⟩ := Option.bind_eq_some_iff.mp hnews
      split at hnews
      · rename_i hfailed
        cases hnews
        exact .inr ⟨result.correlation, transfer,
          ⟨envelope, result, hadmitted, hkind, hresult, rfl, hfailed⟩, htransfer, rfl⟩
      · cases hnews
  | tokenValidation =>
      rw [ProxyPlane.news?, hkind] at hnews
      obtain ⟨notice, hnotice, hnews⟩ := Option.bind_eq_some_iff.mp hnews
      split at hnews
      · rename_i haccepted
        cases hnews
        exact .inl ⟨envelope, notice, hadmitted, hkind, hnotice, rfl, haccepted⟩
      · cases hnews

theorem Accepts.news? {player : Uuid} (h : a.Accepts player) :
    ∃ backend, a.news? = some (.taken player backend) := by
  obtain ⟨envelope, notice, hadmitted, hkind, hnotice, rfl, haccepted⟩ := h
  refine ⟨notice.backend, ?_⟩
  simp [Arrival.news?, hadmitted, ProxyPlane.news?, hkind, hnotice, haccepted]

end Arrival

/-- What a packet does to the sessions of a proxy. -/
structure TouchesOne (a : Arrival) (before after : SessionRegistry) : Prop where
  /-- No session comes and none goes. -/
  registered : ∀ id, after.isRegistered id = before.isRegistered id
  known : ∀ id, (after.session? id).isSome = (before.session? id).isSome
  /-- A session that changes plays afterwards. -/
  plays : ∀ id session, after.session? id = some session → before.session? id ≠ some session →
    session.state = .playing
  /-- A session that changes is the one that is found for the player of the packet. -/
  named : ∀ id, after.session? id ≠ before.session? id →
    (∃ player, a.Accepts player ∧ before.findByPlayer player = some id) ∨
    ∃ correlation transfer, a.Fails correlation ∧
      a.plane.pending.get? correlation = some transfer ∧
      before.findByPlayer transfer.player = some id
  idle : a.Idle → after = before
  /-- A session that a backend takes plays on unless it is new; a new one stays as it is. -/
  advances : ∀ player id session, a.Accepts player → before.findByPlayer player = some id →
    before.session? id = some session →
    if session.state = .new then after = before
    else (after.session? id).map Session.state = some .playing

/-- **Packets touch only the session that they name.**  Whatever state a proxy is in, and
whatever packet comes in from anybody: as long as observers do not act on sessions themselves,
no session comes or goes, and at most one changes, which is the one that is found for the player
in a verdict on a token or for the player of a failed transfer that was pending.  What changes
plays afterwards.  Packets that say nothing about sessions change none of them, and a session
that is too young to be taken is left alone. -/
theorem packet_touches_one_session {σ : Type} {env : Surroundings σ} {slot : Slot σ ProxyPlane}
    (hkeeps : env.Keeps fun s => (slot.get s).sessions) (packet : Bytes) (s : σ) :
    TouchesOne ⟨slot.get s, env.now s, packet⟩ (slot.get s).sessions
      (slot.get (ProxyPlane.handlePacket env slot packet s)).sessions := by
  rw [ProxyPlane.sessions_handlePacket hkeeps]
  generalize Arrival.mk (slot.get s) (env.now s) packet = a
  refine ⟨fun id => SessionRegistry.isRegistered_heeding _ _ id, fun id => ?_,
    fun id session hafter hne => ?_, fun id hne => ?_, fun hidle => ?_,
    fun player id session haccepts hfound hsession => ?_⟩
  · by_contra hne
    obtain ⟨_, session, session', -, -, hsession, -, hafter⟩ :=
      SessionRegistry.of_session?_heeding fun heq => hne (congrArg Option.isSome heq)
    rw [hsession, hafter] at hne
    exact hne rfl
  · obtain ⟨news, session', session'', -, -, hsession, hadvanced, hafter'⟩ :=
      SessionRegistry.of_session?_heeding (hafter.trans_ne hne.symm)
    rw [hafter] at hafter'
    cases hafter'
    refine SessionNews.playing_of_advance? hadvanced fun heq => hne ?_
    rw [hsession, heq]
  · obtain ⟨news, -, -, hnews, hfound, -⟩ := SessionRegistry.of_session?_heeding hne
    rcases Arrival.of_news? hnews with haccepts | ⟨correlation, transfer, hfails, hpending, heq⟩
    · exact .inl ⟨news.player, haccepts, hfound⟩
    · exact .inr ⟨correlation, transfer, hfails, hpending, heq ▸ hfound⟩
  · rw [hidle.news?_eq_none]
    rfl
  · obtain ⟨backend, hnews⟩ := haccepts.news?
    rw [hnews]
    split
    · rename_i hnew
      exact SessionRegistry.heeding_of_new hfound hsession hnew
    · rename_i hold
      exact SessionRegistry.state_heeding_taken hfound hsession hold

/-- The lobby has taken a player. -/
def takenReport : Envelope where
  kind := .tokenValidation
  sender := "lobby"
  issuedAt := 0
  ttl := 10000
  nonce := Alone.fresh
  payload := ValidationNotice.write ⟨.ofNat 1, "lobby", .accepted, none⟩

/-- A proxy with two players: the first one shakes hands, the second one is under way. -/
def twoPlayers : Alone ProxyPlane where
  clock := 0
  part :=
    { endpoint := .new {} .any 0
      sessions := (({} : SessionRegistry).openFor { state := .handshaking } (.ofNat 1)).openFor
        { state := .transferring } (.ofNat 2) }

/-- The proxy after the report. -/
def afterReport : Alone ProxyPlane :=
  ProxyPlane.handlePacket Alone.env Alone.slot takenReport.write twoPlayers

/-- The first player plays when the lobby has taken them, and the second one is still under
way. -/
theorem packet_touches_one_of_two :
    (Alone.env.Keeps fun s => (Alone.slot.get s : ProxyPlane).sessions) ∧
      (afterReport.part.sessions.session? ⟨0⟩).map Session.state = some .playing ∧
      afterReport.part.sessions.session? ⟨1⟩ = twoPlayers.part.sessions.session? ⟨1⟩ := by
  have hkeeps : Alone.env.Keeps fun s => (Alone.slot.get s : ProxyPlane).sessions :=
    fun _ _ _ => rfl
  have htouches := packet_touches_one_session hkeeps takenReport.write twoPlayers
  have haccepts : (Arrival.mk (Alone.slot.get twoPlayers) (Alone.env.now twoPlayers)
      takenReport.write).Accepts (.ofNat 1) :=
    ⟨takenReport, ⟨.ofNat 1, "lobby", .accepted, none⟩, by decide +kernel, rfl, by decide +kernel,
      rfl, rfl⟩
  have hfound : twoPlayers.part.sessions.findByPlayer (.ofNat 1) = some ⟨0⟩ := by decide +kernel
  refine ⟨hkeeps, htouches.advances _ _ _ haccepts hfound rfl, ?_⟩
  by_contra hne
  rcases htouches.named ⟨1⟩ hne with ⟨player, hother, hsecond⟩ | ⟨_, _, _, hpending, _⟩
  · obtain ⟨backend, hnews⟩ := haccepts.news?
    obtain ⟨backend', hnews'⟩ := hother.news?
    rw [hnews] at hnews'
    cases hnews'
    have hsame := hfound.symm.trans hsecond
    cases hsame
  · cases hpending

end GameGateway
