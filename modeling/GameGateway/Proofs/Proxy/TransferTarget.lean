import GameGateway.Proofs.Proxy.Accepting
import GameGateway.Proofs.Route.Outcome
import GameGateway.Proofs.Saturation
import GameGateway.Proofs.Token.Shown
import GameGateway.Proofs.Wire.ConnectFrame

/-!
# Players who come back with a transfer token

A player who is sent to another backend comes back to the proxy and shows a transfer token.
What the proxy makes of it takes three readings, one after the other: of the bytes as a text
with the token's in it (`ConnectFrame.Shows.shownText?_eq`), of the token's claims
(`Proxy.requestedBackend_of_shown`), and of the backend's id in the registry, where every
configured backend is found (`Proxy.RunsUnder.get?_of_mem`).  Only then the connection goes on,
and the router grants the wish unless somebody or something speaks against it
(`Proxy.selection_of_requested`).

Anything that does not begin like a transfer token counts for nothing: the connection goes on
as if the client had shown nothing at all.
-/

namespace GameGateway

/-! ## Configurations without problems -/

namespace ProxyConfig

open Config (sentenceIf_eq_nil_iff)

theorem nodup_of_backendProblems {seen : List String} {backends : List Backend}
    (h : backendProblems seen backends = []) :
    (backends.map Backend.id).Nodup ∧ ∀ backend ∈ backends, backend.id ∉ seen := by
  induction backends generalizing seen with
  | nil => exact ⟨List.nodup_nil, nofun⟩
  | cons backend rest ih =>
      simp only [backendProblems, List.append_eq_nil_iff, sentenceIf_eq_nil_iff] at h
      obtain ⟨⟨-, hfresh⟩, hrest⟩ := h
      obtain ⟨hnodup, hunseen⟩ := ih hrest
      have hfirst : backend.id ∉ rest.map Backend.id := by
        rintro hmem
        obtain ⟨other, hother, hid⟩ := List.mem_map.mp hmem
        exact hunseen other hother (hid ▸ List.mem_cons_self ..)
      refine ⟨List.nodup_cons.mpr ⟨hfirst, hnodup⟩, List.forall_mem_cons.mpr ⟨?_, ?_⟩⟩
      · simpa using hfresh
      · exact fun other hother hseen => hunseen other hother (List.mem_cons_of_mem _ hseen)

variable {config : ProxyConfig}

theorem nodup_of_problems (h : config.problems = []) : (config.backends.map Backend.id).Nodup := by
  simp only [problems, List.append_eq_nil_iff] at h
  obtain ⟨⟨⟨⟨-, hbackends⟩, -⟩, -⟩, -⟩ := h
  exact (nodup_of_backendProblems hbackends).1

theorem transferTokenTtl_pos (h : config.problems = []) : 0 < config.security.transferTokenTtl := by
  simp only [problems, List.append_eq_nil_iff, sentenceIf_eq_nil_iff] at h
  obtain ⟨⟨⟨⟨⟨⟨-, httl⟩, -⟩, -⟩, -⟩, -⟩, -⟩ := h
  simpa using httl

end ProxyConfig

/-- A proxy that was built under a configuration, however long it has been running: the
configuration has no problems, and the backends are those of the configuration. -/
structure Proxy.RunsUnder (proxy : Proxy) (config : ProxyConfig) : Prop where
  problems : config.problems = []
  config_eq : proxy.config = config
  backends_eq : proxy.routing.router.backends = .ofList config.backends

namespace Proxy.RunsUnder

variable {proxy : Proxy} {config : ProxyConfig}

theorem of_build {now : Millis} (h : build config now = .ok proxy) : proxy.RunsUnder config := by
  unfold build at h
  split at h
  · rename_i hproblems
    cases h
    exact ⟨List.isEmpty_iff.mp hproblems, rfl, rfl⟩
  · cases h

theorem get?_of_mem (h : proxy.RunsUnder config) {backend : Backend}
    (hmem : backend ∈ config.backends) :
    proxy.routing.router.backends.get? backend.id = some backend := by
  rw [h.backends_eq]
  exact BackendRegistry.get?_ofList_of_mem (ProxyConfig.nodup_of_problems h.problems) hmem

end Proxy.RunsUnder

/-! ## What a client shows -/

namespace ConnectFrame

/-- The frame shows a text, with nothing around it but bytes up to the space. -/
def Shows (frame : ConnectFrame) (text : String) : Prop :=
  ∃ before after : Bytes, (∀ byte ∈ before, byte ≤ 0x20) ∧ (∀ byte ∈ after, byte ≤ 0x20) ∧
    frame.referralData = some (before ++ Utf8.encode text ++ after)

/-- Nothing that is shown begins like a transfer token: it is no text, it is blank, or it begins
in another way behind the characters up to the space. -/
def ShowsNoTransfer (frame : ConnectFrame) : Prop :=
  ∀ data, frame.referralData = some data → Utf8.decode data = none ∨
    ∃ text, Utf8.decode data = some text ∧ ((∀ c ∈ text.toList, c ≤ ' ') ∨
      ¬ "t1.".toList <+: Text.trimWhere (· ≤ ' ') text.toList)

end ConnectFrame

theorem Utf8.le_space_of_mem_ofAscii {bytes : Bytes} (h : ∀ byte ∈ bytes, byte ≤ 0x20) {c : Char}
    (hc : c ∈ (ofAscii bytes).toList) : c ≤ ' ' := by
  rw [ofAscii, String.toList_ofList] at hc
  obtain ⟨byte, hbyte, rfl⟩ := List.mem_map.mp hc
  have hle : byte.toNat ≤ 32 := UInt8.le_iff_toNat_le.mp (h byte hbyte)
  have hchar : (Char.ofNat byte.toNat).toNat = byte.toNat := toNat_ofNat_of_lt (by omega)
  have hnat : (Char.ofNat byte.toNat).toNat ≤ ' '.toNat := Nat.le_trans (Nat.le_of_eq hchar) hle
  exact Char.le_def.mpr (UInt32.le_iff_toNat_le.mpr hnat)

namespace Proxy

variable {frame : ConnectFrame} {text : String}

theorem shownText?_eq_some_iff : shownText? frame = some text ↔
    text.toList ≠ [] ∧ ∃ data shown, frame.referralData = some data ∧
      Utf8.decode data = some shown ∧ Text.trimWhere (· ≤ ' ') shown.toList = text.toList := by
  unfold shownText?
  simp only [Option.bind_eq_bind, Option.bind_eq_some_iff]
  constructor
  · rintro ⟨data, hdata, shown, hdecode, h⟩
    split at h
    · cases h
    · rename_i cs hne
      cases h
      rw [String.toList_ofList]
      exact ⟨hne, data, shown, hdata, hdecode, rfl⟩
  · rintro ⟨hne, data, shown, hdata, hdecode, htrim⟩
    refine ⟨data, hdata, shown, hdecode, ?_⟩
    rw [htrim]
    split
    · rename_i hnil
      exact absurd hnil hne
    · rw [String.ofList_toList]

/-- What surrounds the text of a token is all that is trimmed. -/
theorem shownText?_of_shows {kind : TokenKind} {signed : SignedPayload}
    (h : frame.Shows (signed.text kind)) : shownText? frame = some (signed.text kind) := by
  obtain ⟨before, after, hbefore, hafter, hdata⟩ := h
  have hascii : ∀ {bytes : Bytes}, (∀ byte ∈ bytes, byte ≤ 0x20) → ∀ byte ∈ bytes, byte < 128 :=
    fun hblank byte hbyte => UInt8.lt_of_le_of_lt (hblank byte hbyte) (by decide)
  have hdecode : Utf8.decode (before ++ Utf8.encode (signed.text kind) ++ after) =
      some (Utf8.ofAscii before ++ signed.text kind ++ Utf8.ofAscii after) := by
    rw [Utf8.decode_eq_some_iff, Utf8.encode_append, Utf8.encode_append,
      Utf8.encode_ofAscii (hascii hbefore), Utf8.encode_ofAscii (hascii hafter)]
  refine shownText?_eq_some_iff.mpr ⟨?_, _, _, hdata, hdecode, ?_⟩
  · exact (SignedPayload.isPrefix_text kind signed).ne_nil (by simp)
  · rw [String.toList_append, String.toList_append]
    refine Text.trimWhere_append ?_ ?_ ?_
    · exact fun c hc => decide_eq_true (Utf8.le_space_of_mem_ofAscii hbefore hc)
    · exact fun c hc => decide_eq_false (Char.not_le.mpr (SignedPayload.lt_of_mem_text hc))
    · exact fun c hc => decide_eq_true (Utf8.le_space_of_mem_ofAscii hafter hc)

theorem looksLikeTransfer_iff :
    looksLikeTransfer text = true ↔ (TokenKind.transfer.tag ++ ".").toList <+: text.toList :=
  List.isPrefixOf_iff_prefix

theorem looksLikeTransfer_of_shownText? (h : frame.ShowsNoTransfer)
    (hshown : shownText? frame = some text) : looksLikeTransfer text = false := by
  obtain ⟨hne, data, shown, hdata, hdecode, htrim⟩ := shownText?_eq_some_iff.mp hshown
  rw [Bool.eq_false_iff, ne_eq, looksLikeTransfer_iff]
  intro hprefix
  obtain hnone | ⟨other, hother, hblank | hbegins⟩ := h data hdata
  · rw [hnone] at hdecode
    cases hdecode
  · rw [hother] at hdecode
    cases hdecode
    have hnil : Text.trimWhere (· ≤ ' ') shown.toList = [] :=
      Text.trimWhere_eq_nil_iff.mpr fun c hc => decide_eq_true (hblank c hc)
    exact hne (htrim.symm.trans hnil)
  · rw [hother] at hdecode
    cases hdecode
    rw [htrim] at hbegins
    exact hbegins hprefix

/-! ## What the client asks for -/

variable {proxy : Proxy} {now : Millis} {player : Uuid}

/-- The claims of a token decide, once its text is found and its secret is accepted. -/
theorem requestedBackend_of_shows (now : Millis) (player : Uuid) {token : TransferToken}
    {secret : Bytes} (hsecret : secret ∈ proxy.secrets.accepted)
    (h : frame.Shows (token.encode secret)) :
    proxy.requestedBackend now frame player =
      match TransferToken.checkClaims player now token.claims with
      | .ok () => .ok ((proxy.routing.router.backends.get? token.claims.target).map Backend.id)
      | .error rejection => .error (.rejected rejection) := by
  have hlooks : looksLikeTransfer (token.encode secret) = true :=
    looksLikeTransfer_iff.mpr (SignedPayload.isPrefix_text .transfer _)
  have hshown : shownText? frame = some (token.encode secret) := shownText?_of_shows h
  unfold requestedBackend
  rw [hshown]
  dsimp only
  rw [TransferToken.validate_encode token hsecret]
  cases TransferToken.checkClaims player now token.claims with
  | ok u => rfl
  | error rejection =>
      dsimp only [Except.map]
      rw [if_pos hlooks]

theorem requestedBackend_of_showsNoTransfer (h : frame.ShowsNoTransfer) :
    proxy.requestedBackend now frame player = .ok none := by
  unfold requestedBackend
  split
  · rfl
  · rename_i text hshown
    have hlooks := looksLikeTransfer_of_shownText? h hshown
    split
    · rename_i token hvalidate
      have hprefix := looksLikeTransfer_iff.mpr (TransferToken.isPrefix_of_validate hvalidate)
      rw [hlooks] at hprefix
      cases hprefix
    · rw [hlooks, if_neg Bool.false_ne_true]

/-! ## Accepting -/

variable {σ : Type} {env : Surroundings σ} {slot : Slot σ Proxy} {s counted : σ}
  {address : Option ClientAddress} {bytes : Bytes} {client : ConnectionId}
  {certificate : Option Bytes}

theorem exists_of_counted {result : Except GatewayError Unit}
    (hcounted : countAttempt env slot address s = (result, counted)) :
    ∃ connects, counted = slot.set { slot.get s with connects := connects } s := by
  unfold countAttempt at hcounted
  cases address with
  | none =>
      cases hcounted
      exact ⟨(slot.get s).connects, (slot.set_get s).symm⟩
  | some address =>
      cases hcounted
      exact ⟨_, rfl⟩

/-- Once the attempt is counted and the frame is read, a client whose wish can be read is
welcomed with it. -/
theorem acceptConnection_of_ok {requested : Option String}
    (hcounted : countAttempt env slot address s = (.ok (), counted))
    (hread : (slot.get counted).readFrame bytes = .ok (frame, player))
    (hrequested : (slot.get counted).requestedBackend (env.now counted) frame player =
      .ok requested) :
    acceptConnection env slot bytes client address certificate s =
      welcome env slot frame player client address certificate requested counted := by
  unfold acceptConnection
  simp only [hcounted, hread, hrequested]

/-- A client whose wish is refused leaves no trace but the counted attempt. -/
theorem acceptConnection_of_error {e : GatewayError}
    (hcounted : countAttempt env slot address s = (.ok (), counted))
    (hread : (slot.get counted).readFrame bytes = .ok (frame, player))
    (hrequested : (slot.get counted).requestedBackend (env.now counted) frame player =
      .error e) :
    acceptConnection env slot bytes client address certificate s = (.error e, counted) := by
  unfold acceptConnection
  simp only [hcounted, hread, hrequested]

theorem readFrame_of_decode? {config : ProxyConfig} (hconfig : proxy.config = config)
    (hdecode : ConnectFrame.decode? config.limits bytes = some frame)
    (hplayer : frame.playerId = some player) : proxy.readFrame bytes = .ok (frame, player) := by
  unfold readFrame
  rw [hconfig, hdecode]
  dsimp only
  rw [hplayer]

/-! ## Granting the wish -/

/-- Nothing speaks against a wish for a backend: it is registered, no strategy is installed, and
it is not known to be offline. -/
structure Unopposed (env : Surroundings σ) (slot : Slot σ Proxy) (backend : Backend) (s : σ) :
    Prop where
  registered : (slot.get s).routing.router.backends.get? backend.id = some backend
  plain : (slot.get s).routing.router.installed = none
  available : (slot.get s).plane.availability.status (env.now s) backend.id ≠ .offline

theorem Unopposed.set {backend : Backend} (h : Unopposed env slot backend s)
    (hclock : ∀ proxy s, env.now (slot.set proxy s) = env.now s) {other : Proxy}
    (hrouter : other.routing.router = (slot.get s).routing.router)
    (havailability : other.plane.availability = (slot.get s).plane.availability) :
    Unopposed env slot backend (slot.set other s) where
  registered := by
    rw [slot.get_set, hrouter]
    exact h.registered
  plain := by
    rw [slot.get_set, hrouter]
    exact h.plain
  available := by
    rw [slot.get_set, havailability, hclock]
    exact h.available

/-- Without an installed strategy a backend that is named, known and not to be avoided is
chosen. -/
theorem choose_of_pick {router : Router} {backend : Backend} {unavailable : String → Bool}
    {context : RoutingContext} {initial : Bool}
    (hpick : router.strategy.pick context initial = backend.id)
    (hget : router.backends.get? backend.id = some backend) (hplain : router.installed = none)
    (havailable : unavailable backend.id = false) :
    router.choose unavailable context initial .undecided =
      .ok ⟨backend, if context.requested = some backend.id then .byRequest else .byDefault⟩ := by
  have hselect : router.select context initial = .ok ⟨backend, .byDefault⟩ := by
    unfold Router.select
    rw [hpick, hget, hplain]
    rfl
  have hprefer : router.prefer context initial .undecided = .ok ⟨backend,
      if context.requested = some backend.id then .byRequest else .byDefault⟩ := by
    rw [← RoutingDecision.ofFirst, Router.prefer_ofFirst_none, Router.unasked, hselect]
    change Except.ok (if _ then _ else _) = _
    split
    · rfl
    · rfl
  have havoid : ∀ reason, router.avoid unavailable context ⟨backend, reason⟩ =
      ⟨backend, reason⟩ := by
    intro reason
    unfold Router.avoid
    rw [havailable]
    rfl
  rw [Router.choose_eq_map, hprefer]
  exact congrArg Except.ok (havoid _)

theorem choose_of_requested {router : Router} {backend : Backend} {unavailable : String → Bool}
    {context : RoutingContext} (hget : router.backends.get? backend.id = some backend)
    (hplain : router.installed = none) (havailable : unavailable backend.id = false)
    (hrequested : context.requested = some backend.id) :
    router.choose unavailable context false .undecided = .ok ⟨backend, .byRequest⟩ := by
  have hpick : router.strategy.pick context false = backend.id := by
    unfold Router.strategy
    rw [hplain]
    change context.requested.getD router.fallback = backend.id
    rw [hrequested, Option.getD_some]
  rw [choose_of_pick hpick hget hplain havailable, if_pos hrequested]

/-- Without observers a choice gives what is asked for, if it gives anything. -/
theorem selection_of_requested {backend : Backend} {context : RoutingContext}
    {selection : Selection} (h : Unopposed env slot backend s)
    (hclock : ∀ proxy s, env.now (slot.set proxy s) = env.now s)
    (hnobody : ∀ kind event s, env.post kind event s = (event, s))
    (hrequested : context.requested = some backend.id)
    (hselected : (selectBackend env slot context false s).1 = .ok selection) :
    selection = ⟨backend, .byRequest⟩ := by
  unfold selectBackend at hselected
  rcases Nat.lt_or_ge (slot.get s).routing.limiter.count (slot.get s).routing.limiter.limit
    with hfree | hfull
  · have hleased : Unopposed env slot backend (Routing.leased (slot.comp routingSlot) s) :=
      h.set hclock rfl rfl
    have havailable : isUnavailable env slot (Routing.leased (slot.comp routingSlot) s)
        backend.id = false := decide_eq_false hleased.available
    have hchosen := (Routing.select_fst hfree (hnobody _ _ _)).symm.trans hselected
    cases (choose_of_requested hleased.registered hleased.plain havailable hrequested).symm.trans
      hchosen
    rfl
  · rw [Routing.select_of_full hfull] at hselected
    cases hselected

theorem route_of_requested {backend : Backend} {id : SessionId} {a : Accepted}
    (h : Unopposed env slot backend s)
    (hclock : ∀ proxy s, env.now (slot.set proxy s) = env.now s)
    (hnobody : ∀ kind event s, env.post kind event s = (event, s))
    (hroute : (route env slot id frame player address (some backend.id) s).1 = .ok a) :
    a.backend = backend ∧ a.reason = .byRequest := by
  unfold route at hroute
  dsimp only at hroute
  split at hroute
  · cases hroute
  · rename_i selection chosen hselected
    have hselection : selection = ⟨backend, .byRequest⟩ :=
      selection_of_requested h hclock hnobody rfl (congrArg Prod.fst hselected)
    split at hroute
    · cases hroute
    · cases hroute
      rw [hselection]
      exact ⟨rfl, rfl⟩

/-- A player who is welcomed with a wish is sent where the wish goes. -/
theorem welcome_of_requested {backend : Backend} {a : Accepted} (h : Unopposed env slot backend s)
    (hclock : ∀ proxy s, env.now (slot.set proxy s) = env.now s)
    (hnobody : ∀ kind event s, env.post kind event s = (event, s))
    (hwelcome : (welcome env slot frame player client address certificate (some backend.id)
      s).1 = .ok a) : a.backend = backend ∧ a.reason = .byRequest := by
  have hopened : Unopposed env slot backend
      (slot.set ((slot.get s).openSession frame player client certificate).2.2 s) :=
    h.set hclock rfl rfl
  have hrouted : ∀ s' id,
      s' = slot.set ((slot.get s).openSession frame player client certificate).2.2 s →
      (route env slot id frame player address (some backend.id) s').1 = .ok a →
      a.backend = backend ∧ a.reason = .byRequest := by
    rintro s' id rfl hroute
    exact route_of_requested hopened hclock hnobody hroute
  unfold welcome at hwelcome
  dsimp only at hwelcome
  split at hwelcome
  · rename_i accepted last hroute
    cases hwelcome
    refine hrouted _ _ ((congrArg Prod.snd (hnobody _ _ _)).trans ?_) (congrArg Prod.fst hroute)
    dsimp only
    split
    · rfl
    · exact congrArg Prod.snd (hnobody _ _ _)
  · cases hwelcome

/-! ## Coming back -/

section ComingBack

variable {config : ProxyConfig} {backend : Backend} {secret : Bytes} {claimed : Uuid}

/-- Counting changes nothing but the count, so all that is known of a proxy before an attempt is
counted is known of it afterwards. -/
theorem known_of_counted {result : Except GatewayError Unit}
    (hclock : ∀ proxy s, env.now (slot.set proxy s) = env.now s)
    (hcounted : countAttempt env slot address s = (result, counted)) :
    env.now counted = env.now s ∧ (slot.get counted).plane = (slot.get s).plane ∧
      (slot.get counted).secrets = (slot.get s).secrets ∧
      (∀ config, (slot.get s).RunsUnder config → (slot.get counted).RunsUnder config) ∧
      ∀ backend, Unopposed env slot backend s → Unopposed env slot backend counted := by
  obtain ⟨connects, rfl⟩ := exists_of_counted hcounted
  rw [slot.get_set]
  refine ⟨hclock _ s, rfl, rfl, ?_, ?_⟩
  · intro config hruns
    exact ⟨hruns.problems, hruns.config_eq, hruns.backends_eq⟩
  · intro backend hunopposed
    exact hunopposed.set hclock rfl rfl

/-- When a token for a configured backend is shown, its claims decide about the connection. -/
theorem acceptConnection_of_shows {order : TransferOrder} {text : String}
    (hruns : (slot.get counted).RunsUnder config) (hbackend : backend ∈ config.backends)
    (hsecret : secret ∈ (slot.get counted).secrets.accepted)
    (hissue : order.issue secret = .ok text) (htarget : order.target = backend.id)
    (hcounted : countAttempt env slot address s = (.ok (), counted))
    (hdecode : ConnectFrame.decode? config.limits bytes = some frame)
    (hclaimed : frame.playerId = some claimed) (hshows : frame.Shows text) :
    acceptConnection env slot bytes client address certificate s =
      match TransferToken.checkClaims claimed (env.now counted) order.claims with
      | .ok () =>
          welcome env slot frame claimed client address certificate (some backend.id) counted
      | .error rejection => (.error (.rejected rejection), counted) := by
  obtain ⟨token, hclaims, rfl⟩ := TransferOrder.issue_eq_ok_iff.mp hissue
  have hread := readFrame_of_decode? hruns.config_eq hdecode hclaimed
  have hget : (slot.get counted).routing.router.backends.get? order.claims.target =
      some backend := by
    rw [TransferOrder.claims, htarget]
    exact hruns.get?_of_mem hbackend
  have hrequested := requestedBackend_of_shows (env.now counted) claimed hsecret hshows
  rw [hclaims, hget] at hrequested
  cases hchecked : TransferToken.checkClaims claimed (env.now counted) order.claims with
  | ok u =>
      rw [hchecked] at hrequested
      exact acceptConnection_of_ok hcounted hread hrequested
  | error rejection =>
      rw [hchecked] at hrequested
      exact acceptConnection_of_error hcounted hread hrequested

theorem acceptConnection_of_showsNoTransfer (hruns : (slot.get counted).RunsUnder config)
    (hcounted : countAttempt env slot address s = (.ok (), counted))
    (hdecode : ConnectFrame.decode? config.limits bytes = some frame)
    (hclaimed : frame.playerId = some claimed) (hshows : frame.ShowsNoTransfer) :
    acceptConnection env slot bytes client address certificate s =
      welcome env slot frame claimed client address certificate none counted := by
  exact acceptConnection_of_ok hcounted (readFrame_of_decode? hruns.config_eq hdecode hclaimed)
    (requestedBackend_of_showsNoTransfer hshows)

/-- What a client shows has no other effect than to ask for a backend. -/
theorem welcome_bare (requested : Option String) :
    welcome env slot { frame with referralData := none } claimed client address certificate
        requested s =
      welcome env slot frame claimed client address certificate requested s :=
  rfl

/-- **Transfer tokens at the proxy.**  While a token that was issued for a player and a configured
backend is accepted, a connection that shows it, however many spaces and control characters
there are around it, is that of a player who asks for the backend, and without objection the
player gets there.  Shown by somebody else the token is refused at any time, shown by the
player it is refused when its lifetime is over, and in both cases the connection leaves no
trace but a counted attempt.  What does not begin like a token has no effect whatever. -/
theorem transfer_target_exact {player : Uuid} {issued : Millis} {text : String}
    (hclock : ∀ proxy s, env.now (slot.set proxy s) = env.now s)
    (hruns : (slot.get s).RunsUnder config) (hbackend : backend ∈ config.backends)
    (hissue : TransferToken.issue secret config.security.transferTokenTtl issued player
      backend.id = .ok text)
    (hsecret : secret ∈ (slot.get s).secrets.accepted)
    (hcounted : countAttempt env slot address s = (.ok (), counted)) :
    (∀ bytes frame claimed, ConnectFrame.decode? config.limits bytes = some frame →
      frame.playerId = some claimed → frame.Shows text →
      (claimed = player → issued ≤ env.now s →
        (env.now s).toInt ≤ issued.toInt + config.security.transferTokenTtl.toInt →
        acceptConnection env slot bytes client address certificate s =
          welcome env slot frame player client address certificate (some backend.id) counted ∧
        ((∀ kind event s, env.post kind event s = (event, s)) →
          (slot.get s).routing.router.installed = none →
          (slot.get s).plane.availability.status (env.now s) backend.id ≠ .offline →
          ∀ a, (acceptConnection env slot bytes client address certificate s).1 = .ok a →
            a.backend = backend ∧ a.reason = .byRequest)) ∧
      (claimed ≠ player → ∃ rejection,
        acceptConnection env slot bytes client address certificate s =
          (.error (.rejected rejection), counted) ∧ rejection.fault = .targetMismatch) ∧
      (claimed = player →
        issued.toInt + config.security.transferTokenTtl.toInt < (env.now s).toInt →
        ∃ rejection, acceptConnection env slot bytes client address certificate s =
          (.error (.rejected rejection), counted) ∧ rejection.fault = .expired)) ∧
    (∀ bytes frame claimed, ConnectFrame.decode? config.limits bytes = some frame →
      frame.playerId = some claimed → frame.ShowsNoTransfer →
      acceptConnection env slot bytes client address certificate s =
          welcome env slot frame claimed client address certificate none counted ∧
        ∀ bare, ConnectFrame.decode? config.limits bare =
            some { frame with referralData := none } →
          acceptConnection env slot bare client address certificate s =
            acceptConnection env slot bytes client address certificate s) ∧
    (slot.get counted).plane = (slot.get s).plane := by
  obtain ⟨hnow, hplane, hsecrets, hkeeps, hunopposed⟩ := known_of_counted hclock hcounted
  have hruns' : (slot.get counted).RunsUnder config := hkeeps config hruns
  have hsecret' : secret ∈ (slot.get counted).secrets.accepted := hsecrets.symm ▸ hsecret
  -- The call of the issuer as an order, because what a token claims is said of orders.
  have hissued : ∃ order : TransferOrder, order.ttl = config.security.transferTokenTtl ∧
      order.now = issued ∧ order.player = player ∧ order.target = backend.id ∧
      order.issue secret = .ok text :=
    ⟨⟨config.security.transferTokenTtl, issued, player, backend.id⟩, rfl, rfl, rfl, rfl, hissue⟩
  obtain ⟨order, httl, rfl, rfl, htarget, hissue⟩ := hissued
  have hpos : 0 < order.ttl := httl ▸ ProxyConfig.transferTokenTtl_pos hruns.problems
  rw [← httl]
  refine ⟨fun bytes frame claimed hdecode hplayer hshows => ?_, ?_, hplane⟩
  · have haccept : acceptConnection env slot bytes client address certificate s = _ :=
      acceptConnection_of_shows hruns' hbackend hsecret' hissue htarget hcounted hdecode hplayer
        hshows
    rw [hnow] at haccept
    refine ⟨?_, ?_, ?_⟩
    · rintro rfl hfrom huntil
      rw [TransferOrder.checkClaims_eq_ok hpos rfl hfrom huntil] at haccept
      refine ⟨haccept, fun hnobody hplain havailable a ha => ?_⟩
      rw [haccept] at ha
      have hreaches : Unopposed env slot backend counted :=
        hunopposed backend ⟨hruns.get?_of_mem hbackend, hplain, havailable⟩
      exact welcome_of_requested hreaches hclock hnobody ha
    · intro hother
      rw [TransferOrder.checkClaims_of_other (Ne.symm hother)] at haccept
      exact ⟨_, haccept, rfl⟩
    · rintro rfl hlate
      rw [TransferOrder.checkClaims_of_late hpos rfl hlate] at haccept
      exact ⟨_, haccept, rfl⟩
  · intro bytes frame claimed hdecode hplayer hshows
    have hwelcome : acceptConnection env slot bytes client address certificate s = _ :=
      acceptConnection_of_showsNoTransfer hruns' hcounted hdecode hplayer hshows
    refine ⟨hwelcome, fun bare hbare => ?_⟩
    rw [hwelcome, ← welcome_bare]
    exact acceptConnection_of_showsNoTransfer hruns' hcounted hbare hplayer nofun

end ComingBack

/-- A proxy for a lobby and an arena. -/
def twoBackends : ProxyConfig where
  security := { secret := "the lobby and the arena share this secret" }
  backends := [⟨"lobby", "10.0.0.1", 25565⟩, ⟨"arena", "10.0.0.2", 25565⟩]

/-- A token that is issued at 100 and leads player 7 to the arena. -/
def toArena : TransferToken := ⟨⟨1, .ofNat 7, "arena", 100, 30100⟩, rfl⟩

/-- The frame of a client that shows the token, with a space before it and a line feed behind. -/
def backWith (player : Uuid) : ConnectFrame where
  playerId := some player
  referralData := some ([0x20] ++ Utf8.encode
    (toArena.encode (Utf8.encode twoBackends.security.secret)) ++ [0x0A])

/-- In the last instant of the token the player gets to the arena, and nobody else does. -/
theorem transfer_target_arena :
    build twoBackends 0 = .ok (start twoBackends 0) ∧
      (∃ a, (acceptConnection Alone.env Alone.slot (backWith (.ofNat 7)).write ⟨0⟩ none none
          ⟨30100, start twoBackends 0⟩).1 = .ok a ∧
        a.backend = ⟨"arena", "10.0.0.2", 25565⟩ ∧ a.reason = .byRequest) ∧
      ∃ rejection, acceptConnection Alone.env Alone.slot (backWith (.ofNat 8)).write ⟨0⟩ none none
          ⟨30100, start twoBackends 0⟩ =
        (.error (.rejected rejection), ⟨30100, start twoBackends 0⟩) ∧
        rejection.fault = .targetMismatch := by
  have hbuilt : build twoBackends 0 = .ok (start twoBackends 0) := if_pos (by decide)
  have hruns : (Alone.slot.get ⟨30100, start twoBackends 0⟩).RunsUnder twoBackends :=
    .of_build hbuilt
  have hissue : TransferToken.issue (Utf8.encode twoBackends.security.secret)
      twoBackends.security.transferTokenTtl 100 (.ofNat 7) "arena" =
      .ok (toArena.encode (Utf8.encode twoBackends.security.secret)) := rfl
  have hwritten : ∀ player ∈ [Uuid.ofNat 7, Uuid.ofNat 8],
      ((backWith player).encode twoBackends.limits).toOption = some (backWith player).write := by
    decide +kernel
  have hread : ∀ player ∈ [Uuid.ofNat 7, Uuid.ofNat 8],
      ConnectFrame.decode? twoBackends.limits (backWith player).write = some (backWith player) :=
    fun player hplayer => ConnectFrame.decode?_of_encode (by decide)
      (toOption_eq_some_iff.mp (hwritten player hplayer))
  have hshows : ∀ player, (backWith player).Shows
      (toArena.encode (Utf8.encode twoBackends.security.secret)) :=
    fun player => ⟨[0x20], [0x0A], by simp, by simp, rfl⟩
  have hclock : ∀ (proxy : Proxy) (s : Alone Proxy),
      Alone.env.now (Alone.slot.set proxy s) = Alone.env.now s := fun _ _ => rfl
  have hbackend : (⟨"arena", "10.0.0.2", 25565⟩ : Backend) ∈ twoBackends.backends := by decide
  have hsecret : Utf8.encode twoBackends.security.secret ∈
      (Alone.slot.get ⟨30100, start twoBackends 0⟩).secrets.accepted := List.mem_cons_self ..
  have hcounted : countAttempt Alone.env Alone.slot none ⟨30100, start twoBackends 0⟩ =
      (.ok (), ⟨30100, start twoBackends 0⟩) := rfl
  obtain ⟨hshown, -, -⟩ :=
    transfer_target_exact hclock hruns hbackend hissue hsecret hcounted
  obtain ⟨hhome, -, -⟩ := hshown _ _ _ (hread (.ofNat 7) (by decide)) rfl (hshows _)
  obtain ⟨-, hother, -⟩ := hshown _ _ _ (hread (.ofNat 8) (by decide)) rfl (hshows _)
  obtain ⟨haccept, hgranted⟩ := hhome rfl (by decide) (by decide)
  have hwelcome : (welcome Alone.env Alone.slot (backWith (.ofNat 7)) (.ofNat 7) ⟨0⟩ none none
      (some "arena") ⟨30100, start twoBackends 0⟩).1.toOption.isSome = true := by decide +kernel
  obtain ⟨a, hoption⟩ := Option.isSome_iff_exists.mp hwelcome
  have ha : (acceptConnection Alone.env Alone.slot (backWith (.ofNat 7)).write ⟨0⟩ none none
      ⟨30100, start twoBackends 0⟩).1 = .ok a := by
    rw [haccept]
    exact toOption_eq_some_iff.mp hoption
  exact ⟨hbuilt, ⟨a, ha, hgranted (fun _ _ _ => rfl) rfl (by decide) a ha⟩,
    hother (by decide)⟩

end Proxy

end GameGateway
