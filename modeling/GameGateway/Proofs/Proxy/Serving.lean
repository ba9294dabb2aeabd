import GameGateway.Proofs.Handoff
import GameGateway.Proofs.Proxy.Lifecycle
import GameGateway.Proofs.Proxy.TransferTarget
import GameGateway.Proofs.Token.Length
import GameGateway.Proofs.Wire.Rewriting

/-!
# Which configurations serve

A configuration without problems is one of a proxy that finds a backend for everybody who asks
for nothing (`Proxy.selectBackend_of_bare`).  That is not enough to serve them: the backend gets
a frame with a token in it, and neither may break a rule that was not looked at.  The
certificate that the proxy claims for itself may hold a bar, which no claim may, and then
nobody is ever served.  And the token, the proxy's own address and the frame with both of them
may be longer than the limits of the same configuration.

These are all the reasons there are, so whether a client is served can be read off the
configuration, the clock and the length of its frame (`Proxy.serves_exact`), and with room for
the longest times and frames everybody is served for ever (`ProxyConfig.Ample`).
-/

namespace GameGateway

/-! ## Frames with a referral -/

namespace VarInt

/-- How many bytes a text or blob takes together with its length. -/
def sizedLength (n : Nat) : Nat := (write (UInt32.ofNat n)).length + n

theorem length_groups_le (more n : Nat) : (groups more n).length ≤ more + 1 := by
  induction more generalizing n with
  | zero => exact Nat.le_refl 1
  | succ more ih =>
      rw [groups]
      split
      · simp
      · exact Nat.succ_le_succ (ih (n / 128))

theorem sizedLength_le (n : Nat) : sizedLength n ≤ 5 + n :=
  Nat.add_le_add_right (length_groups_le 4 _) n

theorem length_writeBlob (bytes : Bytes) : (writeBlob bytes).length = sizedLength bytes.length := by
  rw [writeBlob, List.length_append, sizedLength]

theorem length_writeText (text : String) :
    (writeText text).length = sizedLength (Utf8.size text) :=
  length_writeBlob (Utf8.encode text)

end VarInt

namespace ConnectFrame

/-- The frame says who the player is and what client it is, and nothing else. -/
structure Bare (frame : ConnectFrame) (player : Uuid) : Prop where
  playerId : frame.playerId = some player
  identityToken : frame.identityToken = none
  username : frame.username = none
  referralData : frame.referralData = none
  referralSource : frame.referralSource = none

/-- How long the frame is with a referral of so many bytes from a host of so many bytes. -/
def sizeWithReferral (frame : ConnectFrame) (data host : Nat) : Nat :=
  frame.write.length + VarInt.sizedLength data + 2 + VarInt.sizedLength host

variable {limits : ProtocolLimits} {frame : ConnectFrame} {player : Uuid}

theorem length_write_withReferral (h : frame.Bare player) (data : Bytes) (source : HostAddress) :
    (frame.withReferral data source).write.length =
      frame.sizeWithReferral data.length (Utf8.size source.host) := by
  simp only [sizeWithReferral, write, withReferral, h.referralData, h.referralSource,
    writeOptional, writeSource, Bytes.ofUInt16, List.length_append, List.length_nil,
    VarInt.length_writeBlob, VarInt.length_writeText, Bytes.length_littleEndian,
    List.length_cons]
  omega

/-- A bare frame that was read is short. -/
theorem length_write_of_bare (h : frame.Bare player) (hwithin : Within limits frame) :
    frame.write.length ≤ 36 + limits.clientVersion + limits.language := by
  have hversion := VarInt.sizedLength_le (Utf8.size frame.clientVersion)
  have hlanguage := VarInt.sizedLength_le (Utf8.size frame.language)
  have hversionLimit := hwithin.clientVersion
  have hlanguageLimit := hwithin.language
  simp only [write, h.playerId, h.identityToken, h.username, h.referralData, h.referralSource,
    writeOptional, Bytes.ofUInt32, List.length_append, List.length_nil, List.length_cons,
    VarInt.length_writeText, Bytes.length_littleEndian, Uuid.length_bytes]
  omega

theorem within_of_decode? {bytes : Bytes} (h : decode? limits bytes = some frame) :
    Within limits frame := by
  unfold decode? at h
  split at h
  · cases h
  · exact (read_eq_some (Reader.whole_eq_some_iff.mp h)).1

/-- A referral can be put in a frame if it keeps to the limits. -/
theorem within_withReferral_iff (h : Within limits frame) {data : Bytes} {source : HostAddress} :
    Within limits (frame.withReferral data source) ↔
      data.length ≤ limits.referralData ∧ Utf8.size source.host ≤ limits.host := by
  constructor
  · intro hreferred
    exact ⟨hreferred.referralData data rfl, hreferred.referralSource source rfl⟩
  · rintro ⟨hdata, hhost⟩
    refine ⟨h.clientVersion, h.language, h.identityToken, h.username, ?_, ?_⟩
    · rintro _ ⟨⟩
      exact hdata
    · rintro _ ⟨⟩
      exact hhost

end ConnectFrame

/-! ## What the rules see to -/

theorem Config.checkId_eq_ok {field name id : String} (h : checkId field id = []) :
    Claims.checkId name id = .ok () := by
  unfold checkId at h
  unfold Claims.checkId
  split at h
  · cases h
  rename_i hblank
  rw [if_neg hblank]
  split at h
  · cases h
  split at h
  · cases h
  rename_i hbar
  refine Claims.checkOptional_eq_ok_iff.mpr fun text htext => ?_
  cases htext
  simpa [Claims.delimiter] using hbar

namespace ProxyConfig

open Config (sentenceIf_eq_nil_iff)

theorem checkId_of_backendProblems {seen : List String} {backends : List Backend}
    (h : backendProblems seen backends = []) :
    ∀ backend ∈ backends, Config.checkId "backends[].id" backend.id = [] := by
  induction backends generalizing seen with
  | nil => exact nofun
  | cons backend rest ih =>
      simp only [backendProblems, List.append_eq_nil_iff] at h
      obtain ⟨⟨⟨hid, -⟩, -⟩, hrest⟩ := h
      exact List.forall_mem_cons.mpr ⟨hid, ih hrest⟩

variable {config : ProxyConfig}

/-- The default backend is one of the backends, and its id can be claimed. -/
theorem exists_fallback (h : config.problems = []) :
    ∃ backend ∈ config.backends, backend.id = config.routing.fallback ∧
      Claims.checkId "target_server_id" backend.id = .ok () := by
  simp only [problems, List.append_eq_nil_iff, sentenceIf_eq_nil_iff] at h
  obtain ⟨⟨⟨⟨-, hbackends⟩, hfallback⟩, -⟩, -⟩ := h
  have hmem : config.routing.fallback ∈ config.backends.map Backend.id := by
    simpa using hfallback
  obtain ⟨backend, hbackend, hid⟩ := List.mem_map.mp hmem
  exact ⟨backend, hbackend, hid,
    Config.checkId_eq_ok (checkId_of_backendProblems hbackends backend hbackend)⟩

/-! ## What the rules leave open -/

/-- The certificate that the proxy claims for itself holds no bar. -/
def CertificateReads (config : ProxyConfig) : Prop :=
  ∀ cert, config.security.proxyCert = some cert → Claims.delimiter ∉ cert.toList

/-- How long the token is for a client without a certificate that asks for nothing: 66 bytes of
the payload are the same for all, and 47 of the text. -/
def tokenSize (config : ProxyConfig) (now : Millis) : Nat :=
  47 + (4 * (66 + Utf8.size config.routing.fallback + (Decimal.ofMillis now).length +
    (Decimal.ofMillis (now.saturatingAdd (max 1 config.security.proxyTokenTtl))).length +
    Utf8.size (config.security.proxyCert.getD "")) + 2) / 3

/-- There is room for a token with the longest times, for the proxy's address, and for both of
them in the longest frame. -/
structure Ample (config : ProxyConfig) : Prop where
  token : 47 + (4 * (104 + Utf8.size config.routing.fallback +
    Utf8.size (config.security.proxyCert.getD "")) + 2) / 3 ≤ config.limits.referralData
  host : Utf8.size config.referral.host ≤ config.limits.host
  frame : 48 + config.limits.clientVersion + config.limits.language +
    config.limits.referralData + config.limits.host ≤ config.limits.frame

theorem tokenSize_le (config : ProxyConfig) {now : Millis} (h : 0 ≤ now) :
    config.tokenSize now ≤ 47 + (4 * (104 + Utf8.size config.routing.fallback +
      Utf8.size (config.security.proxyCert.getD "")) + 2) / 3 := by
  have hspan : (0 : Millis) ≤ max 1 config.security.proxyTokenTtl :=
    Int64.le_trans (by decide) (Millis.le_max_left ..)
  have hnow := Decimal.length_ofMillis_le h
  have hlater := Decimal.length_ofMillis_le (Int64.le_trans h (Millis.le_saturatingAdd now hspan))
  rw [tokenSize]
  omega

end ProxyConfig

/-! ## Surroundings without observers -/

/-- Nobody observes the part, and nothing that it asks of its surroundings comes back to it. -/
structure Surroundings.Unobserved {σ α : Type} (env : Surroundings σ) (slot : Slot σ α) :
    Prop where
  quiet : env.Quiet slot
  nobody : ∀ kind event s, env.post kind event s = (event, s)

namespace Proxy

variable {σ : Type} {env : Surroundings σ} {slot : Slot σ Proxy} {config : ProxyConfig}
  {frame : ConnectFrame} {player : Uuid} {s : σ}

/-! ## The token and the frame -/

section Forwarding

variable {proxy : Proxy} {now : Millis} {nonce : Nonce} {backend : String}

/-- Of the claims for a client without a certificate only the proxy's own certificate is left to
be checked. -/
theorem check_claimsFor (htarget : Claims.checkId "target_server_id" backend = .ok ())
    (hnow : 0 ≤ now) :
    (proxy.claimsFor now nonce player none backend).check =
      Claims.checkOptional "proxy_cert_fingerprint" proxy.config.security.proxyCert := by
  have hspan : (0 : Millis) ≤ max 1 proxy.config.security.proxyTokenTtl :=
    Int64.le_trans (by decide) (Millis.le_max_left ..)
  have htimes : Claims.checkTimes now
      (now.saturatingAdd (max 1 proxy.config.security.proxyTokenTtl)) = .ok () := by
    rw [Claims.checkTimes, if_neg (Int64.not_lt.mpr hnow),
      if_neg (Int64.not_lt.mpr (Millis.le_saturatingAdd now hspan))]
  have hnonce : Claims.checkOptional "nonce" (some (Base64Url.encode nonce.bytes)) = .ok () := by
    refine Claims.checkOptional_eq_ok_iff.mpr fun text htext => ?_
    cases htext
    rw [Base64Url.encode, String.toList_ofList]
    intro hbar
    exact Base64Url.forall_mem_encodeChars (P := fun c => c ≠ Claims.delimiter) (by decide) _ _
      hbar rfl
  unfold ProxyClaims.check claimsFor
  dsimp only
  rw [htarget, htimes, hnonce]
  cases Claims.checkOptional "proxy_cert_fingerprint" proxy.config.security.proxyCert with
  | ok u => rfl
  | error e => rfl

theorem forward_of_check_error {clientCert : Option String} {e : TokenError}
    (h : (proxy.claimsFor now nonce player clientCert backend).check = .error e) :
    proxy.forward now nonce frame player clientCert backend = .error (.token e) := by
  have hclaims : ProxyToken.ofClaims (proxy.claimsFor now nonce player clientCert backend) =
      .error e := by
    unfold ProxyToken.ofClaims
    split
    · rename_i hchecked
      rw [h] at hchecked
      cases hchecked
    · rename_i hchecked
      rw [h] at hchecked
      cases hchecked
      rfl
  unfold forward ProxyToken.issue
  change ((ProxyToken.ofClaims (proxy.claimsFor now nonce player clientCert backend) >>=
    fun token => pure (token.encode proxy.secrets.current)).mapError GatewayError.token >>= _) = _
  rw [hclaims]
  rfl

/-- A frame can be forwarded with a token if both keep to the limits. -/
theorem exists_forward_of_token {clientCert : Option String} {token : ProxyToken}
    (h : token.claims = proxy.claimsFor now nonce player clientCert backend) :
    (∃ bytes, proxy.forward now nonce frame player clientCert backend = .ok bytes) ↔
      ∃ bytes, (frame.withReferral (Utf8.encode (token.encode proxy.secrets.current))
        proxy.config.referral).encode proxy.config.limits = .ok bytes := by
  refine exists_congr fun bytes => ?_
  constructor
  · intro hforward
    obtain ⟨other, hother, hencode⟩ := forward_eq_ok hforward
    have hsame : other = token := by
      cases other
      cases token
      cases hother.trans h.symm
      rfl
    rwa [hsame] at hencode
  · intro hencode
    unfold forward
    refine bind_eq_ok_iff.mpr
      ⟨token.encode proxy.secrets.current, ?_, mapError_eq_ok_iff.mpr hencode⟩
    exact mapError_eq_ok_iff.mpr
      (bind_eq_ok_iff.mpr ⟨token, ProxyToken.ofClaims_eq_ok_iff.mpr h, rfl⟩)

/-- What the length of the token is made of. -/
theorem size_encode_of_claims {token : ProxyToken} (hconfig : proxy.config = config)
    (h : token.claims = proxy.claimsFor now nonce player none config.routing.fallback)
    (secret : Bytes) : Utf8.size (token.encode secret) = config.tokenSize now := by
  have hnonce : Utf8.size (Base64Url.encode nonce.bytes) = 22 := by
    rw [Base64Url.encode, Base64Url.size_encodeChars, nonce.length_eq]
  have hversion : (Decimal.ofUInt32 Claims.currentVersion).length = 1 := by decide
  have hempty : Utf8.size "" = 0 := by decide
  rw [ProxyToken.size_encode, ProxyToken.length_payload, h, claimsFor, hconfig,
    ProxyConfig.tokenSize]
  simp only [Option.getD_none, Option.getD_some, hnonce, hversion, hempty]
  omega

/-- A bare frame can be forwarded with a token exactly if there is room for it. -/
theorem exists_forward_iff (hconfig : proxy.config = config)
    (htarget : Claims.checkId "target_server_id" config.routing.fallback = .ok ())
    (hnow : 0 ≤ now) (hreads : config.CertificateReads) (hbare : frame.Bare player)
    (hwithin : ConnectFrame.Within config.limits frame) :
    (∃ bytes, proxy.forward now nonce frame player none config.routing.fallback = .ok bytes) ↔
      config.tokenSize now ≤ config.limits.referralData ∧
      Utf8.size config.referral.host ≤ config.limits.host ∧
      frame.sizeWithReferral (config.tokenSize now) (Utf8.size config.referral.host) ≤
        config.limits.frame := by
  have hcheck : (proxy.claimsFor now nonce player none config.routing.fallback).check =
      .ok () := by
    rw [check_claimsFor htarget hnow, hconfig]
    exact Claims.checkOptional_eq_ok_iff.mpr hreads
  let token : ProxyToken := ⟨_, hcheck⟩
  have htoken : token.claims =
      proxy.claimsFor now nonce player none config.routing.fallback := rfl
  have hsize : (Utf8.encode (token.encode proxy.secrets.current)).length = config.tokenSize now :=
    size_encode_of_claims hconfig htoken proxy.secrets.current
  rw [exists_forward_of_token htoken, hconfig]
  simp only [ConnectFrame.encode_eq_ok_iff, ConnectFrame.within_withReferral_iff hwithin,
    ConnectFrame.length_write_withReferral hbare, hsize, and_assoc, exists_and_left, exists_eq',
    and_true]

end Forwarding

/-! ## The way there -/

/-- Somebody who asks for nothing gets to the default backend if nothing speaks against it. -/
theorem selectBackend_of_bare (h : env.Unobserved slot) {backend : Backend}
    (hunopposed : Unopposed env slot backend s)
    (hfallback : (slot.get s).routing.router.fallback = backend.id)
    (hfree : (slot.get s).routing.limiter.count < (slot.get s).routing.limiter.limit)
    {context : RoutingContext} (hrequested : context.requested = none) :
    (selectBackend env slot context true s).1 = .ok ⟨backend, .byDefault⟩ := by
  have hleased : Unopposed env slot backend (Routing.leased (slot.comp routingSlot) s) :=
    hunopposed.set h.quiet.now_set rfl rfl
  have hsame : (slot.get (Routing.leased (slot.comp routingSlot) s)).routing.router.fallback =
      (slot.get s).routing.router.fallback := by
    rw [Routing.leased, Slot.get_modify_comp]
    rfl
  have havailable : isUnavailable env slot (Routing.leased (slot.comp routingSlot) s)
      backend.id = false := decide_eq_false hleased.available
  have hpick : (slot.get (Routing.leased (slot.comp routingSlot) s)).routing.router.strategy.pick
      context true = backend.id := by
    unfold Router.strategy
    rw [hleased.plain]
    exact hsame.trans hfallback
  unfold selectBackend
  rw [Routing.select_fst hfree (h.nobody _ _ _)]
  refine (choose_of_pick hpick hleased.registered hleased.plain havailable).trans ?_
  rw [hrequested, if_neg (Option.some_ne_none backend.id).symm]

/-- Once a backend is chosen, forwarding decides. -/
theorem route_fst (h : env.Quiet slot) (id : SessionId) (player : Uuid)
    {address : Option ClientAddress} {requested : Option String} {selection : Selection}
    (hselected : (selectBackend env slot
      { RoutingContext.ofFrame frame address with requested := requested } requested.isNone
      s).1 = .ok selection) :
    ∃ nonce, (route env slot id frame player address requested s).1 =
      ((slot.get s).forward (env.now s) nonce frame player
        (((slot.get s).session? id).bind Session.clientCert) selection.backend.id).map
        fun bytes => ⟨id, selection.backend, selection.reason, bytes⟩ := by
  have hundisturbed := selectBackend_undisturbed h
    { RoutingContext.ofFrame frame address with requested := requested } requested.isNone s
  unfold route
  dsimp only
  split
  · rename_i hfailed
    rw [hfailed] at hselected
    cases hselected
  · rename_i chosen last hchosen
    rw [hchosen] at hselected hundisturbed
    cases hselected
    have hdrawn := hundisturbed.trans (.draw h last)
    refine ⟨(env.draw last).1, ?_⟩
    have hforward : ∀ nonce, (slot.get (env.draw last).2).forward (env.now (env.draw last).2)
        nonce frame player
        (((slot.get (env.draw last).2).session? id).bind Session.clientCert)
        selection.backend.id = (slot.get s).forward (env.now s) nonce frame player
        (((slot.get s).session? id).bind Session.clientCert) selection.backend.id := by
      intro nonce
      rw [forward_congr hdrawn.config hdrawn.secrets, hdrawn.now, session?, session?,
        hdrawn.plane]
    rw [hforward]
    split
    · rename_i herror
      rw [herror]
      rfl
    · rename_i hok
      rw [hok]
      rfl

theorem welcome_fst (client : ConnectionId) (address : Option ClientAddress)
    (certificate : Option Bytes) (requested : Option String) :
    (welcome env slot frame player client address certificate requested s).1 =
      (route env slot (greet env slot frame player client address certificate requested s).1 frame
        player address requested
        (greet env slot frame player client address certificate requested s).2).1 := by
  rw [welcome_eq]
  dsimp only
  split
  · rename_i hok
    rw [hok]
  · rename_i herror
    rw [herror]

/-- Where nobody observes, greeting a client only opens its session. -/
theorem greet_snd (h : env.Unobserved slot) (frame : ConnectFrame) (player : Uuid)
    (client : ConnectionId) (address : Option ClientAddress) (certificate : Option Bytes)
    (requested : Option String) (s : σ) :
    (greet env slot frame player client address certificate requested s).2 =
      slot.set ((slot.get s).openSession frame player client certificate).2.2 s := by
  unfold greet announceReplaced announceEnd
  dsimp only
  rw [h.nobody]
  split
  · rfl
  · rw [h.nobody]

theorem build_eq_ok {opened : Millis} {proxy : Proxy} (h : build config opened = .ok proxy) :
    proxy = start config opened := by
  have hproblems := (RunsUnder.of_build h).problems
  unfold build at h
  rw [if_pos (List.isEmpty_iff.mpr hproblems)] at h
  exact (Except.ok.inj h).symm

/-- A proxy that was just built has no reason not to send anybody to one of its backends. -/
theorem unopposed_of_build {opened : Millis} (h : build config opened = .ok (slot.get s))
    {backend : Backend} (hmem : backend ∈ config.backends) : Unopposed env slot backend s where
  registered := (RunsUnder.of_build h).get?_of_mem hmem
  plain := by
    rw [build_eq_ok h]
    rfl
  available := by
    rw [build_eq_ok h]
    exact nofun

/-- Somebody who asks for nothing is sent to the default backend of a proxy that was just
built, also when the session has been opened. -/
theorem selectBackend_of_build (h : env.Unobserved slot) {opened : Millis}
    (hbuilt : build config opened = .ok (slot.get s)) (other : Proxy) (context : RoutingContext)
    (hrouting : other.routing = (slot.get s).routing)
    (havailability : other.plane.availability = (slot.get s).plane.availability)
    (hrequested : context.requested = none) :
    ∃ backend, backend.id = config.routing.fallback ∧
      (selectBackend env slot context true (slot.set other s)).1 = .ok ⟨backend, .byDefault⟩ := by
  obtain ⟨backend, hbackend, hid, -⟩ :=
    ProxyConfig.exists_fallback (RunsUnder.of_build hbuilt).problems
  have hunopposed : Unopposed env slot backend (slot.set other s) :=
    (unopposed_of_build hbuilt hbackend).set h.quiet.now_set (congrArg Routing.router hrouting)
      havailability
  have hstart : (slot.get (slot.set other s)).routing = (start config opened).routing := by
    rw [slot.get_set, hrouting, build_eq_ok hbuilt]
  refine ⟨backend, hid, selectBackend_of_bare h hunopposed ?_ ?_ hrequested⟩
  · rw [hstart]
    exact hid.symm
  · rw [hstart]
    exact Nat.lt_of_lt_of_le Nat.zero_lt_one (Nat.le_max_left 1 _)

/-- What becomes of a bare frame at a new proxy is up to forwarding. -/
theorem acceptConnection_of_bare (h : env.Unobserved slot) {opened : Millis} {bytes : Bytes}
    (hbuilt : build config opened = .ok (slot.get s))
    (hdecode : ConnectFrame.decode? config.limits bytes = some frame) (hbare : frame.Bare player)
    (client : ConnectionId) :
    ∃ id backend nonce, (acceptConnection env slot bytes client none none s).1 =
      ((slot.get s).forward (env.now s) nonce frame player none config.routing.fallback).map
        fun forwarded => ⟨id, backend, .byDefault, forwarded⟩ := by
  have haccept : acceptConnection env slot bytes client none none s = _ :=
    acceptConnection_of_showsNoTransfer (.of_build hbuilt) rfl hdecode hbare.playerId
      (fun data hdata => by rw [hbare.referralData] at hdata; cases hdata)
  let opening := (slot.get s).openSession frame player client none
  obtain ⟨backend, hid, hselected⟩ := selectBackend_of_build h hbuilt opening.2.2
    { RoutingContext.ofFrame frame none with requested := none } rfl rfl rfl
  obtain ⟨nonce, hrouted⟩ := route_fst h.quiet opening.1 player hselected
  have hcert : (opening.2.2.session? opening.1).bind Session.clientCert = none :=
    (slot.get s).clientCert_openSession frame player client none
  have hforward : opening.2.2.forward = (slot.get s).forward := forward_congr rfl rfl
  refine ⟨opening.1, backend, nonce, ?_⟩
  rw [haccept, welcome_fst, greet_snd h]
  refine hrouted.trans ?_
  rw [slot.get_set, h.quiet.now_set, hcert, hforward, hid]

/-! ## Who is served -/

section Serving

variable {opened : Millis} {bytes : Bytes}

/-- A proxy whose own certificate holds a bar refuses everybody. -/
theorem acceptConnection_of_bar (h : env.Unobserved slot)
    (hbuilt : build config opened = .ok (slot.get s)) (hnow : 0 ≤ env.now s)
    (hdecode : ConnectFrame.decode? config.limits bytes = some frame) (hbare : frame.Bare player)
    (hbar : ¬ config.CertificateReads) (client : ConnectionId) :
    (acceptConnection env slot bytes client none none s).1 =
      .error (.token (.invalidClaim "proxy_cert_fingerprint" .delimiter)) := by
  have hruns : (slot.get s).RunsUnder config := .of_build hbuilt
  obtain ⟨id, backend, nonce, haccept⟩ := acceptConnection_of_bare h hbuilt hdecode hbare client
  obtain ⟨fallback, -, hid, htarget⟩ := ProxyConfig.exists_fallback hruns.problems
  have hcheck : ((slot.get s).claimsFor (env.now s) nonce player none
      config.routing.fallback).check =
        .error (.invalidClaim "proxy_cert_fingerprint" .delimiter) := by
    rw [check_claimsFor (hid ▸ htarget) hnow, hruns.config_eq]
    obtain ⟨cert, hcert⟩ := not_forall.mp hbar
    obtain ⟨hsome, hmem⟩ := Classical.not_imp.mp hcert
    rw [hsome, Claims.checkOptional]
    exact if_pos (Classical.not_not.mp hmem)
  rw [haccept, forward_of_check_error hcheck]
  rfl

/-- **Which configurations serve.**  A client that says who the player is and what client it is,
and nothing else, comes to a proxy that was just built and that nobody observes.  It is served
if and only if the certificate that the proxy claims for itself holds no bar, and the limits of
the configuration leave room for the token, for the proxy's address, and for the frame with
both.  With a bar in the certificate it is refused for that reason, whatever it says and
whenever it comes.  Without one, and with ample room, it is served. -/
theorem serves_exact (h : env.Unobserved slot) (hbuilt : build config opened = .ok (slot.get s))
    (hnow : 0 ≤ env.now s) (hdecode : ConnectFrame.decode? config.limits bytes = some frame)
    (hbare : frame.Bare player) (client : ConnectionId) :
    ((∃ a, (acceptConnection env slot bytes client none none s).1 = .ok a) ↔
      config.CertificateReads ∧
      config.tokenSize (env.now s) ≤ config.limits.referralData ∧
      Utf8.size config.referral.host ≤ config.limits.host ∧
      frame.sizeWithReferral (config.tokenSize (env.now s)) (Utf8.size config.referral.host) ≤
        config.limits.frame) ∧
    (¬ config.CertificateReads → (acceptConnection env slot bytes client none none s).1 =
      .error (.token (.invalidClaim "proxy_cert_fingerprint" .delimiter))) ∧
    (config.CertificateReads → config.Ample →
      ∃ a, (acceptConnection env slot bytes client none none s).1 = .ok a) := by
  have hruns : (slot.get s).RunsUnder config := .of_build hbuilt
  have hwithin : ConnectFrame.Within config.limits frame := ConnectFrame.within_of_decode? hdecode
  obtain ⟨fallback, -, hid, htarget⟩ := ProxyConfig.exists_fallback hruns.problems
  have hbar := fun hbarred =>
    acceptConnection_of_bar h hbuilt hnow hdecode hbare hbarred client
  have hrooms : config.CertificateReads →
      ((∃ a, (acceptConnection env slot bytes client none none s).1 = .ok a) ↔
        config.tokenSize (env.now s) ≤ config.limits.referralData ∧
        Utf8.size config.referral.host ≤ config.limits.host ∧
        frame.sizeWithReferral (config.tokenSize (env.now s)) (Utf8.size config.referral.host) ≤
          config.limits.frame) := by
    intro hreads
    obtain ⟨id, backend, nonce, haccept⟩ := acceptConnection_of_bare h hbuilt hdecode hbare client
    rw [haccept, exists_map_ok_iff]
    exact exists_forward_iff hruns.config_eq (hid ▸ htarget) hnow hreads hbare hwithin
  refine ⟨?_, hbar, fun hreads hample => ?_⟩
  · by_cases hreads : config.CertificateReads
    · rw [hrooms hreads]
      exact (and_iff_right hreads).symm
    · constructor
      · rintro ⟨a, ha⟩
        cases ha.symm.trans (hbar hreads)
      · exact fun hall => absurd hall.1 hreads
  · have htoken := config.tokenSize_le hnow
    have hframe := ConnectFrame.length_write_of_bare hbare hwithin
    have hdataSize := VarInt.sizedLength_le (config.tokenSize (env.now s))
    have hhostSize := VarInt.sizedLength_le (Utf8.size config.referral.host)
    have hroomy := hample.token
    have haddress := hample.host
    have hwhole := hample.frame
    refine (hrooms hreads).mpr ⟨by omega, haddress, ?_⟩
    rw [ConnectFrame.sizeWithReferral]
    omega

end Serving

/-! ## A lobby that serves and one that does not -/

theorem unobserved_alone {α : Type} : (Alone.env : Surroundings (Alone α)).Unobserved Alone.slot :=
  ⟨Alone.quiet, fun _ _ _ => rfl⟩

theorem hello_bare : hello.Bare (.ofNat 7) := ⟨rfl, rfl, rfl, rfl, rfl⟩

/-- The lobby with the settings that are in force if nothing else is said serves a client that
says hello. -/
theorem lobby_serves :
    build lobbyProxy 0 = .ok (start lobbyProxy 0) ∧ lobbyProxy.CertificateReads ∧
      lobbyProxy.Ample ∧
      ∃ a, (acceptConnection Alone.env Alone.slot hello.write ⟨0⟩ none none
        ⟨100, start lobbyProxy 0⟩).1 = .ok a := by
  have hbuilt : build lobbyProxy 0 = .ok (start lobbyProxy 0) := if_pos (by decide)
  have hdecode : ConnectFrame.decode? lobbyProxy.limits hello.write = some hello := by
    decide +kernel
  have hnow : 0 ≤ Alone.env.now (⟨100, start lobbyProxy 0⟩ : Alone Proxy) :=
    show (0 : Millis) ≤ 100 by decide
  have hreads : lobbyProxy.CertificateReads := by
    rintro cert ⟨⟩
    decide
  have hample : lobbyProxy.Ample := ⟨by decide, by decide, by decide⟩
  obtain ⟨-, -, hserved⟩ := serves_exact (s := ⟨100, start lobbyProxy 0⟩) unobserved_alone
    hbuilt hnow hdecode hello_bare ⟨0⟩
  exact ⟨hbuilt, hreads, hample, hserved hreads hample⟩

/-- The same lobby behind a proxy that claims a certificate with a bar in it. -/
def barredProxy : ProxyConfig :=
  { lobbyProxy with security := { lobbyProxy.security with proxyCert := some "a|b" } }

/-- A configuration without problems may refuse everybody. -/
theorem barred_never_serves :
    ¬ ∀ (σ : Type) (env : Surroundings σ) (slot : Slot σ Proxy) (config : ProxyConfig)
        (opened : Millis) (s : σ) (bytes : Bytes) (frame : ConnectFrame) (player : Uuid)
        (client : ConnectionId),
      env.Unobserved slot → build config opened = .ok (slot.get s) → 0 ≤ env.now s →
      ConnectFrame.decode? config.limits bytes = some frame → frame.Bare player →
      ∃ a, (acceptConnection env slot bytes client none none s).1 = .ok a := by
  intro h
  have hbuilt : build barredProxy 0 = .ok (start barredProxy 0) := if_pos (by decide)
  have hdecode : ConnectFrame.decode? barredProxy.limits hello.write = some hello := by
    decide +kernel
  have hnow : 0 ≤ Alone.env.now (⟨100, start barredProxy 0⟩ : Alone Proxy) :=
    show (0 : Millis) ≤ 100 by decide
  have hbar : ¬ barredProxy.CertificateReads := fun hreads => hreads "a|b" rfl (by decide)
  obtain ⟨a, ha⟩ := h _ Alone.env Alone.slot barredProxy 0 ⟨100, start barredProxy 0⟩ hello.write
    hello (.ofNat 7) ⟨0⟩ unobserved_alone hbuilt hnow hdecode hello_bare
  have hrefused := acceptConnection_of_bar (s := ⟨100, start barredProxy 0⟩) unobserved_alone
    hbuilt hnow hdecode hello_bare hbar ⟨0⟩
  cases ha.symm.trans hrefused

end Proxy

end GameGateway
